import Giro.Store.Lock

/-!
# Transactions

A transaction stages new rows and private copies of the accounts it changes. It locks the row of an
account when it first changes its balance and keeps it to the end. `commit` publishes what is staged
and then gives the rows back; `discard` only gives them back. The numbers of staged rows are taken
for good either way.
-/

namespace Giro

namespace Transaction

/-- The private copy of a locked row. -/
def row? (tx : Transaction) (account : Int) : Option Account :=
  Store.Table.find? Account.id account tx.rows

def setBalance (account : Int) (balance : Amount) (a : Account) : Account :=
  if a.id = account then { a with balance } else a

/-- A committed row as it is after the commit. -/
def publish (tx : Transaction) (a : Account) : Account :=
  match tx.row? a.id with
  | some row => { a with balance := row.balance }
  | none => a

end Transaction

namespace Store

variable (s : Store)

def transaction? (ticket : Nat) : Option Transaction :=
  s.transactions.find? fun tx => tx.ticket == ticket

def update (ticket : Nat) (f : Transaction → Transaction) : Store :=
  { s with transactions := s.transactions.map fun tx => if tx.ticket = ticket then f tx else tx }

def noTransaction : StoreError := .aborted "no open transaction"

def begin : Nat × Store :=
  let (ticket, drawn) := s.draw
  (ticket, { drawn with transactions := drawn.transactions ++ [{ ticket }] })

/-- Stages a transfer between two accounts that exist now. -/
def stageTransfer (ticket : Nat) (source target : Int) (amount : Amount) (now : Timestamp) :
    Except StoreError (Transfer × Store) :=
  if (s.transaction? ticket).isNone then .error noTransaction
  else if amount ≤ 0 then .error (.constraint .amountNotPositive)
  else if (s.tables.account? source).isNone then
    .error (.constraint (.transferAccountMissing source))
  else if (s.tables.account? target).isNone then
    .error (.constraint (.transferAccountMissing target))
  else
    let transfer : Transfer :=
      { id := s.issued.transfer + 1, source, target, amount, createdAt := now }
    let counted := { s with issued.transfer := s.issued.transfer + 1 }
    .ok (transfer,
      counted.update ticket fun tx => { tx with transfers := tx.transfers ++ [transfer] })

/-- Stages an entry on an account that exists now. -/
def stageEntry (ticket : Nat) (account : Int) (amount : Amount) (now : Timestamp) :
    Except StoreError (Entry × Store) :=
  if (s.transaction? ticket).isNone then .error noTransaction
  else if (s.tables.account? account).isNone then
    .error (.constraint (.entryAccountMissing account))
  else
    let entry : Entry := { id := s.issued.entry + 1, account, amount, createdAt := now }
    let counted := { s with issued.entry := s.issued.entry + 1 }
    .ok (entry, counted.update ticket fun tx => { tx with entries := tx.entries ++ [entry] })

/-- Adds to the private copy of a row. -/
def addStaged (ticket : Nat) (row : Account) (amount : Amount) :
    Except StoreError (Account × Store) :=
  match Amount.add? row.balance amount with
  | none => .error (.constraint .balanceOutOfRange)
  | some balance =>
    .ok ({ row with balance },
      s.update ticket fun tx =>
        { tx with rows := tx.rows.map (Transaction.setBalance row.id balance) })

/-- Copies the row that the request has got and adds to the copy. The account may have gone while
the request waited; then the row is given back. A sum out of range leaves the row locked. -/
def addGranted (r : LockRequest) (amount : Amount) : Store × Except StoreError Account :=
  match s.tables.account? r.account with
  | none => (s.withdraw r, .error (.notFound (.account r.account)))
  | some row =>
    let copied := s.update r.ticket fun tx => { tx with rows := tx.rows ++ [row] }
    match copied.addStaged r.ticket row amount with
    | .ok (row, next) => (next, .ok row)
    | .error e => (copied, .error e)

/-- Adds to a balance, first locking the row if the transaction has not done so. -/
def addBalance (ticket : Nat) (account : Int) (amount : Amount) : Store × Status Account :=
  match s.transaction? ticket with
  | none => (s, .answered (.error noTransaction))
  | some tx =>
    match tx.row? account with
    | some row =>
      match s.addStaged ticket row amount with
      | .ok (row, next) => (next, .answered (.ok row))
      | .error e => (s, .answered (.error e))
    | none =>
      match s.request? ⟨ticket, account⟩ with
      | none => (s, .answered (.error (.notFound (.account account))))
      | some queued =>
        if queued.Holds ⟨ticket, account⟩ then
          let (next, answer) := queued.addGranted ⟨ticket, account⟩ amount
          (next, .answered answer)
        else (queued, .waiting ⟨ticket, account⟩)

/-- Ends a transaction without a trace in the tables. -/
def discard (ticket : Nat) : Store :=
  { s with
    requests := s.requests.filter fun r => r.ticket ≠ ticket
    transactions := s.transactions.filter fun tx => tx.ticket ≠ ticket }

/-- Makes the tables show what a transaction has staged. -/
def publish (tx : Transaction) : Store :=
  { s with
    tables.accounts := s.tables.accounts.map tx.publish
    tables.transfers := Table.insertAll Transfer.id tx.transfers s.tables.transfers
    tables.entries := Table.insertAll Entry.id tx.entries s.tables.entries }

def commit (ticket : Nat) : Except StoreError Store :=
  match s.transaction? ticket with
  | none => .error noTransaction
  | some tx => .ok ((s.publish tx).discard ticket)

def rollback (ticket : Nat) : Except StoreError Store :=
  if (s.transaction? ticket).isNone then .error noTransaction else .ok (s.discard ticket)

end Store
end Giro
