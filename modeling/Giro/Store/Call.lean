import Giro.Store.Transaction

/-!
# Calls

Every operation of the store as a value, with the type of its answer, and `Store.perform`, which
carries one out. Only two calls may have to wait for a row; `Store.resume` goes on with such a call
when its request has come to the row.
-/

namespace Giro

inductive Call where
  | ping
  | createUser (new : NewUser)
  | getUser (username : String)
  | createSession (new : NewSession)
  | getSession (id : Uuid)
  | createAccount (new : NewAccount)
  | getAccount (id : Int)
  | listAccounts (owner : String) (window : Window)
  | deleteAccount (id : Int)
  | getEntry (id : Int)
  | listEntries (account : Int) (window : Window)
  | getTransfer (id : Int)
  | listTransfers (source target : Int) (window : Window)
  | begin
  | stageTransfer (ticket : Nat) (source target : Int) (amount : Amount)
  | stageEntry (ticket : Nat) (account : Int) (amount : Amount)
  | addBalance (ticket : Nat) (account : Int) (amount : Amount)
  | commit (ticket : Nat)
  | rollback (ticket : Nat)

/-- What a call answers when it succeeds. -/
@[reducible] def Call.Reply : Call → Type
  | .ping | .deleteAccount _ | .commit _ | .rollback _ => Unit
  | .createUser _ | .getUser _ => User
  | .createSession _ | .getSession _ => Session
  | .createAccount _ | .getAccount _ | .addBalance _ _ _ => Account
  | .listAccounts _ _ => List Account
  | .getEntry _ | .stageEntry _ _ _ => Entry
  | .listEntries _ _ => List Entry
  | .getTransfer _ | .stageTransfer _ _ _ _ => Transfer
  | .listTransfers _ _ _ => List Transfer
  | .begin => Nat

/-- The open transactions of a caller after a call, if it has `opened` before. -/
def Call.track : (c : Call) → Except StoreError c.Reply → List Nat → List Nat
  | .begin, .ok ticket, opened => ticket :: opened
  | .commit ticket, _, opened => opened.erase ticket
  | .rollback ticket, _, opened => opened.erase ticket
  | _, _, opened => opened

namespace Store

/-- An answer that comes with the next store, or an error that leaves the store as it is. -/
def settle {α : Type} (s : Store) : Except StoreError (α × Store) → Store × Status α
  | .ok (a, next) => (next, .answered (.ok a))
  | .error e => (s, .answered (.error e))

def perform (now : Timestamp) : (c : Call) → Store → Store × Status c.Reply
  | .ping, s => (s, .answered (.ok ()))
  | .createUser new, s => s.settle (s.createUser new now)
  | .getUser username, s => (s, .answered (s.getUser username))
  | .createSession new, s => s.settle (s.createSession new now)
  | .getSession id, s => (s, .answered (s.getSession id))
  | .createAccount new, s => s.settle (s.createAccount new now)
  | .getAccount id, s => (s, .answered (s.getAccount id))
  | .listAccounts owner window, s => (s, .answered (.ok (s.listAccounts owner window)))
  | .deleteAccount id, s => s.deleteAccount id
  | .getEntry id, s => (s, .answered (s.getEntry id))
  | .listEntries account window, s => (s, .answered (.ok (s.listEntries account window)))
  | .getTransfer id, s => (s, .answered (s.getTransfer id))
  | .listTransfers source target window, s =>
    (s, .answered (.ok (s.listTransfers source target window)))
  | .begin, s => (s.begin.2, .answered (.ok s.begin.1))
  | .stageTransfer ticket source target amount, s =>
    s.settle (s.stageTransfer ticket source target amount now)
  | .stageEntry ticket account amount, s => s.settle (s.stageEntry ticket account amount now)
  | .addBalance ticket account amount, s => s.addBalance ticket account amount
  | .commit ticket, s => s.settle ((s.commit ticket).map fun next => ((), next))
  | .rollback ticket, s => s.settle ((s.rollback ticket).map fun next => ((), next))

/-- Goes on with a call that waits. -/
def resume (now : Timestamp) (r : LockRequest) (c : Call) (s : Store) : Store × Status c.Reply :=
  if s.Holds r then
    match c with
    | .addBalance _ _ amount =>
      let (next, answer) := s.addGranted r amount
      (next, .answered answer)
    | .deleteAccount _ =>
      let (next, answer) := s.deleteGranted r
      (next, .answered answer)
    | c => s.perform now c
  else (s, .waiting r)

end Store
end Giro
