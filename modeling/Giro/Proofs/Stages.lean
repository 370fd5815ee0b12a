import Giro.Proofs.Callers
import Giro.Proofs.Staging

/-!
# The stages of a transfer

A transfer makes the same calls in the same order whatever it meets, and after its first error only
gives up. `Stage` says how far it has come and what it has been answered; `program_eq` reads the
rest of its program off its stage.
-/

namespace Giro

namespace TransferOrder

variable (o : TransferOrder)

/-- The account whose row is locked first. -/
def first : Int := if o.source < o.target then o.source else o.target
def second : Int := if o.source < o.target then o.target else o.source
def firstAmount : Amount := if o.source < o.target then -o.amount else o.amount
def secondAmount : Amount := if o.source < o.target then o.amount else -o.amount

/-- The source and the target, from their rows in the order in which they were locked. -/
def sides (a b : Account) : Account × Account :=
  if o.source < o.target then (a, b) else (b, if o.source = o.target then b else a)

def posted (f : Transfer) (d c : Entry) (a b : Account) : Posted :=
  ⟨f, (o.sides a b).1, (o.sides a b).2, d, c⟩

theorem moveMoney_eq (t : Nat) : o.moveMoney t = do
    let a ← Attempt.call (.addBalance t o.first o.firstAmount)
    let b ← Attempt.call (.addBalance t o.second o.secondAmount)
    return o.sides a b := by
  by_cases h : o.source < o.target
  · rw [first, second, firstAmount, secondAmount, if_pos h, if_pos h, if_pos h, if_pos h]
    simp only [moveMoney, sides, if_pos h, addMoney]
  · rw [first, second, firstAmount, secondAmount, if_neg h, if_neg h, if_neg h, if_neg h]
    simp only [moveMoney, sides, if_neg h, addMoney, bind_assoc, pure_bind]

theorem first_le_second : o.first ≤ o.second := by
  unfold first second
  split <;> omega

variable {o}

theorem sides_of {P : Int → Prop} (hfirst : P o.first) (hsecond : P o.second) :
    P o.source ∧ P o.target := by
  by_cases h : o.source < o.target
  · rw [first, if_pos h] at hfirst
    rw [second, if_pos h] at hsecond
    exact ⟨hfirst, hsecond⟩
  · rw [first, if_neg h] at hfirst
    rw [second, if_neg h] at hsecond
    exact ⟨hsecond, hfirst⟩

variable (o) in
theorem exists_sides {rows : List Account} {a b : Account}
    (first : Account.Changed rows o.first o.firstAmount a)
    (second : Account.Changed (rows.map (Transaction.setBalance a.id a.balance)) o.second
      o.secondAmount b) : (∃ x ∈ rows, x.id = o.source) ∧ ∃ x ∈ rows, x.id = o.target := by
  apply sides_of (P := fun n => ∃ x ∈ rows, x.id = n)
  · obtain ⟨x, hx, hid, _⟩ := first
    exact ⟨x, hx, hid⟩
  · obtain ⟨y, hy, hid, _⟩ := second
    obtain ⟨x, hx, rfl⟩ := List.mem_map.mp hy
    rw [Transaction.id_setBalance] at hid
    exact ⟨x, hx, hid⟩

theorem not_le_of_check (h : o.check = .ok ()) : ¬ o.amount ≤ 0 := by
  unfold check at h
  split at h
  · cases h
  · split at h
    · cases h
    · assumption

theorem amount_pos (h : o.check = .ok ()) : 0 < o.amount.toInt := by
  have := not_le_of_check h
  rw [Int64.le_iff_toInt_le] at this
  simpa using this

end TransferOrder

inductive Stage where
  | fresh
  | begun (t : Nat)
  | recorded (t : Nat) (f : Transfer)
  | debited (t : Nat) (f : Transfer) (d : Entry)
  | credited (t : Nat) (f : Transfer) (d c : Entry)
  | half (t : Nat) (f : Transfer) (d c : Entry) (a : Account)
  | full (t : Nat) (f : Transfer) (d c : Entry) (a b : Account)
  | failed (t : Nat) (cause : StoreError)

namespace Stage

open Attempt

variable (o : TransferOrder)

def ticket? : Stage → Option Nat
  | .fresh => none
  | .begun t | .recorded t _ | .debited t _ _ | .credited t _ _ _ => some t
  | .half t _ _ _ _ | .full t _ _ _ _ _ | .failed t _ => some t

def call : Stage → Call
  | .fresh => .begin
  | .begun t => .stageTransfer t o.source o.target o.amount
  | .recorded t _ => .stageEntry t o.source (-o.amount)
  | .debited t _ _ => .stageEntry t o.target o.amount
  | .credited t _ _ _ => .addBalance t o.first o.firstAmount
  | .half t _ _ _ _ => .addBalance t o.second o.secondAmount
  | .full t _ _ _ _ _ => .commit t
  | .failed t _ => .rollback t

/-- Where an answer leads: to another stage or to the end. -/
def next : (st : Stage) → Except StoreError (st.call o).Reply → Stage ⊕ Except StoreError Receipt
  | .fresh, .ok t => .inl (.begun t)
  | .fresh, .error e => .inr (.error e)
  | .begun t, .ok f => .inl (.recorded t f)
  | .begun t, .error e => .inl (.failed t e)
  | .recorded t f, .ok d => .inl (.debited t f d)
  | .recorded t _, .error e => .inl (.failed t e)
  | .debited t f d, .ok c => .inl (.credited t f d c)
  | .debited t _ _, .error e => .inl (.failed t e)
  | .credited t f d c, .ok a => .inl (.half t f d c a)
  | .credited t _ _ _, .error e => .inl (.failed t e)
  | .half t f d c a, .ok b => .inl (.full t f d c a b)
  | .half t _ _ _ _, .error e => .inl (.failed t e)
  | .full _ f d c a b, .ok () => .inr (.ok (.posted (o.posted f d c a b)))
  | .full _ _ _ _ _ _, .error e => .inr (.error e)
  | .failed _ cause, .ok () => .inr (.error cause)
  | .failed _ cause, .error e => .inr (.error (.rollbackFailed cause e))

/-- How a transaction ends once its body has ended. -/
def conclude (t : Nat) : Except StoreError Posted → Program (Except StoreError Receipt)
  | .ok p => .ask (.commit t) fun
    | .ok () => .done (.ok (.posted p))
    | .error e => .done (.error e)
  | .error cause => .ask (.rollback t) fun
    | .ok () => .done (.error cause)
    | .error rollback => .done (.error (.rollbackFailed cause rollback))

/-- What is left of the program of a transfer. -/
def program : Stage → Program (Except StoreError Receipt)
  | .fresh => .ask .begin fun
    | .ok t => (o.stage t).run.bind (conclude t)
    | .error e => .done (.error e)
  | .begun t => (o.stage t).run.bind (conclude t)
  | .recorded t f => (ExceptT.run do
      let d ← Attempt.call (.stageEntry t o.source (-o.amount))
      let c ← Attempt.call (.stageEntry t o.target o.amount)
      let (source, target) ← o.moveMoney t
      return ⟨f, source, target, d, c⟩).bind (conclude t)
  | .debited t f d => (ExceptT.run do
      let c ← Attempt.call (.stageEntry t o.target o.amount)
      let (source, target) ← o.moveMoney t
      return ⟨f, source, target, d, c⟩).bind (conclude t)
  | .credited t f d c => (ExceptT.run do
      let (source, target) ← o.moveMoney t
      return ⟨f, source, target, d, c⟩).bind (conclude t)
  | .half t f d c a => (ExceptT.run do
      let b ← Attempt.call (.addBalance t o.second o.secondAmount)
      return o.posted f d c a b).bind (conclude t)
  | .full t f d c a b => conclude t (.ok (o.posted f d c a b))
  | .failed t cause => conclude t (.error cause)

/-- A transfer at a stage makes the call of the stage and is then at the next one. -/
theorem program_eq (st : Stage) : st.program o = .ask (st.call o) fun answer =>
    match st.next o answer with
    | .inl st => st.program o
    | .inr result => .done result := by
  cases st with
  | credited t f d c =>
    simp only [program, o.moveMoney_eq, bind_assoc]
    refine congrArg (Program.ask _) (funext fun answer => ?_)
    cases answer <;> rfl
  | _ =>
    refine congrArg (Program.ask _) (funext fun answer => ?_)
    cases answer <;> rfl

theorem attempt_eq : (Job.transfer o).attempt.run =
    match o.check with
    | .ok () => program o .fresh
    | .error e => .done (.error (.invalid e)) := by
  have hpost : (Job.transfer o).attempt.run = ExceptT.run (.posted <$> do
      Attempt.demand (o.check.mapError .invalid)
      Attempt.atomically o.stage) := rfl
  cases h : o.check with
  | error e =>
    rw [hpost, h]
    rfl
  | ok u =>
    rw [hpost, h]
    refine congrArg (Program.ask _) (funext fun answer => ?_)
    cases answer with
    | error e => rfl
    | ok t =>
      refine (Program.bind_assoc (o.stage t).run _ _).trans (congrArg _ (funext fun r => ?_))
      cases r with
      | ok p =>
        refine congrArg (Program.ask _) (funext fun answer => ?_)
        cases answer <;> rfl
      | error cause =>
        refine congrArg (Program.ask _) (funext fun answer => ?_)
        cases answer <;> rfl

end Stage

/-! ## What a stage means for the store -/

def TransferOrder.Records (o : TransferOrder) (f : Transfer) : Prop :=
  f.source = o.source ∧ f.target = o.target ∧ f.amount = o.amount

def Entry.Shows (e : Entry) (account : Int) (amount : Amount) : Prop :=
  e.account = account ∧ e.amount = amount

/-- What a job that succeeds does to the committed rows, all at once. -/
inductive Job.Writes : Job → Receipt → Store → Store → Prop where
  | register {s s' : Store} {new : NewUser} {now : Timestamp} {u : User}
      (h : s.createUser new now = .ok (u, s')) :
      Writes (.register new) (.registered u) s s'
  | openAccount {s s' : Store} {new : NewAccount} {now : Timestamp} {a : Account}
      (h : s.createAccount new now = .ok (a, s')) : Writes (.openAccount new) (.opened a) s s'
  | closeAccount {s s' : Store} {id : Int} (exists_account : (s.tables.account? id).isSome)
      (unnamed : ¬ s.tables.IsReferenced id)
      (tables :
        s'.tables = { s.tables with accounts := s.tables.accounts.filter fun a => a.id ≠ id })
      (issued : s'.issued.account = s.issued.account) : Writes (.closeAccount id) .closed s s'
  | transfer {s s' : Store} {o : TransferOrder} {f : Transfer} {d c : Entry} {a b : Account}
      (check : o.check = .ok ()) (records : o.Records f) (debit : d.Shows o.source (-o.amount))
      (credit : c.Shows o.target o.amount)
      (first : Account.Changed s.tables.accounts o.first o.firstAmount a)
      (second : Account.Changed (s.tables.accounts.map (Transaction.setBalance a.id a.balance))
        o.second o.secondAmount b)
      (tables : s'.tables = { s.tables with
        accounts := (s.tables.accounts.map (Transaction.setBalance a.id a.balance)).map
          (Transaction.setBalance b.id b.balance)
        entries := Store.Table.insertAll Entry.id [d, c] s.tables.entries
        transfers := Store.Table.insertAll Transfer.id [f] s.tables.transfers })
      (issued : s'.issued.account = s.issued.account) :
      Writes (.transfer o) (.posted (o.posted f d c a b)) s s'

namespace Stage

variable {o : TransferOrder}

def draft (t : Nat) (f : Transfer) (d c : Entry) : Transaction :=
  { ticket := t, entries := [d, c], transfers := [f] }

/-- The transaction of a transfer holds what the transfer has been answered. -/
def Stands (o : TransferOrder) (s : Store) : Stage → Prop
  | .fresh => True
  | .begun t => { ticket := t } ∈ s.transactions
  | .recorded t f => { ticket := t, transfers := [f] } ∈ s.transactions ∧ o.Records f
  | .debited t f d =>
    { ticket := t, entries := [d], transfers := [f] } ∈ s.transactions ∧ o.Records f ∧
      d.Shows o.source (-o.amount)
  | .credited t f d c =>
    draft t f d c ∈ s.transactions ∧ o.Records f ∧ d.Shows o.source (-o.amount) ∧
      c.Shows o.target o.amount
  | .half t f d c a =>
    (draft t f d c).withRow a ∈ s.transactions ∧ o.Records f ∧ d.Shows o.source (-o.amount) ∧
      c.Shows o.target o.amount ∧ Account.Changed s.tables.accounts o.first o.firstAmount a
  | .full t f d c a b =>
    ((draft t f d c).withRow a).withRow b ∈ s.transactions ∧ o.Records f ∧
      d.Shows o.source (-o.amount) ∧ c.Shows o.target o.amount ∧
      Account.Changed s.tables.accounts o.first o.firstAmount a ∧
      Account.Changed (s.tables.accounts.map (Transaction.setBalance a.id a.balance)) o.second
        o.secondAmount b
  | .failed t _ => ∃ tx ∈ s.transactions, tx.ticket = t

theorem Stands.frame {s s' : Store} {st : Stage} (stands : st.Stands o s)
    (spared : ∀ tx ∈ s.transactions, st.ticket? = some tx.ticket → s.Spares s' tx) :
    st.Stands o s' := by
  cases st with
  | fresh => trivial
  | begun t => exact (spared _ stands rfl).mem
  | recorded t f => exact ⟨(spared _ stands.1 rfl).mem, stands.2⟩
  | debited t f d => exact ⟨(spared _ stands.1 rfl).mem, stands.2⟩
  | credited t f d c => exact ⟨(spared _ stands.1 rfl).mem, stands.2⟩
  | half t f d c a =>
    obtain ⟨htx, hf, hd, hc, ha⟩ := stands
    obtain ⟨htx', locked⟩ := spared _ htx rfl
    refine ⟨htx', hf, hd, hc, ha.mono fun x hx hid => locked x hx ?_⟩
    exact Transaction.exists_mem_withRow_iff.mpr (Or.inl (hid.trans ha.id_eq.symm))
  | full t f d c a b =>
    obtain ⟨htx, hf, hd, hc, ha, hb⟩ := stands
    obtain ⟨htx', locked⟩ := spared _ htx rfl
    refine ⟨htx', hf, hd, hc, ha.mono fun x hx hid => locked x hx ?_, hb.mono fun y hy hid => ?_⟩
    · refine Transaction.exists_mem_withRow_iff.mpr
        (Or.inr (Transaction.exists_mem_withRow_iff.mpr (Or.inl ?_)))
      exact hid.trans ha.id_eq.symm
    · obtain ⟨y₀, hy₀, rfl⟩ := List.mem_map.mp hy
      rw [Transaction.id_setBalance] at hid
      refine List.mem_map_of_mem (locked y₀ hy₀ ?_)
      exact Transaction.exists_mem_withRow_iff.mpr (Or.inl (hid.trans hb.id_eq.symm))
  | failed t cause =>
    obtain ⟨tx, htx, ht⟩ := stands
    exact ⟨tx, (spared tx htx (congrArg some ht.symm)).mem, ht⟩

end Stage
end Giro
