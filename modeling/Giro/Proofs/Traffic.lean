import Giro.Proofs.Queue

/-!
# Traffic at a store

A store with all the calls that wait there, and every way in which calls may follow one another: any
call may be made at any time, a call that waits goes on or is cancelled in any order, and a
transaction may be dropped. The one thing that cannot happen is a second call to a transaction whose
first call still waits. `Run` is any such sequence from the empty store, with what was answered.

`Step.effects` breaks a step into effects: a call that gets its row at once first queues for it and
is then granted it. An invariant is proved for each effect, and holds of every run.
-/

namespace Giro

inductive Purpose where
  | add (amount : Amount)
  | delete

/-- A call that stands in the queue for a row. -/
structure Waiting where
  request : LockRequest
  purpose : Purpose

def Waiting.call (w : Waiting) : Call :=
  match w.purpose with
  | .add amount => .addBalance w.request.ticket w.request.account amount
  | .delete => .deleteAccount w.request.account

structure Traffic where
  store : Store
  waiting : List Waiting := []

inductive Event where
  | answered (c : Call) (answer : Except StoreError c.Reply)
  | dropped (ticket : Nat)

def Call.ticket? : Call → Option Nat
  | .stageTransfer t _ _ _ | .stageEntry t _ _ | .addBalance t _ _ => some t
  | .commit t | .rollback t => some t
  | _ => none

def Event.ticket? : Event → Option Nat
  | .answered c _ => c.ticket?
  | .dropped t => some t

def Call.isRead : Call → Bool
  | .ping | .getUser _ | .getSession _ | .getAccount _ | .listAccounts _ _ => true
  | .getEntry _ | .listEntries _ _ | .getTransfer _ | .listTransfers _ _ _ => true
  | _ => false

/-- The answer to a call that wrote nothing. -/
def Event.IsQuiet : Event → Prop
  | .answered c answer => c.isRead ∨ ∃ e, answer = .error e
  | .dropped _ => False

namespace Traffic

/-- No call to the transaction waits. -/
def Free (ticket : Nat) (waiting : List Waiting) : Prop := ∀ w ∈ waiting, w.request.ticket ≠ ticket

/-- A call to a transaction is made when no call to it waits. -/
def Admits (waiting : List Waiting) (c : Call) : Prop :=
  ∀ w ∈ waiting, c.ticket? ≠ some w.request.ticket

instance (waiting : List Waiting) (c : Call) : Decidable (Admits waiting c) :=
  inferInstanceAs (Decidable (∀ w ∈ waiting, _))

theorem Admits.free {waiting : List Waiting} {c : Call} {t : Nat} (h : Admits waiting c)
    (ht : c.ticket? = some t) : Free t waiting :=
  fun w hw heq => h w hw (ht.trans (congrArg some heq.symm))

inductive Step : Traffic → List Event → Traffic → Prop where
  | answer {s s' : Store} {ws : List Waiting} {now : Timestamp} {c : Call}
      {answer : Except StoreError c.Reply} (admits : Admits ws c)
      (h : s.perform now c = (s', .answered answer)) :
      Step ⟨s, ws⟩ [.answered c answer] ⟨s', ws⟩
  | wait {s s' : Store} {before after : List Waiting} {now : Timestamp} {w : Waiting}
      (admits : Admits (before ++ after) w.call)
      (h : s.perform now w.call = (s', .waiting w.request)) :
      Step ⟨s, before ++ after⟩ [] ⟨s', before ++ w :: after⟩
  | resume {s s' : Store} {before after : List Waiting} {now : Timestamp} {w : Waiting}
      {answer : Except StoreError w.call.Reply}
      (h : s.resume now w.request w.call = (s', .answered answer)) :
      Step ⟨s, before ++ w :: after⟩ [.answered w.call answer] ⟨s', before ++ after⟩
  | cancel {s : Store} {before after : List Waiting} {w : Waiting} :
      Step ⟨s, before ++ w :: after⟩ [] ⟨s.withdraw w.request, before ++ after⟩
  | drop {s : Store} {ws : List Waiting} {t : Nat} (isOpen : (s.transaction? t).isSome)
      (free : Free t ws) :
      Step ⟨s, ws⟩ [.dropped t] ⟨s.discard t, ws⟩

/-- The runs from the empty store, with their history, the latest event first. -/
inductive Run : List Event → Traffic → Prop where
  | start : Run [] ⟨.empty, []⟩
  | step {history events : List Event} {T T' : Traffic} (run : Run history T)
    (step : Step T events T') :
      Run (events ++ history) T'

theorem Run.call {h : List Event} {s : Store} {ws : List Waiting} (run : Run h ⟨s, ws⟩)
    (now : Timestamp) (c : Call) {answer : Except StoreError c.Reply} (admits : Admits ws c)
    (ha : (s.perform now c).2 = .answered answer) :
    Run (.answered c answer :: h) ⟨(s.perform now c).1, ws⟩ :=
  run.step (.answer admits (Prod.ext rfl ha))

/-- What a part of a step does. -/
inductive Effect : Traffic → List Event → Traffic → Prop where
  | quiet {T : Traffic} {e : Event} (h : e.IsQuiet) : Effect T [e] T
  | createUser {s s' : Store} {ws : List Waiting} {new : NewUser} {now : Timestamp} {u : User}
      (h : s.createUser new now = .ok (u, s')) :
      Effect ⟨s, ws⟩ [.answered (.createUser new) (.ok u)] ⟨s', ws⟩
  | createSession {s s' : Store} {ws : List Waiting} {new : NewSession} {now : Timestamp}
      {session : Session} (h : s.createSession new now = .ok (session, s')) :
      Effect ⟨s, ws⟩ [.answered (.createSession new) (.ok session)] ⟨s', ws⟩
  | createAccount {s s' : Store} {ws : List Waiting} {new : NewAccount} {now : Timestamp}
      {a : Account} (h : s.createAccount new now = .ok (a, s')) :
      Effect ⟨s, ws⟩ [.answered (.createAccount new) (.ok a)] ⟨s', ws⟩
  | begin {s : Store} {ws : List Waiting} :
      Effect ⟨s, ws⟩ [.answered .begin (.ok s.begin.1)] ⟨s.begin.2, ws⟩
  | stageTransfer {s s' : Store} {ws : List Waiting} {t : Nat} {source target : Int}
      {amount : Amount} {now : Timestamp} {f : Transfer}
      (h : s.stageTransfer t source target amount now = .ok (f, s')) :
      Effect ⟨s, ws⟩ [.answered (.stageTransfer t source target amount) (.ok f)] ⟨s', ws⟩
  | stageEntry {s s' : Store} {ws : List Waiting} {t : Nat} {account : Int} {amount : Amount}
      {now : Timestamp} {e : Entry} (h : s.stageEntry t account amount now = .ok (e, s')) :
      Effect ⟨s, ws⟩ [.answered (.stageEntry t account amount) (.ok e)] ⟨s', ws⟩
  | addStaged {s s' : Store} {ws : List Waiting} {t : Nat} {account : Int} {amount : Amount}
      {tx : Transaction} {row a : Account} (free : Free t ws) (htx : s.transaction? t = some tx)
      (hrow : tx.row? account = some row) (h : s.addStaged t row amount = .ok (a, s')) :
      Effect ⟨s, ws⟩ [.answered (.addBalance t account amount) (.ok a)] ⟨s', ws⟩
  | queueAdd {s : Store} {before after : List Waiting} {t : Nat} {account : Int} {amount : Amount}
      {tx : Transaction} (free : Free t (before ++ after)) (htx : s.transaction? t = some tx)
      (hrow : tx.row? account = none) (hl : account ∈ s.lockable) :
      Effect ⟨s, before ++ after⟩ []
        ⟨s.enqueue ⟨t, account⟩, before ++ ⟨⟨t, account⟩, .add amount⟩ :: after⟩
  | queueDelete {s : Store} {before after : List Waiting} {account : Int}
      (hl : account ∈ s.lockable) :
      Effect ⟨s, before ++ after⟩ []
        ⟨s.draw.2.enqueue ⟨s.draw.1, account⟩, before ++ ⟨⟨s.draw.1, account⟩, .delete⟩ :: after⟩
  | grantAdd {s s' : Store} {before after : List Waiting} {r : LockRequest} {amount : Amount}
      {answer : Except StoreError Account} (holds : s.Holds r)
      (h : s.addGranted r amount = (s', answer)) :
      Effect ⟨s, before ++ ⟨r, .add amount⟩ :: after⟩
        [.answered (.addBalance r.ticket r.account amount) answer] ⟨s', before ++ after⟩
  | grantDelete {s s' : Store} {before after : List Waiting} {r : LockRequest}
      {answer : Except StoreError Unit} (holds : s.Holds r) (h : s.deleteGranted r = (s', answer)) :
      Effect ⟨s, before ++ ⟨r, .delete⟩ :: after⟩
        [.answered (.deleteAccount r.account) answer] ⟨s', before ++ after⟩
  | cancel {s : Store} {before after : List Waiting} {w : Waiting} :
      Effect ⟨s, before ++ w :: after⟩ [] ⟨s.withdraw w.request, before ++ after⟩
  | discard {s : Store} {ws : List Waiting} {t : Nat} {e : Event}
      (isOpen : (s.transaction? t).isSome) (free : Free t ws)
      (he : e = .dropped t ∨ e = .answered (.rollback t) (.ok ())) :
      Effect ⟨s, ws⟩ [e] ⟨s.discard t, ws⟩
  | commit {s : Store} {ws : List Waiting} {t : Nat} {tx : Transaction} (free : Free t ws)
      (htx : s.transaction? t = some tx) :
      Effect ⟨s, ws⟩ [.answered (.commit t) (.ok ())] ⟨(s.publish tx).discard t, ws⟩

/-! ## From steps to effects -/

theorem quiet_error {c : Call} (e : StoreError) : (Event.answered c (.error e)).IsQuiet :=
  Or.inr ⟨e, rfl⟩

theorem settle_eq_answered {α : Type} {s s' : Store} {r : Except StoreError (α × Store)}
    {answer : Except StoreError α} (h : s.settle r = (s', .answered answer)) :
    (∃ a, r = .ok (a, s') ∧ answer = .ok a) ∨ (s' = s ∧ ∃ e, answer = .error e) := by
  cases r with
  | ok x =>
    cases h
    exact Or.inl ⟨x.1, rfl, rfl⟩
  | error e =>
    cases h
    exact Or.inr ⟨rfl, e, rfl⟩

theorem map_unit_eq_ok_iff {r : Except StoreError Store} {u : Unit} {s : Store} :
    (r.map fun next => ((), next)) = .ok (u, s) ↔ r = .ok s := by
  cases r <;> simp [Except.map]

theorem not_settle_eq_waiting {α : Type} {s s' : Store} {r : Except StoreError (α × Store)}
    {q : LockRequest} : s.settle r ≠ (s', .waiting q) := by
  cases r <;> simp [Store.settle]

theorem effect_of_settle {s s' : Store} {ws : List Waiting} {c : Call}
    {r : Except StoreError (c.Reply × Store)} {answer : Except StoreError c.Reply}
    (h : s.settle r = (s', .answered answer))
    (effect : ∀ a, r = .ok (a, s') → Effect ⟨s, ws⟩ [.answered c (.ok a)] ⟨s', ws⟩) :
    Effect ⟨s, ws⟩ [.answered c answer] ⟨s', ws⟩ := by
  rcases settle_eq_answered h with ⟨a, hr, rfl⟩ | ⟨rfl, e, rfl⟩
  · exact effect a hr
  · exact .quiet (quiet_error e)

theorem perform_of_isRead {s s' : Store} {now : Timestamp} {c : Call}
    {status : Store.Status c.Reply} (hc : c.isRead) (h : s.perform now c = (s', status)) :
    s' = s := by
  cases c <;> simp_all [Call.isRead, Store.perform]

theorem effects_of_answer {s s' : Store} {ws : List Waiting} {now : Timestamp} {c : Call}
    {answer : Except StoreError c.Reply} (admits : Admits ws c)
    (h : s.perform now c = (s', .answered answer)) :
    Effect ⟨s, ws⟩ [.answered c answer] ⟨s', ws⟩ ∨
    ∃ T, Effect ⟨s, ws⟩ [] T ∧ Effect T [.answered c answer] ⟨s', ws⟩ := by
  by_cases hc : c.isRead
  · cases perform_of_isRead hc h
    exact Or.inl (.quiet (Or.inl hc))
  cases c with
  | createUser new => exact Or.inl (effect_of_settle h fun u hu => .createUser hu)
  | createSession new => exact Or.inl (effect_of_settle h fun session hs => .createSession hs)
  | createAccount new => exact Or.inl (effect_of_settle h fun a ha => .createAccount ha)
  | begin =>
    cases h
    exact Or.inl .begin
  | stageTransfer t source target amount =>
    exact Or.inl (effect_of_settle h fun f hf => .stageTransfer hf)
  | stageEntry t account amount => exact Or.inl (effect_of_settle h fun e he => .stageEntry he)
  | addBalance t account amount =>
    have hfree : Free t ws := admits.free rfl
    cases Store.addBalance_outcome h with
    | refused e => exact Or.inl (.quiet (quiet_error e))
    | staged htx hrow ha => exact Or.inl (.addStaged hfree htx hrow ha)
    | @granted _ tx _ htx hrow hl holds hg =>
      exact Or.inr ⟨_, @Effect.queueAdd s [] ws t account amount tx hfree htx hrow hl,
        @Effect.grantAdd _ _ [] ws ⟨t, account⟩ amount _ holds hg⟩
  | deleteAccount id =>
    cases Store.deleteAccount_outcome h with
    | refused e => exact Or.inl (.quiet (quiet_error e))
    | granted hl holds hg =>
      exact Or.inr ⟨_, @Effect.queueDelete s [] ws id hl,
        @Effect.grantDelete _ _ [] ws ⟨s.draw.1, id⟩ _ holds hg⟩
  | commit t =>
    refine Or.inl (effect_of_settle h fun _ hc => ?_)
    obtain ⟨tx, htx, rfl⟩ := Store.commit_eq_ok_iff.mp (map_unit_eq_ok_iff.mp hc)
    exact .commit (admits.free rfl) htx
  | rollback t =>
    refine Or.inl (effect_of_settle h fun _ hc => ?_)
    obtain ⟨isOpen, rfl⟩ := Store.rollback_eq_ok_iff.mp (map_unit_eq_ok_iff.mp hc)
    exact .discard isOpen (admits.free rfl) (Or.inr rfl)
  | _ => exact absurd rfl hc

theorem effect_of_wait {s s' : Store} {before after : List Waiting} {now : Timestamp} {w : Waiting}
    (admits : Admits (before ++ after) w.call)
    (h : s.perform now w.call = (s', .waiting w.request)) :
    Effect ⟨s, before ++ after⟩ [] ⟨s', before ++ w :: after⟩ := by
  obtain ⟨⟨t, account⟩, purpose⟩ := w
  cases purpose with
  | add amount =>
    cases Store.addBalance_outcome h with
    | queued htx hrow hl behind => exact .queueAdd (admits.free rfl) htx hrow hl
  | delete =>
    cases Store.deleteAccount_outcome h with
    | queued hl behind => exact .queueDelete hl

theorem effect_of_resume {s s' : Store} {before after : List Waiting} {now : Timestamp}
    {w : Waiting} {answer : Except StoreError w.call.Reply}
    (h : s.resume now w.request w.call = (s', .answered answer)) :
    Effect ⟨s, before ++ w :: after⟩ [.answered w.call answer] ⟨s', before ++ after⟩ := by
  obtain ⟨r, purpose⟩ := w
  cases purpose with
  | add amount =>
    obtain ⟨holds, hg⟩ := Store.addGranted_of_resume h
    exact .grantAdd holds hg
  | delete =>
    obtain ⟨holds, hg⟩ := Store.deleteGranted_of_resume h
    exact .grantDelete holds hg

theorem eq_of_resume_waiting {s s' : Store} {now : Timestamp} {w : Waiting} {q : LockRequest}
    (h : s.resume now w.request w.call = (s', .waiting q)) :
    ¬ s.Holds w.request ∧ s' = s ∧ q = w.request := by
  by_cases holds : s.Holds w.request
  · obtain ⟨r, purpose⟩ := w
    cases purpose with
    | add amount => cases (Store.resume_add amount holds).symm.trans h
    | delete => cases (Store.resume_delete holds).symm.trans h
  · cases (Store.resume_of_not_holds holds).symm.trans h
    exact ⟨holds, rfl, rfl⟩

theorem Effect.keeps {T T' : Traffic} (effect : Effect T [] T') : Store.Keeps T.store T'.store := by
  cases effect <;> exact ⟨rfl, rfl, rfl⟩

/-- A step has one effect or two. -/
theorem Step.effects {T T' : Traffic} {events : List Event} (h : Step T events T') :
    Effect T events T' ∨ ∃ T₁, Effect T [] T₁ ∧ Effect T₁ events T' := by
  cases h with
  | answer admits h => exact effects_of_answer admits h
  | wait admits h => exact Or.inl (effect_of_wait admits h)
  | resume h => exact Or.inl (effect_of_resume h)
  | cancel => exact Or.inl .cancel
  | drop isOpen free => exact Or.inl (.discard isOpen free (Or.inl rfl))

theorem Step.keeps {T T' : Traffic} (step : Step T [] T') : Store.Keeps T.store T'.store := by
  rcases step.effects with h | ⟨T₁, h₁, h₂⟩
  · exact h.keeps
  · exact h₁.keeps.trans h₂.keeps

theorem Run.invariant {P : List Event → Traffic → Prop} (start : P [] ⟨.empty, []⟩)
    (effect : ∀ {history events T T'}, P history T → Effect T events T' → P (events ++ history) T')
    {history : List Event} {T : Traffic} (run : Run history T) : P history T := by
  induction run with
  | start => exact start
  | step _ step ih =>
    rcases step.effects with h | ⟨T₁, h₁, h₂⟩
    · exact effect ih h
    · exact effect (effect ih h₁) h₂

end Traffic
end Giro
