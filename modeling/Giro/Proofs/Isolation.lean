import Giro.Proofs.Privacy
import Giro.Proofs.References
import Giro.Proofs.RowLocks

/-!
# A transaction and the others

A traffic is compared with what it would be without one of its transactions. Every step is either
the transaction's own, and then the traffic without it stays as it is but for the numbers of rows,
or it is a step of others, and then they could have made it without the transaction:
`Step.without`. So whatever becomes of a transaction that does not commit, the others make of the
store what they would have made of it alone, and are answered the same: `Path.without`.
-/

namespace Giro

namespace Traffic

/-- A traffic as if a transaction were not there, and no call to it. -/
def without (X : Traffic) (t : Nat) : Traffic :=
  ⟨X.store.discard t, X.waiting.filter fun w => w.request.ticket ≠ t⟩

/-- What may happen from some point on, the latest event first. -/
inductive Path (X : Traffic) : List Event → Traffic → Prop where
  | refl : Path X [] X
  | step {es events : List Event} {T T' : Traffic} (path : Path X es T) (step : Step T events T') :
      Path X (events ++ es) T'

/-- What others may make of a traffic. A call of theirs may join a queue and be left there for a
while, although the row is free; tickets may be drawn for nothing, and numbers given to entries and
transfers that nobody sees. -/
inductive Others (X : Traffic) : List Event → Traffic → Prop where
  | refl : Others X [] X
  | step {es events : List Event} {T T' : Traffic} (others : Others X es T)
      (step : Step T events T') : Others X (events ++ es) T'
  | queue {es : List Event} {T T' : Traffic} (others : Others X es T) (effect : Effect T [] T') :
      Others X es T'
  | draw {es : List Event} {s : Store} {ws : List Waiting} (others : Others X es ⟨s, ws⟩) :
      Others X es ⟨s.draw.2, ws⟩
  | skip {es : List Event} {s : Store} {ws : List Waiting} {entry transfer : Nat}
      (others : Others X es ⟨s, ws⟩) (hentry : s.issued.entry ≤ entry)
      (htransfer : s.issued.transfer ≤ transfer) :
      Others X es ⟨{ s with issued := { s.issued with entry, transfer } }, ws⟩

variable {X X' T : Traffic} {es events : List Event} {t : Nat}

theorem Path.others (path : Path X es T) : Others X es T := by
  induction path with
  | refl => exact .refl
  | step _ step ih => exact ih.step step

theorem Others.trans {es' : List Event} (h : Others X es X') (h' : Others X' es' T) :
    Others X (es' ++ es) T := by
  induction h' with
  | refl => exact h
  | step _ step ih =>
    rw [List.append_assoc]
    exact ih.step step
  | queue _ effect ih => exact ih.queue effect
  | draw _ ih => exact ih.draw
  | skip _ hentry htransfer ih => exact ih.skip hentry htransfer

/-! ## Tickets and queues -/

/-- Nobody has joined a queue. -/
structure Shrinks (X X' : Traffic) : Prop where
  issued : X.store.issued.ticket ≤ X'.store.issued.ticket
  requests : X'.store.requests.Sublist X.store.requests
  waiting : X'.waiting.Sublist X.waiting

theorem Shrinks.refl (X : Traffic) : Shrinks X X := ⟨Nat.le_refl _, .refl _, .refl _⟩

theorem Effect.shown_or_silent (effect : Effect X es X') : (∃ e, es = [e]) ∨ es = [] := by
  cases effect <;> simp

/-- Only what shows nothing brings a call into a queue. -/
theorem Effect.shrinks {e : Event} (effect : Effect X [e] X') : Shrinks X X' := by
  have sub {before after : List Waiting} (w : Waiting) :
      (before ++ after).Sublist (before ++ w :: after) :=
    (List.sublist_cons_self w after).append_left before
  cases effect with
  | quiet => exact .refl X
  | createUser h =>
    obtain ⟨_, _, _, rfl⟩ := Store.createUser_eq_ok_iff.mp h
    exact ⟨Nat.le_refl _, .refl _, .refl _⟩
  | createSession h =>
    rw [Store.createSession_eq_ok h]
    exact ⟨Nat.le_refl _, .refl _, .refl _⟩
  | createAccount h =>
    obtain ⟨_, _, _, rfl⟩ := Store.createAccount_eq_ok_iff.mp h
    exact ⟨Nat.le_refl _, .refl _, .refl _⟩
  | begin => exact ⟨Nat.le_succ _, .refl _, .refl _⟩
  | stageTransfer h =>
    obtain ⟨_, _, _, _, _, rfl⟩ := Store.stageTransfer_eq_ok_iff.mp h
    exact ⟨Nat.le_refl _, .refl _, .refl _⟩
  | stageEntry h =>
    obtain ⟨_, _, _, rfl⟩ := Store.stageEntry_eq_ok_iff.mp h
    exact ⟨Nat.le_refl _, .refl _, .refl _⟩
  | addStaged free htx hrow h =>
    obtain ⟨_, _, _, rfl⟩ := Store.addStaged_eq_ok_iff.mp h
    exact ⟨Nat.le_refl _, .refl _, .refl _⟩
  | grantAdd holds h =>
    rcases Store.addGranted_cases h with ⟨_, rfl, _⟩ | ⟨row, hrow, ⟨a, ha, _⟩ | ⟨rfl, _⟩⟩
    · exact ⟨Nat.le_refl _, List.erase_sublist, sub _⟩
    · obtain ⟨_, _, _, rfl⟩ := Store.addStaged_eq_ok_iff.mp ha
      exact ⟨Nat.le_refl _, .refl _, sub _⟩
    · exact ⟨Nat.le_refl _, .refl _, sub _⟩
  | grantDelete holds h =>
    rcases Store.deleteGranted_cases h with ⟨rfl, _⟩ | ⟨_, _, _, rfl⟩
    · exact ⟨Nat.le_refl _, List.erase_sublist, sub _⟩
    · exact ⟨Nat.le_refl _, List.erase_sublist, sub _⟩
  | discard isOpen free he => exact ⟨Nat.le_refl _, List.filter_sublist, .refl _⟩
  | commit free htx => exact ⟨Nat.le_refl _, List.filter_sublist, .refl _⟩

/-- A ticket that has been drawn, and not for a deletion. -/
structure Drawn (t : Nat) (X : Traffic) : Prop where
  issued : t ≤ X.store.issued.ticket
  no_deletion : ∀ w ∈ X.waiting, w.request.ticket = t → w.purpose ≠ .delete

theorem Effect.drawn (effect : Effect X es X') (drawn : Drawn t X) : Drawn t X' := by
  obtain ⟨issued, no_deletion⟩ := drawn
  rcases effect.shown_or_silent with ⟨e, rfl⟩ | rfl
  · have shrinks := effect.shrinks
    exact ⟨Nat.le_trans issued shrinks.issued,
      fun w hw => no_deletion w (shrinks.waiting.subset hw)⟩
  · cases effect with
    | queueAdd free htx hrow hl =>
      refine ⟨issued, fun v hv ht => ?_⟩
      rcases mem_middle_iff.mp hv with rfl | hv
      · intro hp
        cases hp
      · exact no_deletion v hv ht
    | queueDelete hl =>
      refine ⟨Nat.le_succ_of_le issued, fun v hv ht => ?_⟩
      rcases mem_middle_iff.mp hv with rfl | hv
      · simp only [Store.draw] at ht issued
        omega
      · exact no_deletion v hv ht
    | cancel => exact ⟨issued, fun v hv => no_deletion v (mem_middle_iff.mpr (Or.inr hv))⟩

theorem Step.drawn (step : Step X es X') (drawn : Drawn t X) : Drawn t X' := by
  rcases step.effects with h | ⟨T₁, h₁, h₂⟩
  · exact h.drawn drawn
  · exact h₂.drawn (h₁.drawn drawn)

/-! ## One step, with the transaction and without -/

section Middle

variable {s : Store} {before after : List Waiting} {w : Waiting}

theorem without_append : without ⟨s, before ++ after⟩ t = ⟨s.discard t,
    (before.filter fun w => w.request.ticket ≠ t) ++
      after.filter fun w => w.request.ticket ≠ t⟩ := by
  simp [without]

theorem without_middle (other : w.request.ticket ≠ t) :
    without ⟨s, before ++ w :: after⟩ t = ⟨s.discard t,
      (before.filter fun w => w.request.ticket ≠ t) ++
        w :: after.filter fun w => w.request.ticket ≠ t⟩ := by
  simp [without, other]

theorem without_middle_own (own : w.request.ticket = t) :
    without ⟨s, before ++ w :: after⟩ t = without ⟨s, before ++ after⟩ t := by
  simp [without, own]

end Middle

theorem Admits.filter {ws : List Waiting} {c : Call} (admits : Admits ws c) (p : Waiting → Bool) :
    Admits (ws.filter p) c :=
  fun w hw => admits w (List.mem_of_mem_filter hw)

/-- The step is a call of the transaction, one that goes on, waits or is given up, or the end of the
transaction. The calls of others wait as before. -/
structure Own (t : Nat) (X : Traffic) (es : List Event) (X' : Traffic) : Prop where
  events : ∀ e ∈ es, e.ticket? = some t
  waiting : (X'.without t).waiting = (X.without t).waiting

/-- The step is not the transaction's, and others could have made it without the transaction. -/
structure Foreign (t : Nat) (X : Traffic) (es : List Event) (X' : Traffic) : Prop where
  events : ∀ e ∈ es, e.ticket? ≠ some t
  step : Step (X.without t) es (X'.without t) ∨ es = [] ∧ Effect (X.without t) [] (X'.without t)

theorem Waiting.call_ticket? {w : Waiting} (h : w.purpose ≠ .delete) :
    w.call.ticket? = some w.request.ticket := by
  obtain ⟨r, purpose⟩ := w
  cases purpose with
  | add amount => rfl
  | delete => exact absurd rfl h

theorem Waiting.call_ticket?_ne {w : Waiting} (other : w.request.ticket ≠ t) :
    w.call.ticket? ≠ some t := by
  obtain ⟨r, purpose⟩ := w
  cases purpose with
  | add amount => exact fun h => other (Option.some.inj h)
  | delete => exact fun h => by cases h

theorem Effect.without_queue {s s' : Store} {before after : List Waiting} {w : Waiting}
    {now : Timestamp} (admits : Admits (before ++ after) w.call)
    (h : s.perform now w.call = (s', .waiting w.request)) (other : w.request.ticket ≠ t) :
    Effect (without ⟨s, before ++ after⟩ t) [] (without ⟨s', before ++ w :: after⟩ t) := by
  rw [without_append, without_middle other]
  obtain ⟨⟨n, account⟩, purpose⟩ := w
  cases purpose with
  | add amount =>
    cases Store.addBalance_outcome h with
    | queued htx hrow hl behind =>
      rw [Store.discard_enqueue (r := ⟨n, account⟩) other]
      apply Effect.queueAdd
      · have := admits.filter fun w => w.request.ticket ≠ t
        rw [List.filter_append] at this
        exact this.free rfl
      · exact (Store.transaction?_discard other).trans htx
      · exact hrow
      · exact hl
  | delete =>
    cases Store.deleteAccount_outcome h with
    | queued hl behind =>
      rw [Store.discard_enqueue (r := ⟨s.draw.1, account⟩) other]
      exact .queueDelete hl

/-- Every step is the transaction's own affair or could have been made without it. -/
theorem Step.without (step : Step X es X') (drawn : Drawn t X)
    (uncommitted : Event.committed t ∉ es) :
    (Own t X es X' ∧ X.store.Private t X'.store) ∨ Foreign t X es X' := by
  cases step with
  | @answer s s' ws now c answer admits h =>
    by_cases own : c.ticket? = some t
    · left
      refine ⟨⟨fun e he => ?_, rfl⟩, ?_⟩
      · rw [List.mem_singleton.mp he]
        exact own
      · by_cases hc : c = .commit t
        · subst hc
          rcases settle_eq_answered h with ⟨_, _, rfl⟩ | ⟨rfl, _⟩
          · exact absurd (List.mem_singleton_self _) uncommitted
          · exact .refl t s'
        · exact Store.private_perform own hc h
    · right
      refine ⟨fun e he => ?_, Or.inl ?_⟩
      · rw [List.mem_singleton.mp he]
        exact own
      · exact .answer (admits.filter _) (Store.perform_discard drawn.issued own h)
  | @wait s s' before after now w admits h =>
    by_cases own : w.request.ticket = t
    · left
      refine ⟨⟨fun e he => absurd he List.not_mem_nil, ?_⟩, ?_⟩
      · rw [without_middle_own own]
        rfl
      · obtain ⟨⟨n, account⟩, purpose⟩ := w
        subst own
        cases purpose with
        | add amount => exact Store.private_addBalance h
        | delete =>
          cases Store.deleteAccount_outcome h with
          | queued hl behind =>
            have issued : s.issued.ticket + 1 ≤ s.issued.ticket := drawn.issued
            omega
    · right
      exact ⟨fun e he => absurd he List.not_mem_nil, Or.inr ⟨rfl, .without_queue admits h own⟩⟩
  | @resume s s' before after now w answer h =>
    by_cases own : w.request.ticket = t
    · left
      have hw : w ∈ before ++ w :: after := List.mem_append_cons_self
      have hadd := drawn.no_deletion w hw own
      refine ⟨⟨fun e he => ?_, ?_⟩, ?_⟩
      · rw [List.mem_singleton.mp he, ← own]
        exact Waiting.call_ticket? hadd
      · rw [without_middle_own own]
        rfl
      · obtain ⟨r, purpose⟩ := w
        cases purpose with
        | add amount => exact Store.private_addGranted own (Store.addGranted_of_resume h).2
        | delete => exact absurd rfl hadd
    · right
      refine ⟨fun e he => ?_, Or.inl ?_⟩
      · rw [List.mem_singleton.mp he]
        exact Waiting.call_ticket?_ne own
      · rw [without_middle own, without_append]
        exact .resume (Store.resume_discard own h)
  | @cancel s before after w =>
    by_cases own : w.request.ticket = t
    · left
      refine ⟨⟨fun e he => absurd he List.not_mem_nil, ?_⟩, Store.private_withdraw own⟩
      rw [without_middle_own own]
      rfl
    · right
      refine ⟨fun e he => absurd he List.not_mem_nil, Or.inl ?_⟩
      rw [without_middle own, without_append, Store.discard_withdraw]
      exact .cancel
  | @drop s ws n isOpen free =>
    by_cases own : n = t
    · left
      subst own
      refine ⟨⟨fun e he => ?_, rfl⟩, Store.private_discard s n⟩
      rw [List.mem_singleton.mp he]
      rfl
    · right
      refine ⟨fun e he => ?_, Or.inl ?_⟩
      · rw [List.mem_singleton.mp he]
        exact fun h => own (Option.some.inj h)
      · unfold Traffic.without
        rw [Store.discard_comm]
        apply Step.drop
        · rwa [Store.transaction?_discard own]
        · exact fun w hw => free w (List.mem_of_mem_filter hw)

theorem Own.without_eq (own : Own t X es X') (h : X.store.Private t X'.store) :
    X'.without t = ⟨{ X.store.discard t with issued := { X.store.issued with
      entry := X'.store.issued.entry, transfer := X'.store.issued.transfer } },
      (X.without t).waiting⟩ := by
  rw [← own.waiting, ← h.discard_eq]
  rfl

/-! ## A whole path -/

theorem Path.orderly (path : Path X es X') (o : Orderly X.store X.waiting) :
    Orderly X'.store X'.waiting := by
  induction path with
  | refl => exact o
  | step _ step ih => exact step.orderly ih

theorem Path.drawn (path : Path X es X') (drawn : Drawn t X) : Drawn t X' := by
  induction path with
  | refl => exact drawn
  | step _ step ih => exact step.drawn ih

/-- Whatever a transaction does without a commit, others could have done what they did, and been
answered the same, had it never been there. -/
theorem Path.without (path : Path X es X') (drawn : Drawn t X)
    (uncommitted : Event.committed t ∉ es) :
    Others (X.without t) (es.filter fun e => e.ticket? ≠ some t) (X'.without t) := by
  induction path with
  | refl => exact .refl
  | @step es events X₁ X' path step ih =>
    have before : Event.committed t ∉ es := fun h => uncommitted (List.mem_append_right _ h)
    have now : Event.committed t ∉ events := fun h => uncommitted (List.mem_append_left _ h)
    rw [List.filter_append]
    rcases step.without (path.drawn drawn) now with ⟨own, hprivate⟩ | foreign
    · have none_left : (events.filter fun e => e.ticket? ≠ some t) = [] :=
        List.filter_eq_nil_iff.mpr fun e he => by simpa using own.events e he
      rw [none_left, List.nil_append, own.without_eq hprivate]
      exact (ih before).skip hprivate.entry hprivate.transfer
    · have all_left : (events.filter fun e => e.ticket? ≠ some t) = events :=
        List.filter_eq_self.mpr fun e he => by simpa using foreign.events e he
      rw [all_left]
      rcases foreign.step with step | ⟨rfl, effect⟩
      · exact (ih before).step step
      · exact (ih before).queue effect

namespace Orderly

variable {s : Store} {ws : List Waiting}

/-- Nobody else asks for rows with the ticket of a transaction. -/
theorem ticket_ne_of_closed (o : Orderly s ws) (drawn : Drawn t ⟨s, ws⟩)
    (closed : s.transaction? t = none) : ∀ r ∈ s.requests, r.ticket ≠ t := by
  have no_tx : ∀ tx ∈ s.transactions, tx.ticket ≠ t := by
    simpa [Store.transaction?] using closed
  intro r hr ht
  rcases o.requests_owned r hr with ⟨tx, htx, htr, _⟩ | ⟨w, hw, rfl⟩
  · exact no_tx tx htx (htr.trans ht)
  · have hadd := drawn.no_deletion w hw ht
    obtain ⟨r, purpose⟩ := w
    cases purpose with
    | add amount =>
      obtain ⟨tx, htx, htr, _⟩ := o.exists_unlocked hw
      exact no_tx tx htx (htr.trans ht)
    | delete => exact hadd rfl

/-- Nothing is left of a transaction that has ended. -/
theorem without_eq_self (o : Orderly s ws) (drawn : Drawn t ⟨s, ws⟩)
    (closed : s.transaction? t = none) : without ⟨s, ws⟩ t = ⟨s, ws⟩ := by
  have no_request := o.ticket_ne_of_closed drawn closed
  have no_tx : ∀ tx ∈ s.transactions, tx.ticket ≠ t := by
    simpa [Store.transaction?] using closed
  have hrequests : (s.requests.filter fun r => r.ticket ≠ t) = s.requests :=
    List.filter_eq_self.mpr fun r hr => by simpa using no_request r hr
  have htransactions : (s.transactions.filter fun tx => tx.ticket ≠ t) = s.transactions :=
    List.filter_eq_self.mpr fun tx htx => by simpa using no_tx tx htx
  have hwaiting : (ws.filter fun w => w.request.ticket ≠ t) = ws :=
    List.filter_eq_self.mpr fun w hw => by simpa using no_request _ (o.waiting_queued w hw)
  unfold Traffic.without Store.discard
  simp only [hrequests, htransactions, hwaiting]

theorem drawn_begin (o : Orderly s ws) : Drawn s.begin.1 ⟨s.begin.2, ws⟩ where
  issued := Nat.le_refl _
  no_deletion := by
    intro w hw ht
    have issued := (o.requests_issued _ (o.waiting_queued w hw)).1
    simp only [Store.begin, Store.draw] at ht
    omega

theorem without_begin (o : Orderly s ws) :
    without ⟨s.begin.2, ws⟩ s.begin.1 = ⟨s.draw.2, ws⟩ := by
  have closed : s.draw.2.transaction? s.begin.1 = none := by
    apply List.find?_eq_none.mpr
    intro tx htx ht
    have issued := o.transactions_issued tx htx
    simp only [Store.begin, Store.draw, beq_iff_eq] at ht
    omega
  have drawn := o.drawn_begin
  rw [← o.draw.without_eq_self ⟨drawn.issued, drawn.no_deletion⟩ closed]
  simp [Traffic.without, Store.discard, Store.begin]

end Orderly

/-! ## What the steps of a transaction change -/

theorem Step.length_ne (step : Step X [] X') : X'.waiting.length ≠ X.waiting.length := by
  cases step <;> simp

theorem Effect.length_ne (effect : Effect X [] X') : X'.waiting.length ≠ X.waiting.length := by
  cases effect <;> simp

theorem Own.private (own : Own t X es X') (step : Step X es X') (drawn : Drawn t X)
    (uncommitted : Event.committed t ∉ es) : X.store.Private t X'.store := by
  rcases step.without drawn uncommitted with ⟨_, hprivate⟩ | foreign
  · exact hprivate
  · have : es = [] := List.eq_nil_iff_forall_not_mem.mpr fun e he =>
      foreign.events e he (own.events e he)
    subst this
    have same : (X'.without t).waiting.length = (X.without t).waiting.length := by
      rw [own.waiting]
    rcases foreign.step with step | ⟨_, effect⟩
    · exact absurd same step.length_ne
    · exact absurd same effect.length_ne

theorem ticket?_of_isRead {c : Call} (hc : c.isRead) : c.ticket? = none := by
  cases c <;> first | rfl | cases hc

theorem not_isQuiet_ok {c : Call} {a : c.Reply} (own : c.ticket? = some t) :
    ¬ (Event.answered c (.ok a)).IsQuiet := by
  rintro (hread | ⟨e, he⟩)
  · rw [ticket?_of_isRead hread] at own
    cases own
  · cases he

theorem transactions_of_wait {s s' : Store} {now : Timestamp} {w : Waiting} {r : LockRequest}
    (h : s.perform now w.call = (s', .waiting r)) : s'.transactions = s.transactions := by
  obtain ⟨⟨n, account⟩, purpose⟩ := w
  cases purpose with
  | add amount =>
    cases Store.addBalance_outcome h with
    | queued htx hrow hl behind => rfl
  | delete =>
    cases Store.deleteAccount_outcome h with
    | queued hl behind => rfl

theorem Own.retains (own : Own t X es X') (step : Step X es X') (o : Orderly X.store X.waiting)
    (fails : ∀ e ∈ es, e.IsQuiet) {tx : Transaction} (htx : X.store.transaction? t = some tx) :
    ∃ tx', X'.store.transaction? t = some tx' ∧ Store.Retains X.store.tables.accounts tx tx' := by
  cases step with
  | answer admits h =>
    have hc := own.events _ (List.mem_singleton_self _)
    have hfails := fails _ (List.mem_singleton_self _)
    apply Store.retains_perform htx hc _ h
    intro a ha
    cases ha
    exact not_isQuiet_ok hc hfails
  | wait admits h =>
    refine ⟨tx, ?_, .refl _ tx⟩
    unfold Store.transaction?
    rw [transactions_of_wait h]
    exact htx
  | @resume s s' before after now w answer h =>
    have hc := own.events _ (List.mem_singleton_self _)
    have hfails := fails _ (List.mem_singleton_self _)
    have hw : w ∈ before ++ w :: after := List.mem_append_cons_self
    obtain ⟨r, purpose⟩ := w
    cases purpose with
    | delete => cases hc
    | add amount =>
      cases hc
      cases answer with
      | ok a => exact absurd hfails (not_isQuiet_ok rfl)
      | error e =>
        obtain ⟨htx', ht⟩ := Store.mem_of_transaction? htx
        obtain ⟨tx', hmem, ht', hnone⟩ := o.exists_unlocked hw
        have := o.eq_of_ticket hmem htx' (ht'.trans ht.symm)
        subst this
        exact Store.retains_addGranted htx hnone (Store.addGranted_of_resume h).2
  | cancel => exact ⟨tx, htx, .refl _ tx⟩
  | drop isOpen free => exact absurd (fails _ (List.mem_singleton_self _)) id

/-! ## Calls that wait for a transaction -/

/-- A call waits at every point from one traffic to another, whatever else happens. -/
inductive Waits (w : Waiting) (X : Traffic) : Traffic → Prop where
  | refl (hw : w ∈ X.waiting) : Waits w X X
  | step {events : List Event} {T T' : Traffic} (waits : Waits w X T) (step : Step T events T')
      (hw : w ∈ T'.waiting) : Waits w X T'

/-- A request that is new stands at the end. -/
theorem Effect.requests_of_silent (effect : Effect X [] X') (o : Orderly X.store X.waiting) :
    X'.store.requests.Sublist X.store.requests ∨
      ∃ r ∉ X.store.requests, X'.store.requests = X.store.requests ++ [r] := by
  have fresh {r : LockRequest} (h : X'.store.requests = X.store.requests ++ [r]) :
      r ∉ X.store.requests := by
    have nodup := (effect.orderly o).requests_nodup
    rw [h] at nodup
    exact fun hr => (List.nodup_append.mp nodup).2.2 r hr r (List.mem_singleton_self r) rfl
  cases effect with
  | queueAdd => exact Or.inr ⟨_, fresh rfl, rfl⟩
  | queueDelete => exact Or.inr ⟨_, fresh rfl, rfl⟩
  | cancel => exact Or.inl List.erase_sublist

theorem Step.requests (step : Step X es X') (o : Orderly X.store X.waiting) :
    X'.store.requests.Sublist X.store.requests ∨
      ∃ r ∉ X.store.requests, X'.store.requests.Sublist (X.store.requests ++ [r]) := by
  have of_silent {T : Traffic} (effect : Effect X [] T)
      (h : X'.store.requests.Sublist T.store.requests) :
      X'.store.requests.Sublist X.store.requests ∨
        ∃ r ∉ X.store.requests, X'.store.requests.Sublist (X.store.requests ++ [r]) := by
    rcases effect.requests_of_silent o with hsub | ⟨r, hr, happend⟩
    · exact Or.inl (h.trans hsub)
    · exact Or.inr ⟨r, hr, happend ▸ h⟩
  cases step with
  | answer admits h =>
    rcases effects_of_answer admits h with effect | ⟨T, silent, effect⟩
    · exact Or.inl effect.shrinks.requests
    · exact of_silent silent effect.shrinks.requests
  | wait admits h => exact of_silent (effect_of_wait admits h) (.refl _)
  | resume h => exact Or.inl (effect_of_resume h).shrinks.requests
  | cancel => exact Or.inl List.erase_sublist
  | drop isOpen free => exact Or.inl List.filter_sublist

theorem Waits.path {w : Waiting} (waits : Waits w X X') :
    (∃ es, Path X es X') ∧ w ∈ X'.waiting := by
  induction waits with
  | refl hw => exact ⟨⟨[], .refl⟩, hw⟩
  | step _ step hw ih =>
    obtain ⟨⟨es, path⟩, _⟩ := ih
    exact ⟨⟨_, path.step step⟩, hw⟩

theorem Waits.blockedOnlyBy {w : Waiting} (waits : Waits w X X') (o : Orderly X.store X.waiting)
    (blocked : X.store.BlockedOnlyBy t w.request) : X'.store.BlockedOnlyBy t w.request := by
  induction waits with
  | refl => exact blocked
  | @step _ T T' waits step hw ih =>
    obtain ⟨⟨es, path⟩, hwT⟩ := waits.path
    have ord := path.orderly o
    rcases step.requests ord with hsub | ⟨r, hr, hsub⟩
    · exact ih.of_sublist hsub
    · apply ih.of_append hsub
      rintro rfl
      exact hr (ord.waiting_queued w hwT)

/-! ## Isolation -/

/-- What readers, others and the transaction itself see of a transaction that does not commit, from
where it began at `X₀` to `X`, with `es` in between. -/
structure Isolated (t : Nat) (X₀ : Traffic) (es : List Event) (X : Traffic) : Prop where
  /-- Others have been answered, and have changed the store, as if it had not been there. -/
  others : Others X₀ (es.filter fun e => e.ticket? ≠ some t) (X.without t)
  /-- Every read answers as if it had written nothing. -/
  reads : ∀ (now : Timestamp) (c : Call), c.isRead → ∃ answer,
    X.store.perform now c = (X.store, .answered answer) ∧
      (X.without t).store.perform now c = ((X.without t).store, .answered answer)
  /-- Neither its calls nor its end change what is committed or what is another's. -/
  own : ∀ es' X', Step X es' X' → Own t X es' X' → Event.committed t ∉ es' →
    X.store.Private t X'.store
  /-- It keeps what it has staged when a call fails, waits or is given up. -/
  failures : ∀ es' X' tx, Step X es' X' → Own t X es' X' → (∀ e ∈ es', e.IsQuiet) →
    X.store.transaction? t = some tx → ∃ tx', X'.store.transaction? t = some tx' ∧
      Store.Retains X.store.tables.accounts tx tx' ∧
      ∀ a ∈ X.store.tables.accounts, tx'.publish a = tx.publish a
  /-- Once it has ended, nobody has waited for it alone and still waits. -/
  unblocked : ∀ w X', Waits w X X' → X'.store.transaction? t = none →
    X.store.BlockedOnlyBy t w.request → X'.store.Holds w.request ∧
      ∀ now, ∃ s' answer, X'.store.resume now w.request w.call = (s', .answered answer)
  /-- Once it has ended, nothing is left of it. -/
  ended : X.store.transaction? t = none →
    X.without t = X ∧ ∀ r ∈ X.store.requests, r.ticket ≠ t

theorem reads_without (X : Traffic) (t : Nat) (now : Timestamp) (c : Call) (hc : c.isRead) :
    ∃ answer, X.store.perform now c = (X.store, .answered answer) ∧
      (X.without t).store.perform now c = ((X.without t).store, .answered answer) := by
  cases c with
  | createUser | createSession | createAccount | deleteAccount | begin | stageTransfer | stageEntry
  | addBalance | commit | rollback => cases hc
  | _ => exact ⟨_, rfl, rfl⟩

theorem resume_of_holds {s : Store} {w : Waiting} (holds : s.Holds w.request) (now : Timestamp) :
    ∃ s' answer, s.resume now w.request w.call = (s', .answered answer) := by
  obtain ⟨r, purpose⟩ := w
  cases purpose with
  | add amount => exact ⟨_, _, Store.resume_add amount holds⟩
  | delete => exact ⟨_, _, Store.resume_delete holds⟩

theorem Path.isolation {s : Store} {ws : List Waiting} (o : Orderly s ws)
    (path : Path ⟨s.begin.2, ws⟩ es X) (uncommitted : Event.committed s.begin.1 ∉ es) :
    Isolated s.begin.1 ⟨s.draw.2, ws⟩ es X := by
  have ord := path.orderly o.begin
  have drawn := path.drawn o.drawn_begin
  constructor
  · have := path.without o.drawn_begin uncommitted
    rwa [o.without_begin] at this
  · exact reads_without X _
  · intro es' X' step own uncommitted'
    exact own.private step drawn uncommitted'
  · intro es' X' tx step own fails htx
    obtain ⟨tx', htx', retains⟩ := own.retains step ord fails htx
    exact ⟨tx', htx', retains, fun a ha => retains.publish_eq ord.accounts_nodup ha⟩
  · intro w X' waits closed blocked
    obtain ⟨⟨es', path'⟩, hw⟩ := waits.path
    have ord' := path'.orderly ord
    have ended := ord'.ticket_ne_of_closed (path'.drawn drawn) closed
    have holds := (waits.blockedOnlyBy ord blocked).holds (ord'.waiting_queued w hw) ended
    exact ⟨holds, resume_of_holds holds⟩
  · intro closed
    exact ⟨ord.without_eq_self drawn closed, ord.ticket_ne_of_closed drawn closed⟩

end Traffic
end Giro
