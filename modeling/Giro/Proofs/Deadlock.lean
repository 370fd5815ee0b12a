import Mathlib.Logic.Relation
import Giro.Proofs.Pools

/-!
# No deadlock

A transfer that waits while it has a row waits for a row with a larger id. So whoever is waited for
and waits himself wants a larger id than the one he has, and a chain of callers who wait for each
other comes to an end at one who can go on.
-/

namespace Giro

open Traffic

namespace Caller

variable {s s' : Store} {c d : Caller} {r : LockRequest} {now : Timestamp}

/-- The next call of a caller has to wait, with this request. -/
def MustWait (s : Store) (c : Caller) (r : LockRequest) : Prop :=
  ∃ now rest, (Backend.memory.step now c.task s).2 = .blocked rest ∧ rest.waiting = some r

/-- The next call of a caller is answered, whenever it is made. -/
def CanGoOn (s : Store) (c : Caller) : Prop :=
  ∀ now, (∃ result, (Backend.memory.step now c.task s).2 = .finished result) ∨
    ∃ rest, (Backend.memory.step now c.task s).2 = .blocked rest ∧ rest.waiting = none

/-- The row of an account is locked for a caller. -/
def Has (s : Store) (c : Caller) (account : Int) : Prop :=
  ∃ q : LockRequest, s.Holds q ∧ q.account = account ∧
    (q.ticket ∈ c.task.opened ∨ c.task.waiting = some q)

theorem waiting_proceed {opened : List Nat} {p : Program (Except StoreError Receipt)}
    {rest : Task (Except StoreError Receipt)}
    (h : (Backend.memory.proceed opened s p).2 = .blocked rest) : rest.waiting = none := by
  cases p with
  | done | overflow => cases h
  | ask c next =>
    cases h
    rfl

theorem MustWait.exists_poll (h : c.MustWait s r) :
    ∃ now call next s', c.task.program = .ask call next ∧
    Backend.memory.poll now c.task.waiting call s = (s', .waiting r) := by
  obtain ⟨now, rest, hstep, hr⟩ := h
  obtain ⟨job, ⟨program, w, opened⟩⟩ := c
  cases program with
  | done | overflow => cases hstep
  | ask call next =>
    rcases hpoll : Backend.memory.poll now w call s with ⟨s', answer | q⟩
    · rw [Backend.step_of_answered hpoll] at hstep
      have := waiting_proceed hstep
      rw [hr] at this
      cases this
    · rw [Backend.step_of_waiting hpoll] at hstep
      cases hstep
      cases hr
      exact ⟨now, call, next, s', rfl, hpoll⟩

theorem Stands.program_of_waiting? {v : Waiting} (stands : c.Stands s) (hv : c.waiting? = some v) :
    ∃ next, c.task.program = .ask v.call next := by
  cases stands with
  | registering | opening | refused => cases hv
  | closing id w =>
    cases w with
    | none => cases hv
    | some t =>
      cases hv
      exact ⟨_, rfl⟩
  | @moving o st w check stands fits =>
    rw [waiting?_moving] at hv
    cases w with
    | none => cases hv
    | some q =>
      obtain ⟨v', rfl, hcall⟩ := fits q rfl
      rw [← hcall, place_call] at hv
      cases hv
      rw [hcall]
      exact ⟨_, st.program_eq o⟩

theorem MustWait.exists_call (h : c.MustWait s r) (stands : c.Stands s) :
    ∃ v : Waiting, v.request = r ∧ (∃ next, c.task.program = .ask v.call next) ∧
      ((c.waiting? = some v ∧ ¬ s.Holds r) ∨
        c.task.waiting = none ∧ ∃ now s', s.perform now v.call = (s', .waiting r)) := by
  obtain ⟨now, call, next, s', hprogram, hpoll⟩ := h.exists_poll
  have hrequest := stands.request_waiting?
  cases hw : c.task.waiting with
  | none =>
    rw [hw] at hpoll
    obtain ⟨⟨v, hv, rfl⟩, _⟩ := exists_waiting_of_perform hpoll
    exact ⟨v, hv, ⟨next, hprogram⟩, Or.inr ⟨rfl, now, s', hpoll⟩⟩
  | some q =>
    rw [hw] at hrequest hpoll
    obtain ⟨v, hv, rfl⟩ := Option.map_eq_some_iff.mp hrequest
    obtain ⟨next', hprogram'⟩ := stands.program_of_waiting? hv
    cases hprogram.symm.trans hprogram'
    obtain ⟨behind, rfl, rfl⟩ := eq_of_resume_waiting hpoll
    exact ⟨v, rfl, ⟨next', hprogram⟩, Or.inl ⟨hv, behind⟩⟩

end Caller

namespace Pool

variable {w : Pool} {c d : Caller} {r : LockRequest} {account : Int}

namespace Sound

variable (sound : Sound w)
include sound

theorem eq_of_opened (hc : c ∈ w.callers) (hd : d ∈ w.callers) {t : Nat} (hct : t ∈ c.task.opened)
    (hdt : t ∈ d.task.opened) : c = d := by
  by_contra hne
  obtain ⟨before, after, hsplit⟩ := List.append_of_mem hc
  obtain ⟨s, callers, fs⟩ := w
  subst hsplit
  exact sound.not_mem_opened ((mem_middle_iff.mp hd).resolve_left (Ne.symm hne)) hct hdt

theorem exists_waiting {v : Waiting} (hv : v ∈ w.callers.filterMap Caller.waiting?) :
    ∃ d ∈ w.callers, d.waiting? = some v ∧ d.task.waiting = some v.request := by
  obtain ⟨d, hd, hdv⟩ := List.mem_filterMap.mp hv
  refine ⟨d, hd, hdv, ?_⟩
  rw [← (sound.stands d hd).request_waiting?, hdv]
  rfl

theorem exists_has {q : LockRequest} (holds : w.store.Holds q) :
    ∃ d ∈ w.callers, d.Has w.store q.account := by
  rcases sound.orderly.requests_owned q holds.mem with ⟨tx, htx, ht, _⟩ | ⟨v, hv, rfl⟩
  · have hmem : q.ticket ∈ w.store.tickets := List.mem_map.mpr ⟨tx, htx, ht⟩
    obtain ⟨d, hd, hdt⟩ := List.mem_flatMap.mp (sound.tickets.mem_iff.mp hmem)
    exact ⟨d, hd, q, holds, rfl, Or.inl hdt⟩
  · obtain ⟨d, hd, _, hdw⟩ := sound.exists_waiting hv
    exact ⟨d, hd, v.request, holds, rfl, Or.inr hdw⟩

theorem exists_holder (hc : c ∈ w.callers) (h : c.MustWait w.store r) :
    ∃ q, w.store.Holds q ∧ q.account = r.account := by
  obtain ⟨v, rfl, _, ⟨hv, _⟩ | ⟨_, now, s', hperform⟩⟩ := h.exists_call (sound.stands c hc)
  · have hqueued := sound.orderly.waiting_queued v (List.mem_filterMap.mpr ⟨c, hc, hv⟩)
    obtain ⟨q, hq, holds⟩ := Store.exists_holder hqueued
    exact ⟨q, holds, hq⟩
  · obtain ⟨_, hrequests, behind⟩ := exists_waiting_of_perform hperform
    obtain ⟨q, hq, haccount⟩ := Store.exists_request_of_not_holds hrequests behind
    obtain ⟨q', hq', holds⟩ := Store.exists_holder hq
    exact ⟨q', holds, hq'.trans haccount⟩

theorem row?_eq_none_of_wait {v : Waiting} {t : Nat} {amount : Amount} {tx : Transaction}
    (hd : d ∈ w.callers) (hcall : v.call = .addBalance t account amount)
    (htx : tx ∈ w.store.transactions) (ht : tx.ticket = t)
    (hwait : d.waiting? = some v ∨ ∃ now s', w.store.perform now v.call = (s', .waiting r)) :
    tx.row? account = none := by
  obtain ⟨⟨t', account'⟩, purpose⟩ := v
  cases purpose with
  | delete => cases hcall
  | add amount' =>
    cases hcall
    rcases hwait with hv | ⟨now, s', hperform⟩
    · obtain ⟨tx', htx', ht', hnone⟩ :=
        sound.orderly.exists_unlocked (List.mem_filterMap.mpr ⟨d, hd, hv⟩)
      cases sound.orderly.eq_of_ticket htx' htx (ht'.trans ht.symm)
      exact hnone
    · subst ht
      obtain ⟨_, ⟨_, _, hnone⟩ | ⟨e, he⟩ | ⟨a, ha, _⟩⟩ :=
        sound.orderly.addBalance_changed htx hperform
      · exact hnone
      · cases he
      · cases ha

theorem exists_locked {q : LockRequest} (hd : d ∈ w.callers) (holds : w.store.Holds q)
    (mine : q.ticket ∈ d.task.opened) (not_waiting : d.task.waiting ≠ some q) :
    ∃ tx ∈ w.store.transactions, tx.ticket = q.ticket ∧ ∃ row ∈ tx.rows, row.id = q.account := by
  rcases sound.orderly.requests_owned q holds.mem with h | ⟨u, hu, rfl⟩
  · exact h
  obtain ⟨e, he, hev, hew⟩ := sound.exists_waiting hu
  rcases (sound.stands e he).waiting_own hev with hdelete | hown
  · obtain ⟨tx, htx, ht⟩ := List.mem_map.mp (sound.isOpen hd mine)
    exact absurd ht (sound.orderly.ticket_ne_of_delete hu hdelete htx)
  · cases sound.eq_of_opened he hd hown mine
    exact absurd hew not_waiting

omit sound in
/-- A transfer that calls for a row while it has locked another is half way. -/
theorem half_of_locked {o : TransferOrder} {st : Stage} {s : Store} {v : Waiting} {tx : Transaction}
    {row : Account} (stands : st.Stands o s) (hcall : v.call = st.call o) (hrow : row ∈ tx.rows)
    (mine : ∀ tx' ∈ s.transactions, st.ticket? = some tx'.ticket → tx' = tx)
    (ht : (st.ticket?).isSome) :
    row.id = o.first ∧ v.call = .addBalance tx.ticket o.second o.secondAmount := by
  cases st with
  | fresh => cases ht
  | begun t =>
    cases mine _ stands rfl
    cases hrow
  | recorded t f =>
    cases mine _ stands.1 rfl
    cases hrow
  | debited t f d =>
    cases mine _ stands.1 rfl
    cases hrow
  | credited t f d c =>
    cases mine _ stands.1 rfl
    cases hrow
  | half t f d c a =>
    obtain ⟨htx, _, _, _, ha⟩ := stands
    cases mine _ htx rfl
    refine ⟨?_, hcall⟩
    rcases Transaction.exists_mem_withRow_iff.mp ⟨row, hrow, rfl⟩ with h | ⟨row', hrow', _⟩
    · rw [h, ha.id_eq]
    · cases hrow'
  | full | failed =>
    -- These stages end the transaction, and no such call ever waits.
    have := purpose?_call v
    rw [hcall] at this
    cases this

/-- A caller that has a row and must wait is a transfer between two rows, and wants the one with the
larger id. -/
theorem lt_of_has (hd : d ∈ w.callers) (has : d.Has w.store account) (h : d.MustWait w.store r) :
    account < r.account := by
  obtain ⟨q, holds, rfl, hown⟩ := has
  have stands := sound.stands d hd
  obtain ⟨v, rfl, ⟨next, hprogram⟩, hwait⟩ := h.exists_call stands
  have not_waiting : d.task.waiting ≠ some q := by
    intro hq
    rcases hwait with ⟨hv, behind⟩ | ⟨hnone, _⟩
    · have := stands.request_waiting?
      rw [hv, hq] at this
      cases this
      exact behind holds
    · rw [hnone] at hq
      cases hq
  have mine : q.ticket ∈ d.task.opened := hown.resolve_right not_waiting
  obtain ⟨tx, htx, ht, row, hrow, hid⟩ := sound.exists_locked hd holds mine not_waiting
  cases stands with
  | registering | opening | closing | refused => cases mine
  | @moving o st w' check stands fits =>
    have hcall : v.call = st.call o :=
      (Program.ask.inj ((st.program_eq o).symm.trans hprogram)).1.symm
    have hticket : st.ticket? = some q.ticket := by simpa using mine
    have only : ∀ tx' ∈ w.store.transactions, st.ticket? = some tx'.ticket → tx' = tx := by
      intro tx' htx' ht'
      apply sound.orderly.eq_of_ticket htx' htx
      exact (Option.some.inj (ht'.symm.trans hticket)).trans ht.symm
    obtain ⟨hfirst, hadd⟩ := half_of_locked stands hcall hrow only (by rw [hticket]; rfl)
    have hnone := sound.row?_eq_none_of_wait hd hadd htx rfl (hwait.imp And.left And.right)
    have hne : o.second ≠ row.id :=
      fun heq => Transaction.row?_eq_none_iff.mp hnone row hrow heq.symm
    have haccount : v.request.account = o.second := by
      obtain ⟨⟨t', account'⟩, purpose⟩ := v
      cases purpose <;> cases hadd
      rfl
    have := o.first_le_second
    omega

end Sound

/-! ## Who waits for whom -/

/-- One caller must wait for a row that another has. Callers go by their position. -/
def WaitsFor (w : Pool) (i j : Nat) : Prop :=
  ∃ c d r, w.callers[i]? = some c ∧ w.callers[j]? = some d ∧ c.MustWait w.store r ∧
    d.Has w.store r.account

theorem Sound.exists_waitsFor (sound : Sound w) {i : Nat} (hi : w.callers[i]? = some c)
    (h : c.MustWait w.store r) :
    ∃ j d, w.callers[j]? = some d ∧ d.Has w.store r.account ∧ w.WaitsFor i j := by
  obtain ⟨q, holds, haccount⟩ := sound.exists_holder (List.mem_of_getElem? hi) h
  obtain ⟨d, hd, has⟩ := sound.exists_has holds
  rw [haccount] at has
  obtain ⟨j, hj⟩ := List.mem_iff_getElem?.mp hd
  exact ⟨j, d, hj, has, c, d, r, hi, hj, h, has⟩

theorem Sound.mustWait_or_canGoOn (sound : Sound w) (hc : c ∈ w.callers) :
    (∃ r, c.MustWait w.store r) ∨ c.CanGoOn w.store := by
  by_cases h : ∃ r, c.MustWait w.store r
  · exact Or.inl h
  apply Or.inr
  intro now
  obtain ⟨before, after, hsplit⟩ := List.append_of_mem hc
  obtain ⟨s, callers, fs⟩ := w
  subst hsplit
  rcases hstep : Backend.memory.step now c.task s with ⟨s', outcome⟩
  have houtcome : (Backend.memory.step now c.task s).2 = outcome := congrArg Prod.snd hstep
  cases (sound.stands c hc).goes sound.orderly_split sound.free hstep with
  | @on rest =>
    refine Or.inr ⟨rest, rfl, ?_⟩
    cases hw : rest.waiting with
    | none => rfl
    | some r => exact absurd ⟨r, now, rest, houtcome, hw⟩ h
  | failed => exact Or.inl ⟨_, rfl⟩
  | done => exact Or.inl ⟨_, rfl⟩

/-- The wanted ids rise along a chain of callers who wait for each other. -/
theorem Sound.lt_of_transGen (sound : Sound w) {i k : Nat} (h : Relation.TransGen w.WaitsFor i k) :
    ∃ c r, w.callers[i]? = some c ∧ c.MustWait w.store r ∧
      ∀ d r', w.callers[k]? = some d → d.MustWait w.store r' → r.account < r'.account := by
  induction h using Relation.TransGen.head_induction_on with
  | single h =>
    obtain ⟨c, d, r, hi, hk, hwait, has⟩ := h
    refine ⟨c, r, hi, hwait, fun d' r' hk' hwait' => ?_⟩
    cases hk.symm.trans hk'
    exact sound.lt_of_has (List.mem_of_getElem? hk) has hwait'
  | head h _ ih =>
    obtain ⟨c, d, r, hi, hj, hwait, has⟩ := h
    obtain ⟨d', r₁, hj', hwait', hlast⟩ := ih
    cases hj.symm.trans hj'
    have := sound.lt_of_has (List.mem_of_getElem? hj) has hwait'
    refine ⟨c, r, hi, hwait, fun e r' hk hwait'' => ?_⟩
    exact Int.lt_trans this (hlast e r' hk hwait'')

/-- Were nobody to go on, somebody would want an id beyond all that were ever given out. -/
theorem Sound.exists_canGoOn (sound : Sound w) (hne : w.callers ≠ []) :
    ∃ c ∈ w.callers, c.CanGoOn w.store := by
  by_contra hstuck
  push Not at hstuck
  have all_wait : ∀ c ∈ w.callers, ∃ r, c.MustWait w.store r := fun c hc =>
    (sound.mustWait_or_canGoOn hc).resolve_right (hstuck c hc)
  obtain ⟨c₀, hc₀⟩ := List.exists_mem_of_ne_nil _ hne
  obtain ⟨r₀, h₀⟩ := all_wait c₀ hc₀
  -- Whoever is waited for must wait as well, and for a larger id.
  have climb : ∀ n : Nat, ∃ c ∈ w.callers, ∃ r,
      c.MustWait w.store r ∧ r₀.account + n ≤ r.account := by
    intro n
    induction n with
    | zero => exact ⟨c₀, hc₀, r₀, h₀, by omega⟩
    | succ n ih =>
      obtain ⟨c, hc, r, h, hle⟩ := ih
      obtain ⟨i, hi⟩ := List.mem_iff_getElem?.mp hc
      obtain ⟨j, d, hj, has, _⟩ := sound.exists_waitsFor hi h
      have hd := List.mem_of_getElem? hj
      obtain ⟨r', h'⟩ := all_wait d hd
      have := sound.lt_of_has hd has h'
      exact ⟨d, hd, r', h', by omega⟩
  obtain ⟨c, hc, r, h, hle⟩ := climb (w.store.issued.account - r₀.account + 1).toNat
  obtain ⟨q, holds, haccount⟩ := sound.exists_holder hc h
  have := (sound.orderly.requests_issued q holds.mem).2
  omega

/-- In every reachable state with callers, one of them can go on. Nobody waits for himself, neither
at once nor through others, and who cannot go on waits for somebody. -/
theorem Run.no_deadlock {s₀ : Store} (settled : s₀.Settled) (run : Run s₀ w) :
    (w.callers ≠ [] → ∃ c ∈ w.callers, c.CanGoOn w.store) ∧
    (∀ i, ¬ Relation.TransGen w.WaitsFor i i) ∧
    (∀ i, ¬ w.WaitsFor i i) ∧
    ∀ i c, w.callers[i]? = some c → c.CanGoOn w.store ∨ ∃ j, w.WaitsFor i j := by
  have sound := run.sound settled
  have acyclic : ∀ i, ¬ Relation.TransGen w.WaitsFor i i := by
    intro i h
    obtain ⟨c, r, hi, hwait, hlast⟩ := sound.lt_of_transGen h
    exact Int.lt_irrefl _ (hlast c r hi hwait)
  refine ⟨sound.exists_canGoOn, acyclic, fun i h => acyclic i (.single h), fun i c hi => ?_⟩
  rcases sound.mustWait_or_canGoOn (List.mem_of_getElem? hi) with ⟨r, h⟩ | h
  · obtain ⟨j, _, _, _, hij⟩ := sound.exists_waitsFor hi h
    exact Or.inr ⟨j, hij⟩
  · exact Or.inl h

theorem Run.no_deadlock_of_opposing :
    ∃ w : Pool, Run .empty w ∧ w.WaitsFor 1 0 ∧ ¬ w.WaitsFor 0 0 ∧
    ∃ c ∈ w.callers, c.CanGoOn w.store := by
  have run := (@Run.start .empty).arrive (.register ⟨"ada", "", "", ""⟩) |>.turn .epoch 0
  have run := run.arrive (.openAccount ⟨"ada", .usd, 100⟩) |>.turn .epoch 0
  have run := run.arrive (.openAccount ⟨"ada", .eur, 100⟩) |>.turn .epoch 0
  have run := run.arrive (.transfer ⟨1, 2, 10⟩) |>.arrive (.transfer ⟨2, 1, 20⟩)
  have run := run.turn .epoch 0 |>.turn .epoch 0 |>.turn .epoch 0 |>.turn .epoch 0 |>.turn .epoch 0
  have run := run.turn .epoch 1 |>.turn .epoch 1 |>.turn .epoch 1 |>.turn .epoch 1 |>.turn .epoch 1
  obtain ⟨progress, _, irreflexive, _⟩ := run.no_deadlock Store.settled_empty
  refine ⟨_, run, ?_, irreflexive 0, progress ?_⟩
  · refine ⟨_, _, ⟨2, 1⟩, rfl, rfl, ⟨.epoch, _, rfl, rfl⟩, ⟨⟨1, 1⟩, ?_, rfl, Or.inl ?_⟩⟩
    · rfl
    · exact List.mem_singleton_self _
  · exact List.cons_ne_nil _ _

end Pool
end Giro
