import Giro.Proofs.Turns

/-!
# Callers side by side

The invariant of a pool: each caller stands where its program says, whatever the others do, and
every open transaction belongs to exactly one caller. Every step of a pool keeps it, and commits
either nothing or one whole job (`Step.sound_commits`).
-/

namespace Giro

open Traffic

/-! ## One caller -/

namespace Caller

def place (call : Call) (w : Option LockRequest) : Option Waiting :=
  w.bind fun r => call.purpose?.map (Waiting.mk r)

theorem place_call (v : Waiting) : place v.call (some v.request) = some v := by
  simp [place, purpose?_call]

def waiting? (c : Caller) : Option Waiting :=
  match c.task.program with
  | .ask call _ => place call c.task.waiting
  | _ => none

/-- A caller that closes an account, once it is in the queue with a ticket. -/
def closing (id : Int) (ticket : Option Nat) : Caller :=
  ⟨.closeAccount id, ⟨(Job.closeAccount id).attempt.run, ticket.map (LockRequest.mk · id), []⟩⟩

/-- A caller stands where its program says. -/
inductive Stands (s : Store) : Caller → Prop where
  | registering (new : NewUser) : Stands s (Job.register new).start
  | opening (new : NewAccount) : Stands s (Job.openAccount new).start
  | closing (id : Int) (w : Option Nat) : Stands s (closing id w)
  | refused {o : TransferOrder} {e : Invalid} (check : o.check = .error e) :
      Stands s ⟨.transfer o, ⟨.done (.error (.invalid e)), none, []⟩⟩
  | moving {o : TransferOrder} {st : Stage} {w : Option LockRequest} (check : o.check = .ok ())
      (stands : st.Stands o s)
      (fits : ∀ r, w = some r → ∃ v : Waiting, v.request = r ∧ v.call = st.call o) :
      Stands s ⟨.transfer o, ⟨st.program o, w, st.ticket?.toList⟩⟩

variable {s s' : Store} {c : Caller} {o : TransferOrder} {st : Stage}

theorem stands_start (j : Job) : j.start.Stands s := by
  cases j with
  | register new => exact .registering new
  | openAccount new => exact .opening new
  | closeAccount id => exact .closing id none
  | transfer o =>
    have hattempt := Stage.attempt_eq o
    unfold Job.start
    cases check : o.check with
    | ok u =>
      rw [check] at hattempt
      rw [hattempt]
      exact @Stands.moving s o .fresh none check trivial fun r hr => by cases hr
    | error e =>
      rw [check] at hattempt
      rw [hattempt]
      exact .refused check

theorem Stands.frame (stands : c.Stands s)
    (spared : ∀ tx ∈ s.transactions, tx.ticket ∈ c.task.opened → s.Spares s' tx) : c.Stands s' := by
  cases stands with
  | registering new => exact .registering new
  | opening new => exact .opening new
  | closing id w => exact .closing id w
  | refused check => exact .refused check
  | moving check stands fits =>
    refine .moving check (stands.frame fun tx htx ht => spared tx htx ?_) fits
    simp [ht]

theorem waiting?_moving {w : Option LockRequest} {opened : List Nat} :
    waiting? ⟨.transfer o, ⟨st.program o, w, opened⟩⟩ = place (st.call o) w := by
  rw [Stage.program_eq]
  rfl

theorem Stands.waiting_own {v : Waiting} (stands : c.Stands s) (hv : c.waiting? = some v) :
    v.purpose = .delete ∨ v.request.ticket ∈ c.task.opened := by
  cases stands with
  | registering | opening | refused => cases hv
  | closing id w =>
    cases w with
    | none => cases hv
    | some t =>
      cases hv
      exact Or.inl rfl
  | @moving o st w check stands fits =>
    cases w with
    | none =>
      rw [waiting?_moving] at hv
      cases hv
    | some r =>
      obtain ⟨v', rfl, hcall⟩ := fits r rfl
      rw [waiting?_moving, ← hcall, place_call] at hv
      cases hv
      obtain ⟨⟨t, account⟩, purpose⟩ := v
      cases purpose with
      | delete => exact Or.inl rfl
      | add amount =>
        right
        cases st <;> cases hcall <;> exact List.mem_singleton_self _

/-- What one call of a caller leaves for the others, when the open transactions of the caller go
from `mine` to `mine'`. -/
structure Turn (mine mine' : List Nat) (s s' : Store) (ws ws' : List Waiting) : Prop where
  orderly : Orderly s' ws'
  others : ∀ tx ∈ s.transactions, tx.ticket ∉ mine → s.Spares s' tx
  tickets : ∀ l, s.tickets.Perm (l ++ mine) → s'.tickets.Perm (l ++ mine')

variable {ws ws' before after : List Waiting} {events : List Event} {now : Timestamp}
    {outcome : Outcome (Except StoreError Receipt)} {mine mine' : List Nat}

theorem Turn.of_step (ord : Orderly s ws) (step : Traffic.Step ⟨s, ws⟩ events ⟨s', ws'⟩)
    (own : ∀ e ∈ events, ∀ t, e.ticket? = some t → t ∈ mine)
    (tickets : ∀ l, s.tickets.Perm (l ++ mine) → s'.tickets.Perm (l ++ mine')) :
    Turn mine mine' s s' ws ws' where
  orderly := step.orderly ord
  others _ htx hne := step.spares ord htx fun e he ht => hne (own e he _ ht)
  tickets := tickets

theorem Turn.refl (ord : Orderly s ws) : Turn mine mine s s ws ws where
  orderly := ord
  others _ htx _ := .refl htx
  tickets _ h := h

/-- Where a call leaves its caller, with other callers `before` and `after` it in the list of those
who wait. -/
inductive Goes (c : Caller) (s s' : Store) (before after : List Waiting) :
    Outcome (Except StoreError Receipt) → Prop where
  | on {rest : Task (Except StoreError Receipt)} (stands : Stands s' { c with task := rest })
      (tables : s'.tables = s.tables) (issued : s'.issued.account = s.issued.account)
      (turn : Turn c.task.opened rest.opened s s' (before ++ c.waiting?.toList ++ after)
        (before ++ (waiting? { c with task := rest }).toList ++ after)) :
      Goes c s s' before after (.blocked rest)
  | failed {e : StoreError} (tables : s'.tables = s.tables)
      (issued : s'.issued.account = s.issued.account)
      (turn : Turn c.task.opened [] s s' (before ++ c.waiting?.toList ++ after) (before ++ after)) :
      Goes c s s' before after (.finished (.error e))
  | done {r : Receipt} (writes : c.job.Writes r s s')
      (turn : Turn c.task.opened [] s s' (before ++ c.waiting?.toList ++ after) (before ++ after)) :
      Goes c s s' before after (.finished (.ok r))

theorem poll_delete {id : Int} {w : Option LockRequest} {answer : Except StoreError Unit}
    (fits : ∀ r, w = some r → r.account = id)
    (h : Backend.memory.poll now w (.deleteAccount id) s = (s', .answered answer)) :
    s'.transactions = s.transactions ∧
    ((∃ e, answer = .error e ∧ s'.tables = s.tables ∧ s'.issued.account = s.issued.account) ∨
      answer = .ok () ∧ (Job.closeAccount id).Writes .closed s s') := by
  have granted : ∀ {s₁ : Store} {r : LockRequest}, r.account = id → s₁.tables = s.tables →
      s₁.issued.account = s.issued.account → s₁.transactions = s.transactions →
      s₁.deleteGranted r = (s', answer) →
      s'.transactions = s.transactions ∧
      ((∃ e, answer = .error e ∧ s'.tables = s.tables ∧ s'.issued.account = s.issued.account) ∨
        answer = .ok () ∧ (Job.closeAccount id).Writes .closed s s') := by
    intro s₁ r hid htables hissued htransactions hg
    rcases Store.deleteGranted_cases hg with ⟨rfl, e, rfl⟩ | ⟨hsome, hnamed, rfl, rfl⟩
    · exact ⟨htransactions, Or.inl ⟨e, rfl, htables, hissued⟩⟩
    · rw [htables, hid] at hsome hnamed
      refine ⟨htransactions, Or.inr ⟨rfl, .closeAccount hsome hnamed ?_ hissued⟩⟩
      simp only [Store.withdraw_tables, htables, hid]
  cases w with
  | none =>
    cases Store.deleteAccount_outcome h with
    | refused e => exact ⟨rfl, Or.inl ⟨e, rfl, rfl, rfl⟩⟩
    | granted hl holds hg =>
      exact @granted (s.draw.2.enqueue ⟨s.draw.1, id⟩) ⟨s.draw.1, id⟩ rfl rfl rfl rfl hg
  | some r =>
    cases fits r rfl
    have hresume : s.resume now r (.deleteAccount r.account) = (s', .answered answer) := h
    obtain ⟨_, hg⟩ := Store.deleteGranted_of_resume hresume
    exact granted rfl rfl rfl rfl hg

section Moves

variable {call : Call} {w : Option LockRequest}
    (ord : Orderly s (before ++ (place call w).toList ++ after))
    (admits : Admits (before ++ after) call)
    (fits : ∀ r, w = some r → ∃ v : Waiting, v.request = r ∧ v.call = call)
include ord admits fits

theorem turn_of_answered {answer : Except StoreError call.Reply}
    (h : Backend.memory.poll now w call s = (s', .answered answer))
    (own : ∀ t, call.ticket? = some t → t ∈ mine)
    (tickets : ∀ l, s.tickets.Perm (l ++ mine) → s'.tickets.Perm (l ++ mine')) :
    Turn mine mine' s s' (before ++ (place call w).toList ++ after) (before ++ after) := by
  rcases step_of_poll admits fits h with ⟨answer', he, step⟩ | ⟨v, hv, _⟩
  · cases he
    refine .of_step ord step (fun e he t ht => own t ?_) tickets
    cases List.mem_singleton.mp he
    exact ht
  · cases hv

theorem turn_of_waiting {r : LockRequest}
    (h : Backend.memory.poll now w call s = (s', .waiting r)) :
    (∃ v : Waiting, v.request = r ∧ v.call = call) ∧ Store.Keeps s s' ∧
    (∀ tx ∈ s.transactions, s.Spares s' tx) ∧
    Turn mine mine s s' (before ++ (place call w).toList ++ after)
      (before ++ (place call (some r)).toList ++ after) := by
  rcases step_of_poll admits fits h with ⟨answer', he, step⟩ |
    ⟨v, hv, rfl, ⟨rfl, step⟩ | ⟨rfl, rfl⟩⟩
  · cases he
  · cases hv
    have hbefore : before ++ (place v.call none).toList ++ after = before ++ after := by
      simp [place]
    have hafter : before ++ (place v.call (some v.request)).toList ++ after =
        before ++ v :: after := by
      simp [place_call]
    rw [hbefore] at ord ⊢
    rw [hafter]
    have no_events : ∀ {P : Event → Prop}, ∀ e ∈ ([] : List Event), P e :=
      fun e he => absurd he List.not_mem_nil
    refine ⟨⟨v, rfl, rfl⟩, step.keeps, fun tx htx => step.spares ord htx no_events, ?_⟩
    exact .of_step ord step no_events fun l hl => by rwa [step.keeps.tickets]
  · cases hv
    exact ⟨⟨v, rfl, rfl⟩, .refl _, fun tx htx => .refl htx, .refl ord⟩

end Moves

theorem admits_of_ticket?_eq_none {call : Call} (h : call.ticket? = none) : Admits ws call := by
  intro v _ ht
  rw [h] at ht
  cases ht

theorem run_map_call (call : Call) (f : call.Reply → Receipt) :
    (f <$> Attempt.call call).run = .ask call fun answer => .done (answer.map f) := by
  refine congrArg (Program.ask call) (funext fun answer => ?_)
  cases answer <;> rfl

theorem step_of_only_answer {call : Call} {f : call.Reply → Receipt} {w : Option LockRequest}
    {answer : Except StoreError call.Reply} (htrack : call.track answer [] = [])
    (hpoll : Backend.memory.poll now w call s = (s', .answered answer)) :
    Backend.memory.step now ⟨.ask call fun answer => .done (answer.map f), w, []⟩ s =
      (s', .finished (answer.map f)) := by
  rw [Backend.step_of_answered hpoll, htrack]
  rfl

theorem goes_of_settle {j : Job} {call : Call} {f : call.Reply → Receipt}
    {r : Except StoreError (call.Reply × Store)} (ord : Orderly s (before ++ [] ++ after))
    (hticket : call.ticket? = none) (htrack : ∀ answer, call.track answer [] = [])
    (hr : s.perform now call = s.settle r)
    (writes : ∀ x s₁, r = .ok (x, s₁) → j.Writes (f x) s s₁ ∧ s₁.transactions = s.transactions)
    (h : Backend.memory.step now ⟨(f <$> Attempt.call call).run, none, []⟩ s = (s', outcome)) :
    Goes ⟨j, ⟨(f <$> Attempt.call call).run, none, []⟩⟩ s s' before after outcome := by
  rw [run_map_call] at h ⊢
  have fits : ∀ r, (none : Option LockRequest) = some r →
      ∃ v : Waiting, v.request = r ∧ v.call = call :=
    fun r hr => by cases hr
  have own : ∀ t, call.ticket? = some t → t ∈ ([] : List Nat) := by
    intro t ht
    rw [hticket] at ht
    cases ht
  cases r with
  | ok x =>
    have hpoll : Backend.memory.poll now none call s = (x.2, .answered (.ok x.1)) := hr
    obtain ⟨hwrites, htransactions⟩ := writes x.1 x.2 rfl
    cases (step_of_only_answer (htrack _) hpoll).symm.trans h
    refine .done hwrites
      (turn_of_answered ord (admits_of_ticket?_eq_none hticket) fits hpoll own fun l hl => ?_)
    rwa [Store.tickets, htransactions]
  | error e =>
    have hpoll : Backend.memory.poll now none call s = (s, .answered (.error e)) := hr
    cases (step_of_only_answer (htrack _) hpoll).symm.trans h
    exact .failed rfl rfl
      (turn_of_answered ord (admits_of_ticket?_eq_none hticket) fits hpoll own fun _ hl => hl)

theorem goes_of_closing {id : Int} {w : Option Nat}
    (ord : Orderly s (before ++ (closing id w).waiting?.toList ++ after))
    (h : Backend.memory.step now (closing id w).task s = (s', outcome)) :
    Goes (closing id w) s s' before after outcome := by
  unfold closing at ord h ⊢
  have fits : ∀ r, w.map (LockRequest.mk · id) = some r →
      ∃ v : Waiting, v.request = r ∧ v.call = .deleteAccount id := by
    intro r hr
    obtain ⟨t, _, rfl⟩ := Option.map_eq_some_iff.mp hr
    exact ⟨⟨⟨t, id⟩, .delete⟩, rfl, rfl⟩
  have admits : Admits (before ++ after) (.deleteAccount id) := admits_of_ticket?_eq_none rfl
  have hattempt : (Job.closeAccount id).attempt.run = .ask (.deleteAccount id) _ := run_map_call _ _
  rw [hattempt] at ord h ⊢
  rcases hpoll : Backend.memory.poll now (w.map (LockRequest.mk · id)) (.deleteAccount id) s with
    ⟨s₁, answer | r⟩
  · cases (step_of_only_answer rfl hpoll).symm.trans h
    have account_eq : ∀ r, w.map (LockRequest.mk · id) = some r → r.account = id := by
      intro r hr
      obtain ⟨t, _, rfl⟩ := Option.map_eq_some_iff.mp hr
      rfl
    obtain ⟨htransactions, hanswer⟩ := poll_delete account_eq hpoll
    have turn : Turn [] [] s s' _ (before ++ after) :=
      turn_of_answered ord admits fits hpoll (fun t ht => by cases ht) fun l hl => by
        rwa [Store.tickets, htransactions]
    rcases hanswer with ⟨e, rfl, tables, issued⟩ | ⟨rfl, writes⟩
    · exact .failed tables issued turn
    · exact .done writes turn
  · cases (Backend.step_of_waiting hpoll).symm.trans h
    obtain ⟨⟨⟨⟨t, account⟩, purpose⟩, rfl, hv⟩, keeps, _, turn⟩ :=
      turn_of_waiting ord admits fits hpoll
    refine .on ?_ keeps.tables keeps.issued turn
    cases purpose with
    | add amount => cases hv
    | delete =>
      cases hv
      have stands : Stands s' (closing account (some t)) := .closing account (some t)
      unfold closing at stands
      rw [hattempt] at stands
      exact stands

theorem goes_of_moving {w : Option LockRequest} (check : o.check = .ok ()) (stands : st.Stands o s)
    (fits : ∀ r, w = some r → ∃ v : Waiting, v.request = r ∧ v.call = st.call o)
    (ord : Orderly s (before ++ (place (st.call o) w).toList ++ after))
    (free : ∀ t ∈ st.ticket?.toList, Free t (before ++ after))
    (h : Backend.memory.step now ⟨st.program o, w, st.ticket?.toList⟩ s = (s', outcome)) :
    Goes ⟨.transfer o, ⟨st.program o, w, st.ticket?.toList⟩⟩ s s' before after outcome := by
  have hticket : (st.call o).ticket? = st.ticket? := by cases st <;> rfl
  have own : ∀ t, (st.call o).ticket? = some t → t ∈ st.ticket?.toList :=
    fun t ht => by simp [← hticket, ht]
  have admits : Admits (before ++ after) (st.call o) := fun v hv ht => free _ (own _ ht) v hv rfl
  have hprogram := st.program_eq o
  rw [hprogram] at h ⊢
  rcases hpoll : Backend.memory.poll now w (st.call o) s with ⟨s₁, answer | r⟩
  · have placed : ∀ r, w = some r → ∃ v ∈ before ++ (place (st.call o) w).toList ++ after,
        v.request = r ∧ v.call = st.call o := by
      rintro r rfl
      obtain ⟨v, rfl, hv⟩ := fits r rfl
      refine ⟨v, ?_, rfl, hv⟩
      rw [← hv, place_call]
      simp
    have leads := stands.answered check ord placed hpoll
    have turn : ∀ mine', _ → Turn st.ticket?.toList mine' s s₁ _ (before ++ after) :=
      fun mine' => turn_of_answered ord admits fits hpoll own
    rw [Backend.step_of_answered hpoll, Stage.track_eq] at h
    generalize st.next o answer = l at leads h
    cases leads with
    | @on st' stands' tables issued tickets =>
      have hproceed : Backend.memory.proceed st'.ticket?.toList s₁ (st'.program o) =
          (s₁, .blocked ⟨st'.program o, none, st'.ticket?.toList⟩) := by
        rw [Stage.program_eq]
        rfl
      cases hproceed.symm.trans h
      refine .on (.moving check stands' fun r hr => by cases hr) tables issued ?_
      rw [waiting?_moving,
        show before ++ (place (st'.call o) none).toList ++ after = before ++ after by simp [place]]
      exact turn _ tickets
    | failed tables issued tickets =>
      cases h
      exact .failed tables issued (turn [] fun l hl => by simpa using tickets l hl)
    | done writes tickets =>
      cases h
      exact .done writes (turn [] fun l hl => by simpa using tickets l hl)
  · cases (Backend.step_of_waiting hpoll).symm.trans h
    obtain ⟨hv, keeps, spares, turn⟩ := turn_of_waiting ord admits fits hpoll
    refine .on ?_ keeps.tables keeps.issued turn
    have stands' : Stands s' ⟨.transfer o, ⟨st.program o, some r, st.ticket?.toList⟩⟩ :=
      .moving check (stands.frame fun tx htx _ => spares tx htx) fun r' hr' => by
        cases hr'
        exact hv
    rw [hprogram] at stands'
    exact stands'

/-- Every call leaves its caller, and the others, where it should. -/
theorem Stands.goes (stands : c.Stands s) (ord : Orderly s (before ++ c.waiting?.toList ++ after))
    (free : ∀ t ∈ c.task.opened, Free t (before ++ after))
    (h : Backend.memory.step now c.task s = (s', outcome)) : Goes c s s' before after outcome := by
  cases stands with
  | registering new =>
    refine goes_of_settle ord rfl (fun _ => rfl) rfl (fun u s₁ hu => ?_) h
    obtain ⟨_, _, _, rfl⟩ := Store.createUser_eq_ok_iff.mp hu
    exact ⟨.register hu, rfl⟩
  | opening new =>
    refine goes_of_settle ord rfl (fun _ => rfl) rfl (fun a s₁ ha => ?_) h
    obtain ⟨_, _, _, rfl⟩ := Store.createAccount_eq_ok_iff.mp ha
    exact ⟨.openAccount ha, rfl⟩
  | closing id w => exact goes_of_closing ord h
  | refused check =>
    cases h
    have hws : before ++ ([] : List Waiting) ++ after = before ++ after := by simp
    exact .failed rfl rfl ⟨hws ▸ ord, fun _ htx _ => .refl htx, fun _ hl => hl⟩
  | moving check stands fits =>
    rw [waiting?_moving] at ord
    exact goes_of_moving check stands fits ord free h

/-! ### A caller that is cancelled -/

theorem Stands.request_waiting? (stands : c.Stands s) :
    c.waiting?.map Waiting.request = c.task.waiting := by
  cases stands with
  | registering | opening | refused => rfl
  | closing id w => cases w <;> rfl
  | @moving o st w check stands fits =>
    rw [waiting?_moving]
    cases w with
    | none => rfl
    | some r =>
      obtain ⟨v, rfl, hv⟩ := fits r rfl
      rw [← hv, place_call]
      rfl

theorem Stands.opened_cases (stands : c.Stands s) :
    c.task.opened = [] ∨ ∃ t, c.task.opened = [t] := by
  cases stands with
  | registering | opening | refused | closing => exact Or.inl rfl
  | @moving o st w check stands fits =>
    cases st with
    | fresh => exact Or.inl rfl
    | _ => exact Or.inr ⟨_, rfl⟩

theorem Turn.trans {s'' : Store} {ws'' : List Waiting} (h : Turn mine mine s s' ws ws')
    (h' : Turn mine mine' s' s'' ws' ws'') : Turn mine mine' s s'' ws ws'' where
  orderly := h'.orderly
  others tx htx hne := by
    have spares := h.others tx htx hne
    exact spares.trans (h'.others tx spares.mem hne)
  tickets l hl := h'.tickets l (h.tickets l hl)

/-- A caller that is cancelled leaves nothing behind. -/
theorem Stands.cancelled (stands : c.Stands s)
    (ord : Orderly s (before ++ c.waiting?.toList ++ after))
    (free : ∀ t ∈ c.task.opened, Free t (before ++ after))
    (isOpen : ∀ t ∈ c.task.opened, t ∈ s.tickets) :
    (Backend.memory.cancel c.task s).tables = s.tables ∧
    (Backend.memory.cancel c.task s).issued.account = s.issued.account ∧
    Turn c.task.opened [] s (Backend.memory.cancel c.task s)
      (before ++ c.waiting?.toList ++ after) (before ++ after) := by
  have dropped : ∀ s₁ : Store, Store.Keeps s s₁ → Turn c.task.opened c.task.opened s s₁
      (before ++ c.waiting?.toList ++ after) (before ++ after) →
      (Backend.memory.discardAll c.task.opened s₁).tables = s.tables ∧
      (Backend.memory.discardAll c.task.opened s₁).issued.account = s.issued.account ∧
      Turn c.task.opened [] s (Backend.memory.discardAll c.task.opened s₁)
        (before ++ c.waiting?.toList ++ after) (before ++ after) := by
    intro s₁ keeps turn
    rcases stands.opened_cases with hopened | ⟨t, hopened⟩
    · rw [hopened] at turn ⊢
      exact ⟨keeps.tables, keeps.issued, turn⟩
    · rw [hopened] at turn free isOpen ⊢
      refine ⟨keeps.tables, keeps.issued, turn.trans ?_⟩
      have ht : t ∈ s₁.tickets := keeps.tickets ▸ isOpen t (List.mem_singleton_self t)
      have hsome : (s₁.transaction? t).isSome :=
        Store.isSome_transaction?_iff.mpr (List.mem_map.mp ht)
      apply Turn.of_step turn.orderly (.drop hsome (free t (List.mem_singleton_self t)))
      · intro e he n hn
        cases List.mem_singleton.mp he
        cases hn
        exact List.mem_singleton_self t
      · intro l hl
        exact (Store.tickets_discard turn.orderly.transactions_nodup hl).trans
          (List.Perm.of_eq (List.append_nil l).symm)
  have hrequest := stands.request_waiting?
  unfold Backend.cancel
  cases hw : c.waiting? with
  | none =>
    rw [hw] at hrequest ord dropped
    rw [← hrequest]
    have hws : before ++ (none : Option Waiting).toList ++ after = before ++ after := by simp
    exact dropped s (.refl s) (by rw [hws] at ord ⊢; exact .refl ord)
  | some v =>
    rw [hw] at hrequest ord dropped
    rw [← hrequest]
    have hws : before ++ (some v).toList ++ after = before ++ v :: after := by simp
    apply dropped (s.withdraw v.request) ⟨rfl, rfl, rfl⟩
    rw [hws] at ord ⊢
    exact .of_step ord .cancel (fun e he => absurd he List.not_mem_nil) fun l hl => hl

end Caller

/-! ## All callers -/

namespace Pool

variable {w w' : Pool} {s s' : Store} {before after : List Caller} {c : Caller}
    {fs : List (Job × Except StoreError Receipt)}

/-- Each caller stands where its program says, and each open transaction has one caller. -/
structure Sound (w : Pool) : Prop where
  orderly : Orderly w.store (w.callers.filterMap Caller.waiting?)
  stands : ∀ c ∈ w.callers, c.Stands w.store
  tickets : w.store.tickets.Perm (w.callers.flatMap fun c => c.task.opened)

namespace Sound

theorem isOpen (sound : Sound w) (hc : c ∈ w.callers) {t : Nat} (ht : t ∈ c.task.opened) :
    t ∈ w.store.tickets :=
  sound.tickets.mem_iff.mpr (List.mem_flatMap.mpr ⟨c, hc, ht⟩)

variable (sound : Sound ⟨s, before ++ c :: after, fs⟩)
include sound

theorem orderly_split :
    Orderly s (before.filterMap Caller.waiting? ++ c.waiting?.toList ++
      after.filterMap Caller.waiting?) := by
  have hws : (before ++ c :: after).filterMap Caller.waiting? =
      before.filterMap Caller.waiting? ++ c.waiting?.toList ++ after.filterMap Caller.waiting? := by
    cases h : c.waiting? <;> simp [h]
  rw [← hws]
  exact sound.orderly

theorem tickets_split : s.tickets.Perm
    ((before.flatMap (fun c => c.task.opened) ++ after.flatMap fun c => c.task.opened) ++
      c.task.opened) := by
  apply sound.tickets.trans
  simp only [List.flatMap_append, List.flatMap_cons]
  rw [List.append_assoc]
  exact List.perm_append_comm.append_left _

theorem not_mem_opened {d : Caller} (hd : d ∈ before ++ after) {t : Nat} (ht : t ∈ c.task.opened) :
    t ∉ d.task.opened := by
  intro ht'
  have hnodup := sound.tickets_split.nodup_iff.mp sound.orderly.transactions_nodup
  rw [← List.flatMap_append] at hnodup
  exact (List.nodup_append.mp hnodup).2.2 t (List.mem_flatMap.mpr ⟨d, hd, ht'⟩) t ht rfl

theorem free : ∀ t ∈ c.task.opened,
    Free t (before.filterMap Caller.waiting? ++ after.filterMap Caller.waiting?) := by
  intro t ht v hv heq
  rw [← List.filterMap_append] at hv
  obtain ⟨d, hd, hdv⟩ := List.mem_filterMap.mp hv
  have hd' : d ∈ before ++ c :: after := mem_middle_iff.mpr (Or.inr hd)
  -- A deletion waits with a ticket of its own, any other call with one that its caller has open.
  rcases (sound.stands d hd').waiting_own hdv with hdelete | hown
  · have hmem : t ∈ s.tickets := sound.isOpen (List.mem_append_cons_self) ht
    obtain ⟨tx, htx, rfl⟩ := List.mem_map.mp hmem
    have hv : v ∈ (before ++ c :: after).filterMap Caller.waiting? :=
      List.mem_filterMap.mpr ⟨d, hd', hdv⟩
    exact sound.orderly.ticket_ne_of_delete hv hdelete htx heq.symm
  · rw [heq] at hown
    exact sound.not_mem_opened hd ht hown

/-- One caller has made a call and has become `new`; all others are where they were. -/
theorem turn (new : List Caller) (fs' : List (Job × Except StoreError Receipt))
    (turn : Caller.Turn c.task.opened (new.flatMap fun c => c.task.opened) s s'
      (before.filterMap Caller.waiting? ++ c.waiting?.toList ++ after.filterMap Caller.waiting?)
      (before.filterMap Caller.waiting? ++ new.filterMap Caller.waiting? ++
        after.filterMap Caller.waiting?))
    (stands : ∀ d ∈ new, d.Stands s') :
    Sound ⟨s', before ++ new ++ after, fs'⟩ where
  orderly := by
    simp only [List.filterMap_append]
    exact turn.orderly
  stands := by
    intro d hd
    have other : d ∈ before ++ after → d.Stands s' := by
      intro hd
      apply (sound.stands d (mem_middle_iff.mpr (Or.inr hd))).frame
      intro tx htx ht
      exact turn.others tx htx fun hmine => sound.not_mem_opened hd hmine ht
    simp only [List.mem_append] at hd other
    tauto
  tickets := by
    apply (turn.tickets _ sound.tickets_split).trans
    simp only [List.flatMap_append, List.append_assoc]
    exact List.perm_append_comm.append_left _

end Sound

/-- What a step of a pool commits: nothing, or all of one job. -/
inductive Commits (w w' : Pool) : Prop where
  | nothing (tables : w'.store.tables = w.store.tables)
      (issued : w'.store.issued.account = w.store.issued.account)
      (successes : w'.successes = w.successes)
  | job {j : Job} {r : Receipt} (writes : j.Writes r w.store w'.store)
      (successes : w'.successes = (j, r) :: w.successes)

theorem Step.sound_commits (step : Step w w') (sound : Sound w) : Sound w' ∧ Commits w w' := by
  cases step with
  | @arrive s cs fs j =>
    have hplace : j.start.waiting? = none := by
      have := (Caller.stands_start (s := s) j).request_waiting?
      simpa [Job.start] using this
    have harrived : Sound ⟨s, cs ++ [j.start], fs⟩ := {
      orderly := by
        simpa [hplace] using sound.orderly
      stands := by
        intro c hc
        rcases List.mem_append.mp hc with hc | hc
        · exact sound.stands c hc
        · rw [List.mem_singleton.mp hc]
          exact Caller.stands_start j
      tickets := by
        simpa [Job.start] using sound.tickets }
    exact ⟨harrived, .nothing rfl rfl rfl⟩
  | @advance s s' before after fs c now rest h =>
    have hc : c ∈ before ++ c :: after := List.mem_append_cons_self
    cases (sound.stands c hc).goes sound.orderly_split sound.free h with
    | on stands tables issued turn =>
      have hnext := sound.turn [{ c with task := rest }] fs (by
        have : ([{ c with task := rest }] : List Caller).filterMap Caller.waiting? =
            (Caller.waiting? { c with task := rest }).toList := by
          cases h : Caller.waiting? { c with task := rest } <;> simp [h]
        rw [this]
        simpa using turn) (by simpa using stands)
      rw [List.append_assoc] at hnext
      exact ⟨hnext, .nothing tables issued rfl⟩
  | @finish s s' before after fs c now result h =>
    have hc : c ∈ before ++ c :: after := List.mem_append_cons_self
    have gone : ∀ fs', Caller.Turn c.task.opened [] s s'
        (before.filterMap Caller.waiting? ++ c.waiting?.toList ++ after.filterMap Caller.waiting?)
        (before.filterMap Caller.waiting? ++ after.filterMap Caller.waiting?) →
        Sound ⟨s', before ++ after, fs'⟩ := by
      intro fs' turn
      have := sound.turn [] fs' (by simpa using turn) (by simp)
      simpa using this
    cases (sound.stands c hc).goes sound.orderly_split sound.free h with
    | failed tables issued turn => exact ⟨gone _ turn, .nothing tables issued rfl⟩
    | done writes turn => exact ⟨gone _ turn, .job writes rfl⟩
  | @cancel s before after fs c =>
    have hc : c ∈ before ++ c :: after := List.mem_append_cons_self
    obtain ⟨tables, issued, turn⟩ := (sound.stands c hc).cancelled sound.orderly_split sound.free
      fun t ht => sound.isOpen hc ht
    have := sound.turn [] fs (by simpa using turn) (by simp)
    exact ⟨by simpa using this, .nothing tables issued rfl⟩

theorem sound_of_settled (settled : s.Settled) : Sound ⟨s, [], []⟩ := by
  obtain ⟨⟨history, run⟩, htransactions⟩ := settled
  have tickets : s.tickets = [] := by simp [Store.tickets, htransactions]
  exact ⟨run.orderly, fun c hc => absurd hc List.not_mem_nil, .of_eq tickets⟩

theorem Run.sound {s₀ : Store} (settled : s₀.Settled) (run : Run s₀ w) : Sound w := by
  induction run with
  | start => exact sound_of_settled settled
  | step _ step ih => exact (step.sound_commits ih).1

theorem Run.invariant {s₀ : Store} {P : Pool → Prop} (settled : s₀.Settled) (start : P ⟨s₀, [], []⟩)
    (commits : ∀ {w w' : Pool}, Sound w → P w → Commits w w' → P w') (run : Run s₀ w) : P w := by
  induction run with
  | start => exact start
  | step run step ih =>
    exact commits (run.sound settled) ih (step.sound_commits (run.sound settled)).2

end Pool
end Giro
