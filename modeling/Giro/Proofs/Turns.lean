import Giro.Proofs.Stages

/-!
# One call of a caller

A caller that makes a call, or goes on with one that waits, takes a step of `Traffic.Step`. Where
that leaves the caller itself is said by `Stage.Stands.answered`: a transfer is at its next stage,
and nothing is committed before its last call.
-/

namespace Giro

/-! ## Calls that may wait -/

def Call.purpose? : Call → Option Purpose
  | .addBalance _ _ amount => some (.add amount)
  | .deleteAccount _ => some .delete
  | _ => none

namespace Traffic

variable {s s' : Store} {now : Timestamp} {c : Call}

theorem purpose?_call (v : Waiting) : v.call.purpose? = some v.purpose := by
  obtain ⟨r, purpose⟩ := v
  cases purpose <;> rfl

/-- A call that cannot wait does not wait. -/
theorem eq_none_of_purpose? {w : Option LockRequest} (hc : c.purpose? = none)
    (fits : ∀ r, w = some r → ∃ v : Waiting, v.request = r ∧ v.call = c) : w = none := by
  cases w with
  | none => rfl
  | some r =>
    obtain ⟨v, _, rfl⟩ := fits r rfl
    cases (purpose?_call v).symm.trans hc

theorem exists_waiting_of_perform {r : LockRequest} (h : s.perform now c = (s', .waiting r)) :
    (∃ v : Waiting, v.request = r ∧ v.call = c) ∧
      s'.requests = s.requests ++ [r] ∧ ¬ s'.Holds r := by
  cases c with
  | addBalance t account amount =>
    cases Store.addBalance_outcome h with
    | queued _ _ _ behind => exact ⟨⟨⟨⟨t, account⟩, .add amount⟩, rfl, rfl⟩, rfl, behind⟩
  | deleteAccount id =>
    cases Store.deleteAccount_outcome h with
    | queued _ behind => exact ⟨⟨⟨⟨s.draw.1, id⟩, .delete⟩, rfl, rfl⟩, rfl, behind⟩
  | createUser | createSession | createAccount | stageTransfer | stageEntry | commit | rollback =>
    exact absurd h not_settle_eq_waiting
  | _ => cases h

theorem step_of_poll {before after : List Waiting} {w : Option LockRequest}
    {status : Store.Status c.Reply} (admits : Admits (before ++ after) c)
    (fits : ∀ r, w = some r → ∃ v : Waiting, v.request = r ∧ v.call = c)
    (h : Backend.memory.poll now w c s = (s', status)) :
    (∃ answer, status = .answered answer ∧
      Step ⟨s, before ++ (w.bind fun r => c.purpose?.map (Waiting.mk r)).toList ++ after⟩
        [.answered c answer] ⟨s', before ++ after⟩) ∨
    (∃ v : Waiting, status = .waiting v.request ∧ v.call = c ∧
      (w = none ∧ Step ⟨s, before ++ after⟩ [] ⟨s', before ++ v :: after⟩ ∨
        w = some v.request ∧ s' = s)) := by
  cases w with
  | none =>
    cases status with
    | answered answer => exact Or.inl ⟨answer, rfl, by simpa using .answer admits h⟩
    | waiting r =>
      obtain ⟨⟨v, rfl, rfl⟩, _⟩ := exists_waiting_of_perform h
      exact Or.inr ⟨v, rfl, rfl, Or.inl ⟨rfl, .wait admits h⟩⟩
  | some r =>
    obtain ⟨v, rfl, rfl⟩ := fits r rfl
    cases status with
    | answered answer =>
      refine Or.inl ⟨answer, rfl, ?_⟩
      simpa [purpose?_call] using Step.resume h
    | waiting r =>
      obtain ⟨_, rfl, rfl⟩ := eq_of_resume_waiting h
      exact Or.inr ⟨v, rfl, rfl, Or.inr ⟨rfl, rfl⟩⟩

end Traffic

/-! ## A transfer at its next stage -/

namespace Stage

open Traffic

variable {o : TransferOrder} {s s' : Store} {ws : List Waiting} {now : Timestamp}
    {w : Option LockRequest}

def leftOpen : Stage ⊕ Except StoreError Receipt → List Nat
  | .inl st => st.ticket?.toList
  | .inr _ => []

theorem track_eq (st : Stage) (answer : Except StoreError (st.call o).Reply) :
    (st.call o).track answer st.ticket?.toList = leftOpen (st.next o answer) := by
  cases st with
  | full t | failed t => cases answer <;> exact List.erase_cons_head t []
  | _ => cases answer <;> rfl

/-- Where an answer leaves a transfer: nothing is committed unless it is done. -/
inductive Leads (o : TransferOrder) (st : Stage) (s s' : Store) :
    Stage ⊕ Except StoreError Receipt → Prop where
  | on {st' : Stage} (stands : st'.Stands o s') (tables : s'.tables = s.tables)
      (issued : s'.issued.account = s.issued.account)
      (tickets : ∀ l, s.tickets.Perm (l ++ st.ticket?.toList) →
        s'.tickets.Perm (l ++ st'.ticket?.toList)) :
      Leads o st s s' (.inl st')
  | failed {e : StoreError} (tables : s'.tables = s.tables)
      (issued : s'.issued.account = s.issued.account)
      (tickets : ∀ l, s.tickets.Perm (l ++ st.ticket?.toList) → s'.tickets.Perm l) :
      Leads o st s s' (.inr (.error e))
  | done {r : Receipt} (writes : (Job.transfer o).Writes r s s')
      (tickets : ∀ l, s.tickets.Perm (l ++ st.ticket?.toList) → s'.tickets.Perm l) :
      Leads o st s s' (.inr (.ok r))

theorem Leads.of_keeps {st st' : Stage} (h : Store.Keeps s s') (same : st'.ticket? = st.ticket?)
    (stands : st'.Stands o s') : Leads o st s s' (.inl st') :=
  .on stands h.tables h.issued fun l hl => by rwa [h.tickets, same]

theorem Leads.of_error {st : Stage} {tx : Transaction} {e : StoreError} (h : Store.Keeps s s')
    (htx : tx ∈ s.transactions) (ht : st.ticket? = some tx.ticket) :
    Leads o st s s' (.inl (.failed tx.ticket e)) := by
  obtain ⟨tx', htx', ht'⟩ := h.isOpen htx
  exact .of_keeps h ht.symm ⟨tx', htx', ht'⟩

theorem poll_add (ord : Orderly s ws) {tx : Transaction} {id : Int} {amount : Amount}
    {answer : Except StoreError Account} (htx : tx ∈ s.transactions)
    (fits : ∀ r, w = some r → ∃ v ∈ ws, v.request = r ∧ v.call = .addBalance tx.ticket id amount)
    (h : Backend.memory.poll now w (.addBalance tx.ticket id amount) s = (s', .answered answer)) :
    Store.Keeps s s' ∧
    ((∃ e, answer = .error e) ∨
      ∃ a, answer = .ok a ∧ Account.Changed (s.tables.accounts.map tx.publish) id amount a ∧
        tx.withRow a ∈ s'.transactions) := by
  cases w with
  | none =>
    obtain ⟨keeps, ⟨hw, _⟩ | ⟨e, he⟩ | ⟨a, ha, changed⟩⟩ := ord.addBalance_changed htx h
    · cases hw
    · cases he
      exact ⟨keeps, Or.inl ⟨e, rfl⟩⟩
    · cases ha
      exact ⟨keeps, Or.inr ⟨a, rfl, changed⟩⟩
  | some r =>
    obtain ⟨⟨⟨t, account⟩, purpose⟩, hv, rfl, hcall⟩ := fits r rfl
    cases purpose with
    | delete => cases hcall
    | add amount' =>
      cases hcall
      have hresume : s.resume now ⟨tx.ticket, account⟩ (.addBalance tx.ticket account amount) =
          (s', .answered answer) := h
      obtain ⟨_, hg⟩ := Store.addGranted_of_resume hresume
      obtain ⟨tx', htx', ht', hnone⟩ := ord.exists_unlocked hv
      cases ord.eq_of_ticket htx' htx ht'
      refine ⟨Store.addGranted_keeps hg, ?_⟩
      cases answer with
      | error e => exact Or.inl ⟨e, rfl⟩
      | ok a => exact Or.inr ⟨a, rfl, Store.addGranted_changed htx rfl hnone hg⟩

theorem eq_none_of_fits {c : Call} (hc : c.purpose? = none)
    (fits : ∀ r, w = some r → ∃ v ∈ ws, v.request = r ∧ v.call = c) : w = none :=
  eq_none_of_purpose? hc fun r hr => (fits r hr).imp fun _ h => h.2

/-- An answered call of a transfer leads to its next stage, or ends the transfer. -/
theorem Stands.answered {st : Stage} (stands : st.Stands o s) (check : o.check = .ok ())
    (ord : Orderly s ws) {answer : Except StoreError (st.call o).Reply}
    (fits : ∀ r, w = some r → ∃ v ∈ ws, v.request = r ∧ v.call = st.call o)
    (h : Backend.memory.poll now w (st.call o) s = (s', .answered answer)) :
    Leads o st s s' (st.next o answer) := by
  cases st with
  | fresh =>
    cases eq_none_of_fits rfl fits
    cases h
    refine .on (List.mem_append_right _ (List.mem_singleton_self _)) rfl rfl fun l hl => ?_
    have : s.begin.2.tickets = s.tickets ++ [s.begin.1] := List.map_append
    rw [this]
    exact (hl.trans (List.Perm.of_eq (List.append_nil l))).append_right _
  | begun t =>
    cases eq_none_of_fits rfl fits
    rcases settle_eq_answered h with ⟨f, hf, rfl⟩ | ⟨rfl, e, rfl⟩
    · refine .of_keeps (Store.stageTransfer_keeps hf) rfl ?_
      obtain ⟨_, _, _, _, rfl, rfl⟩ := Store.stageTransfer_eq_ok_iff.mp hf
      exact ⟨Store.mem_update.mpr (Or.inl ⟨_, stands, rfl, rfl⟩), rfl, rfl, rfl⟩
    · exact .of_error (.refl _) stands rfl
  | recorded t f =>
    cases eq_none_of_fits rfl fits
    obtain ⟨htx, hf⟩ := stands
    rcases settle_eq_answered h with ⟨d, hd, rfl⟩ | ⟨rfl, e, rfl⟩
    · refine .of_keeps (Store.stageEntry_keeps hd) rfl ?_
      obtain ⟨_, _, rfl, rfl⟩ := Store.stageEntry_eq_ok_iff.mp hd
      exact ⟨Store.mem_update.mpr (Or.inl ⟨_, htx, rfl, rfl⟩), hf, rfl, rfl⟩
    · exact .of_error (.refl _) htx rfl
  | debited t f d =>
    cases eq_none_of_fits rfl fits
    obtain ⟨htx, hf, hd⟩ := stands
    rcases settle_eq_answered h with ⟨c, hc, rfl⟩ | ⟨rfl, e, rfl⟩
    · refine .of_keeps (Store.stageEntry_keeps hc) rfl ?_
      obtain ⟨_, _, rfl, rfl⟩ := Store.stageEntry_eq_ok_iff.mp hc
      exact ⟨Store.mem_update.mpr (Or.inl ⟨_, htx, rfl, rfl⟩), hf, hd, rfl, rfl⟩
    · exact .of_error (.refl _) htx rfl
  | credited t f d c =>
    obtain ⟨htx, hf, hd, hc⟩ := stands
    obtain ⟨keeps, ⟨e, rfl⟩ | ⟨a, rfl, changed, htx'⟩⟩ := poll_add ord htx fits h
    · exact .of_error keeps htx rfl
    · refine .of_keeps keeps rfl ⟨htx', hf, hd, hc, ?_⟩
      have : s.tables.accounts.map (draft t f d c).publish = s.tables.accounts := List.map_id _
      rwa [this, ← keeps.tables] at changed
  | half t f d c a =>
    obtain ⟨htx, hf, hd, hc, ha⟩ := stands
    obtain ⟨keeps, ⟨e, rfl⟩ | ⟨b, rfl, changed, htx'⟩⟩ := poll_add ord htx fits h
    · exact .of_error keeps htx rfl
    · refine .of_keeps keeps rfl ⟨htx', hf, hd, hc, ?_⟩
      have : ((draft t f d c).withRow a).publish = Transaction.setBalance a.id a.balance :=
        funext fun x => Transaction.publish_withRow x
      rw [this] at changed
      rw [keeps.tables]
      exact ⟨ha, changed⟩
  | full t f d c a b =>
    cases eq_none_of_fits rfl fits
    obtain ⟨htx, hf, hd, hc, ha, hb⟩ := stands
    have hcommit := Store.commit_eq_ok_iff.mpr ⟨_, ord.transaction?_eq_some htx, rfl⟩
    change s.settle ((s.commit t).map fun next => ((), next)) = (s', .answered answer) at h
    rw [show s.commit t = _ from hcommit] at h
    cases h
    refine .done (.transfer check hf hd hc ha hb ?_ rfl) fun l hl => ?_
    · have : (((draft t f d c).withRow a).withRow b).publish =
          Transaction.setBalance b.id b.balance ∘ Transaction.setBalance a.id a.balance := by
        funext x
        rw [Transaction.publish_withRow, Transaction.publish_withRow]
        rfl
      rw [List.map_map, ← this]
      rfl
    · exact Store.tickets_discard (s := s.publish _) ord.transactions_nodup hl
  | failed t cause =>
    cases eq_none_of_fits rfl fits
    obtain ⟨tx, htx, rfl⟩ := stands
    have hrollback :=
      Store.rollback_eq_ok_iff.mpr ⟨Store.isSome_transaction?_iff.mpr ⟨tx, htx, rfl⟩, rfl⟩
    change s.settle ((s.rollback tx.ticket).map fun next => ((), next)) =
      (s', .answered answer) at h
    rw [hrollback] at h
    cases h
    exact .failed rfl rfl fun l hl => Store.tickets_discard ord.transactions_nodup hl

end Stage
end Giro
