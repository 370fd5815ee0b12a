import Giro.Proofs.Bank
import Giro.Proofs.References

/-!
# Whose amounts a user sees

A user is shown balances and amounts only where an own account is concerned. `Store.seenBy` sets all
others to zero, and a request of the user's about accounts, or for a transfer to be shown, does on
what is left just what it does on the whole store (`Service.serve_seenBy`). So two stores that look
the same to the user give the same answers, and go on looking the same: `Traffic.Run.looks_alike`.
-/

namespace Giro

open Http

/-- An amount that is shown only to those whom it concerns. -/
def Amount.shownIf (concerned : Prop) [Decidable concerned] (amount : Amount) : Amount :=
  if concerned then amount else 0

def Account.seenBy (u : String) (a : Account) : Account :=
  { a with balance := a.balance.shownIf (a.owner = u) }

namespace Tables

/-- The account is there and is the user's. -/
def Owns (t : Tables) (u : String) (id : Int) : Prop := ∃ a ∈ t.accounts, a.id = id ∧ a.owner = u

instance (t : Tables) (u : String) (id : Int) : Decidable (t.Owns u id) :=
  inferInstanceAs (Decidable (∃ a ∈ t.accounts, _))

def seenEntry (t : Tables) (u : String) (e : Entry) : Entry :=
  { e with amount := e.amount.shownIf (t.Owns u e.account) }

def seenTransfer (t : Tables) (u : String) (f : Transfer) : Transfer :=
  { f with amount := f.amount.shownIf (t.Owns u f.source ∨ t.Owns u f.target) }

/-- Without the balances of others' accounts, the amounts of entries on them, and the amounts of
transfers between them. -/
def seenBy (t : Tables) (u : String) : Tables :=
  { t with
    accounts := t.accounts.map (Account.seenBy u)
    entries := t.entries.map (t.seenEntry u)
    transfers := t.transfers.map (t.seenTransfer u) }

end Tables

def Store.seenBy (s : Store) (u : String) : Store := { s with tables := s.tables.seenBy u }

theorem Account.seenBy_eq_self {u : String} {a : Account} (h : a.owner = u) : a.seenBy u = a := by
  subst h
  simp [seenBy, Amount.shownIf]

theorem Tables.seenEntry_eq_self {t : Tables} {u : String} {e : Entry} (h : t.Owns u e.account) :
    t.seenEntry u e = e := by
  simp [seenEntry, Amount.shownIf, h]

theorem Tables.seenTransfer_eq_self {t : Tables} {u : String} {f : Transfer}
    (h : t.Owns u f.source ∨ t.Owns u f.target) : t.seenTransfer u f = f := by
  simp [seenTransfer, Amount.shownIf, h]

@[simp] theorem Account.owner_seenBy (u : String) (a : Account) : (a.seenBy u).owner = a.owner :=
  rfl

namespace Tables

variable {t : Tables} {u : String} {id : Int}

theorem account?_seenBy : (t.seenBy u).account? id = (t.account? id).map (Account.seenBy u) := by
  simp only [account?, seenBy, Store.Table.find?, List.find?_map]
  rfl

theorem transfer?_seenBy : (t.seenBy u).transfer? id = (t.transfer? id).map (t.seenTransfer u) := by
  simp only [transfer?, seenBy, Store.Table.find?, List.find?_map]
  rfl

theorem isReferenced_seenBy : (t.seenBy u).IsReferenced id ↔ t.IsReferenced id := by
  simp [IsReferenced, seenBy, seenEntry, seenTransfer]

theorem owns_of_account? {a : Account} (h : t.account? id = some a) (howner : a.owner = u) :
    t.Owns u id :=
  ⟨a, (mem_of_account? h).1, (mem_of_account? h).2, howner⟩

/-- As long as the user has the same accounts among those that are named, the same amounts are
seen. -/
theorem seenBy_accounts (accounts : List Account)
    (same : ∀ id, t.IsReferenced id → ({ t with accounts }.Owns u id ↔ t.Owns u id)) :
    { t with accounts }.seenBy u =
      { t.seenBy u with accounts := accounts.map (Account.seenBy u) } := by
  have entries : ∀ e ∈ t.entries, { t with accounts }.seenEntry u e = t.seenEntry u e := by
    intro e he
    simp only [seenEntry, Amount.shownIf, same e.account (Or.inl ⟨e, he, rfl⟩)]
  have transfers :
      ∀ f ∈ t.transfers, { t with accounts }.seenTransfer u f = t.seenTransfer u f := by
    intro f hf
    simp only [seenTransfer, Amount.shownIf, same f.source (Or.inr ⟨f, hf, Or.inl rfl⟩),
      same f.target (Or.inr ⟨f, hf, Or.inr rfl⟩)]
  simp only [seenBy, List.map_congr_left entries, List.map_congr_left transfers]

theorem seenBy_openAccount {a : Account} (howner : a.owner = u) (fresh : ¬ t.IsReferenced a.id) :
    { t with accounts := t.accounts ++ [a] }.seenBy u =
      { t.seenBy u with accounts := (t.seenBy u).accounts ++ [a] } := by
  rw [seenBy_accounts]
  · simp [seenBy, Account.seenBy_eq_self howner]
  · intro id named
    have hne : a.id ≠ id := by
      rintro rfl
      exact fresh named
    simp [Owns, or_and_right, exists_or, hne]

theorem seenBy_closeAccount (unnamed : ¬ t.IsReferenced id) :
    { t with accounts := t.accounts.filter fun a => a.id ≠ id }.seenBy u =
      { t.seenBy u with accounts := (t.seenBy u).accounts.filter fun a => a.id ≠ id } := by
  rw [seenBy_accounts]
  · simp only [seenBy, List.filter_map]
    rfl
  · intro n named
    have hne : n ≠ id := by
      rintro rfl
      exact unnamed named
    simp only [Owns, List.mem_filter]
    grind

end Tables

namespace Store

variable {s : Store} {u : String} {id : Int} {now : Timestamp}

/-- The accounts that history names have had their numbers given out. -/
def Named (s : Store) : Prop := ∀ id, s.tables.IsReferenced id → id ≤ s.issued.account

theorem listAccounts_seenBy (w : Window) : (s.seenBy u).listAccounts u w = s.listAccounts u w := by
  have rows : (s.seenBy u).tables.accounts.filter (fun a => a.owner = u) =
      s.tables.accounts.filter fun a => a.owner = u := by
    simp only [seenBy, Tables.seenBy, List.filter_map]
    refine (List.map_congr_left fun a ha => ?_).trans (List.map_id _)
    exact Account.seenBy_eq_self (of_decide_eq_true (List.mem_filter.mp ha).2)
  rw [listAccounts, rows, listAccounts]

theorem listEntries_seenBy (owns : s.tables.Owns u id) (w : Window) :
    (s.seenBy u).listEntries id w = s.listEntries id w := by
  have rows : (s.seenBy u).tables.entries.filter (fun e => e.account = id) =
      s.tables.entries.filter fun e => e.account = id := by
    simp only [seenBy, Tables.seenBy, List.filter_map]
    refine (List.map_congr_left fun e he => ?_).trans (List.map_id _)
    have hid : e.account = id := of_decide_eq_true (List.mem_filter.mp he).2
    exact Tables.seenEntry_eq_self (hid ▸ owns)
  rw [listEntries, rows, listEntries]

theorem createAccount_seenBy {new : NewAccount} (named : s.Named) (howner : new.owner = u) :
    (s.seenBy u).createAccount new now =
      (s.createAccount new now).map fun x => (x.1, x.2.seenBy u) := by
  have taken :
      (∃ a ∈ (s.seenBy u).tables.accounts, a.owner = new.owner ∧ a.currency = new.currency) ↔
      ∃ a ∈ s.tables.accounts, a.owner = new.owner ∧ a.currency = new.currency := by
    simp [seenBy, Tables.seenBy, Account.seenBy]
  have users : (s.seenBy u).tables.user? new.owner = s.tables.user? new.owner := rfl
  have issued : (s.seenBy u).issued = s.issued := rfl
  unfold createAccount
  rw [users, issued]
  simp only [taken]
  split
  · rfl
  split
  · rfl
  have fresh : ¬ s.tables.IsReferenced (s.issued.account + 1) := fun h => by
    have := named _ h
    omega
  simp only [Except.map, seenBy]
  rw [Tables.seenBy_openAccount howner fresh]

theorem perform_createAccount_seenBy {new : NewAccount} (named : s.Named) (howner : new.owner = u) :
    (s.seenBy u).perform now (.createAccount new) =
      ((s.perform now (.createAccount new)).1.seenBy u,
        (s.perform now (.createAccount new)).2) := by
  simp only [perform, createAccount_seenBy named howner]
  cases s.createAccount new now <;> rfl

theorem deleteGranted_seenBy (r : LockRequest) :
    (s.seenBy u).deleteGranted r = ((s.deleteGranted r).1.seenBy u, (s.deleteGranted r).2) := by
  have tables : ((s.seenBy u).withdraw r).tables = s.tables.seenBy u := rfl
  by_cases hnone : (s.tables.account? r.account).isNone = true
  · simp only [deleteGranted, tables, withdraw_tables, Tables.account?_seenBy, Option.isNone_map,
      hnone, if_true]
    rfl
  by_cases named : s.tables.IsReferenced r.account
  · simp only [deleteGranted, tables, withdraw_tables, Tables.account?_seenBy, Option.isNone_map,
      Tables.isReferenced_seenBy, hnone, named, if_true]
    rfl
  · simp only [deleteGranted, tables, withdraw_tables, Tables.account?_seenBy, Option.isNone_map,
      Tables.isReferenced_seenBy, hnone, named, if_false, Bool.false_eq_true]
    simp only [seenBy, Tables.seenBy_closeAccount named]
    rfl

theorem deleteAccount_seenBy :
    (s.seenBy u).deleteAccount id = ((s.deleteAccount id).1.seenBy u, (s.deleteAccount id).2) := by
  by_cases hl : id ∈ s.lockable
  · have hl' : id ∈ (s.seenBy u).lockable := hl
    have queued : (s.seenBy u).draw.2.enqueue ⟨(s.seenBy u).draw.1, id⟩ =
      (s.draw.2.enqueue ⟨s.draw.1, id⟩).seenBy u := rfl
    rw [deleteAccount_of_mem_lockable hl, deleteAccount_of_mem_lockable hl', queued,
      deleteGranted_seenBy]
    have holds : ((s.draw.2.enqueue ⟨s.draw.1, id⟩).seenBy u).Holds ⟨(s.seenBy u).draw.1, id⟩ ↔
      (s.draw.2.enqueue ⟨s.draw.1, id⟩).Holds ⟨s.draw.1, id⟩ := Iff.rfl
    simp only [holds]
    split <;> rfl
  · have hl' : id ∉ (s.seenBy u).lockable := hl
    simp only [deleteAccount, request?_of_not_mem (s := s.draw.2) (r := ⟨s.draw.1, id⟩) hl,
      request?_of_not_mem (s := (s.seenBy u).draw.2) (r := ⟨(s.seenBy u).draw.1, id⟩) hl']

/-! ### What keeps the numbers -/

theorem Named.of_eq {s s' : Store} (named : s.Named)
    (entries : s'.tables.entries = s.tables.entries)
    (transfers : s'.tables.transfers = s.tables.transfers)
    (issued : s.issued.account ≤ s'.issued.account) : s'.Named := by
  intro id h
  unfold Tables.IsReferenced at h
  rw [entries, transfers] at h
  have := named id h
  omega

theorem Named.createAccount {s s' : Store} {new : NewAccount} {status : Status Account}
    (named : s.Named) (h : s.perform now (.createAccount new) = (s', status)) : s'.Named := by
  cases hr : s.createAccount new now with
  | error e =>
    simp only [perform, hr, settle] at h
    cases h
    exact named
  | ok x =>
    obtain ⟨_, _, _, hs⟩ := createAccount_eq_ok_iff.mp hr
    simp only [perform, hr, settle] at h
    cases h
    exact named.of_eq (by rw [hs]) (by rw [hs]) (by simp [hs])

theorem Named.deleteAccount {s s' : Store} {status : Status Unit} (named : s.Named)
    (h : s.deleteAccount id = (s', status)) : s'.Named := by
  cases deleteAccount_outcome h with
  | refused e => exact named
  | granted hl holds hgranted =>
    rcases deleteGranted_cases hgranted with ⟨rfl, _⟩ | ⟨_, _, _, rfl⟩ <;>
      exact named.of_eq rfl rfl (Nat.le_refl _)
  | queued hl behind => exact named.of_eq rfl rfl (Nat.le_refl _)

end Store

theorem Traffic.Run.named {history : List Event} {T : Traffic} (run : Run history T) :
    T.store.Named := by
  intro id h
  obtain ⟨r, hr, rfl⟩ := Tables.isReferenced_iff.mp h
  rcases run.tracked.committed r hr with ⟨a, ha, hid⟩ | overtaken
  · rw [← hid]
    exact (run.orderly.accounts_issued a ha).2
  · exact (run.tracked.deleted _ overtaken.deleted_mem).1

/-! ## Runs -/

variable {α β δ ε : Type} {u : String} {now : Timestamp} {s : Store}

/-- Two runs that end alike, one on a store and one on what `u` sees of it. -/
structure Alike (u : String) (whole seen : Store × Outcome α) : Prop where
  eq : seen = (whole.1.seenBy u, whole.2)
  named : whole.1.Named

/-- A program that does the same on what `u` sees of a store. -/
def Discreet (u : String) (now : Timestamp) (s : Store) (p : Program α) : Prop :=
  Alike u (Backend.memory.run now p [] s) (Backend.memory.run now p [] (s.seenBy u))

namespace Discreet

theorem done (named : s.Named) (a : α) : Discreet u now s (.done a) := ⟨rfl, named⟩

theorem map {p : Program α} (f : α → β) (h : Discreet u now s p) :
    Discreet u now s (p.bind fun a => .done (f a)) := by
  unfold Discreet
  rw [Backend.run_map, Backend.run_map]
  constructor
  · simp only [h.eq]
  · exact h.named

theorem mapError {a : Attempt ε α} (g : ε → δ) (h : Discreet u now s a.run) :
    Discreet u now s (Attempt.mapError g a).run :=
  h.map _

theorem map_run {a : Attempt ε α} (f : α → β) (h : Discreet u now s a.run) :
    Discreet u now s (a >>= fun x => pure (f x)).run := by
  rw [Attempt.run_bind_pure]
  exact h.map _

theorem demand {r : Except ε α} {g : ε → δ} {f : α → Attempt δ β} (named : s.Named)
    (h : ∀ a, Discreet u now s (f a).run) :
    Discreet u now s (Attempt.demand (r.mapError g) >>= f).run := by
  cases r with
  | ok a => exact h a
  | error e => exact done named _

theorem guard {p : Prop} [Decidable p] {e : ε} {f : α → Attempt ε β} {a : Attempt ε β}
    (named : s.Named) (h : Discreet u now s a.run) :
    Discreet u now s (if p then throw e >>= f else a).run := by
  by_cases hp : p
  · rw [if_pos hp]
    exact done named _
  · rw [if_neg hp]
    exact h

/-- A read that is answered the same. -/
theorem read {c : Call} {answer : Except StoreError c.Reply} {g : StoreError → ε}
    {f : c.Reply → Attempt ε β} (named : s.Named) (reads : c.isRead)
    (hs : s.perform now c = (s, .answered answer))
    (hseen : (s.seenBy u).perform now c = (s.seenBy u, .answered answer))
    (h : ∀ a, answer = .ok a → Discreet u now s (f a).run) :
    Discreet u now s (Attempt.mapError g (Attempt.call c) >>= f).run := by
  unfold Discreet
  rw [Backend.run_read reads hs, Backend.run_read reads hseen]
  cases answer with
  | ok a => exact h a rfl
  | error e => exact done named _

/-- A last call that changes the store in the same way. -/
theorem call {c : Call} {s' : Store} {status : Store.Status c.Reply}
    (untracked : ∀ answer, c.track answer [] = []) (hs : s.perform now c = (s', status))
    (hseen : (s.seenBy u).perform now c = (s'.seenBy u, status)) (named : s'.Named) :
    Discreet u now s (Attempt.call c).run := by
  have hs : Backend.memory.perform now c s = (s', status) := hs
  have hseen : Backend.memory.perform now c (s.seenBy u) = (s'.seenBy u, status) := hseen
  change Alike u (Backend.memory.run now (.ask c .done) [] s)
    (Backend.memory.run now (.ask c .done) [] _)
  simp only [Backend.run, hs, hseen]
  cases status with
  | answered answer =>
    simp only [untracked]
    exact ⟨rfl, named⟩
  | waiting r => exact ⟨rfl, named⟩

end Discreet

/-! ## The endpoints -/

section Endpoints

variable {segment : String} {r : Request} (named : s.Named)
include named

/-- An account is read with its owner, if not with its balance. -/
theorem getAccount_alike {id : Int} {g : StoreError → Failure} {f f' : Account → Attempt Failure β}
    (h : ∀ a, s.tables.account? id = some a → Alike u (Backend.memory.run now (f a).run [] s)
      (Backend.memory.run now (f' (a.seenBy u)).run [] (s.seenBy u))) :
    Alike u
      (Backend.memory.run now (Attempt.mapError g (Attempt.call (.getAccount id)) >>= f).run [] s)
      (Backend.memory.run now (Attempt.mapError g (Attempt.call (.getAccount id)) >>= f').run []
        (s.seenBy u)) := by
  have whole : s.perform now (.getAccount id) = (s, .answered (s.getAccount id)) := rfl
  have seen : (s.seenBy u).perform now (.getAccount id) =
      (s.seenBy u, .answered ((s.seenBy u).getAccount id)) := rfl
  have rows : (s.seenBy u).tables.account? id = (s.tables.account? id).map (Account.seenBy u) :=
    Tables.account?_seenBy
  rw [Backend.run_read rfl whole, Backend.run_read rfl seen]
  unfold Store.getAccount
  rw [rows]
  cases ha : s.tables.account? id with
  | none => exact Discreet.done named _
  | some a => exact h a ha

/-- A caller who is not the owner is refused, whatever the balance; the owner sees the whole row. -/
theorem ownedAccount_discreet {id : Int} {f : Account → Attempt Failure β}
    (h : ∀ a, s.tables.account? id = some a → a.owner = u → Discreet u now s (f a).run) :
    Discreet u now s (ownedAccount u id >>= f).run := by
  unfold ownedAccount
  simp only [apply_ite (· >>= f), bind_assoc]
  refine .guard named (getAccount_alike named fun a ha => ?_)
  by_cases howner : a.owner = u
  · rw [Account.seenBy_eq_self howner]
    exact Discreet.guard named (h a ha howner)
  · simp only [Account.owner_seenBy, ne_eq, howner, not_false_eq_true, if_true]
    exact Discreet.done named (Except.error (Failure.refused (.unauthorized .notOwner)))

theorem createAccount_discreet : Discreet u now s (createAccount u r).run := by
  unfold createAccount
  refine .demand named fun fields => .demand named fun currency => ?_
  apply Discreet.map_run
  apply Discreet.mapError
  exact .call (fun _ => rfl) rfl (Store.perform_createAccount_seenBy named rfl)
    (named.createAccount rfl)

theorem listAccounts_discreet : Discreet u now s (listAccounts u r).run := by
  unfold listAccounts
  refine .demand named fun page => .demand named fun window => ?_
  refine .read named rfl rfl ?_ fun accounts _ => .done named _
  simp only [Store.perform, Store.listAccounts_seenBy]

theorem getAccount_discreet : Discreet u now s (getAccount u segment).run :=
  .demand named fun _ => ownedAccount_discreet named fun _ _ _ => .done named _

theorem deleteAccount_discreet : Discreet u now s (deleteAccount u segment).run := by
  unfold deleteAccount
  refine .demand named fun id => ownedAccount_discreet named fun _ _ _ => ?_
  apply Discreet.map_run
  apply Discreet.mapError
  exact .call (fun _ => rfl) rfl Store.deleteAccount_seenBy (named.deleteAccount rfl)

theorem listEntries_discreet : Discreet u now s (listEntries u segment r).run := by
  unfold listEntries
  refine .demand named fun id => .demand named fun page => .demand named fun window => ?_
  refine ownedAccount_discreet named fun a ha howner => ?_
  refine .read named rfl rfl ?_ fun entries _ => .done named _
  simp only [Store.perform, Store.listEntries_seenBy (Tables.owns_of_account? ha howner)]

/-- Who may see a transfer sees its amount. -/
theorem getTransfer_discreet : Discreet u now s (getTransfer u segment).run := by
  unfold getTransfer
  refine .demand named fun id => ?_
  have whole : s.perform now (.getTransfer id) = (s, .answered (s.getTransfer id)) := rfl
  have seen : (s.seenBy u).perform now (.getTransfer id) =
      (s.seenBy u, .answered ((s.seenBy u).getTransfer id)) := rfl
  have rows : (s.seenBy u).tables.transfer? id =
      (s.tables.transfer? id).map (s.tables.seenTransfer u) := Tables.transfer?_seenBy
  unfold Discreet looksUp
  rw [Backend.run_read rfl whole, Backend.run_read rfl seen]
  unfold Store.getTransfer
  rw [rows]
  cases s.tables.transfer? id with
  | none => exact Discreet.done named _
  | some f =>
    refine getAccount_alike named fun x hx => getAccount_alike named fun y hy => ?_
    by_cases involved : x.owner ≠ u ∧ y.owner ≠ u
    · have seen_involved : (x.seenBy u).owner ≠ u ∧ (y.seenBy u).owner ≠ u := involved
      simp only [if_pos involved, if_pos seen_involved]
      exact Discreet.done named (Except.error (Failure.refused (.unauthorized .notInvolved)))
    · have shown : s.tables.Owns u f.source ∨ s.tables.Owns u f.target := by
        rcases not_and_or.mp involved with h | h
        · exact Or.inl (Tables.owns_of_account? hx (not_not.mp h))
        · exact Or.inr (Tables.owns_of_account? hy (not_not.mp h))
      have seen_involved : ¬ ((x.seenBy u).owner ≠ u ∧ (y.seenBy u).owner ≠ u) := involved
      simp only [Tables.seenTransfer_eq_self shown, if_neg involved, if_neg seen_involved]
      exact Discreet.done named (Except.ok _)

end Endpoints

/-! ## Requests -/

/-- The endpoints at which a user with a token moves no money. -/
def Http.Endpoint.inquires : Endpoint → Bool
  | .createAccount | .listAccounts | .getAccount | .deleteAccount | .listEntries => true
  | .getTransfer => true
  | .health | .register | .login | .renew | .createTransfer => false

theorem Http.Resource.inquires_of_endpoint? {resource : Resource} {method : String}
    {endpoint : Endpoint} (h : resource.endpoint? method = some endpoint)
    (isProtected : resource.isProtected) (other : resource ≠ .transfers) : endpoint.inquires := by
  obtain ⟨m, _, h⟩ := Option.bind_eq_some_iff.mp h
  obtain ⟨⟨m', e⟩, hfind, rfl⟩ := Option.map_eq_some_iff.mp h
  have hmem := List.mem_of_find?_eq_some hfind
  cases resource with
  | health | users | login | renewal => cases isProtected
  | transfers => exact absurd rfl other
  | accounts | account | entries | transfer =>
    simp only [Resource.methods, List.mem_cons, List.not_mem_nil, or_false, Prod.mk.injEq] at hmem
    grind [Endpoint.inquires]

theorem perform_discreet (service : Service) {endpoint : Endpoint} (inquires : endpoint.inquires)
    (named : s.Named) (segment : String) (r : Request) (fresh : Fresh) :
    Discreet u now s (perform service endpoint u segment r fresh now).run := by
  cases endpoint with
  | createAccount => exact createAccount_discreet named
  | listAccounts => exact listAccounts_discreet named
  | getAccount => exact getAccount_discreet named
  | deleteAccount => exact deleteAccount_discreet named
  | listEntries => exact listEntries_discreet named
  | getTransfer => exact getTransfer_discreet named
  | health | register | login | renew | createTransfer => cases inquires

/-- A request that reaches the service, with what the service draws for it. -/
structure Arrival where
  request : Request
  fresh : Fresh
  now : Timestamp

/-- A request of the user's about accounts, or for a transfer to be shown. -/
structure Arrival.Inquires (service : Service) (u : String) (v : Arrival) : Prop where
  user : service.user? v.request v.now = some u
  resource : ∃ resource, Resource.ofPath? v.request.path = some resource ∧ resource.isProtected ∧
    resource ≠ .transfers

theorem Arrival.Inquires.discreet {service : Service} {v : Arrival} (h : v.Inquires service u)
    (named : s.Named) : Discreet u v.now s (service.respond v.request v.fresh v.now) := by
  obtain ⟨resource, path, isProtected, other⟩ := h.resource
  have caller := Service.caller_of_user? isProtected h.user
  cases method : resource.endpoint? v.request.method with
  | none =>
    simp only [Service.respond, path, Service.respondAt, caller, method]
    exact .done named _
  | some endpoint =>
    rw [Service.respond_of_caller v.fresh path caller method, settled_eq]
    have inquires := Resource.inquires_of_endpoint? method isProtected other
    exact ((perform_discreet service inquires named resource.segment v.request v.fresh).map _).map _

theorem cancel_seenBy (t : Task α) (s : Store) :
    Backend.memory.cancel t (s.seenBy u) = (Backend.memory.cancel t s).seenBy u := by
  have discardAll (tickets : List Nat) (s : Store) :
      Backend.memory.discardAll tickets (s.seenBy u) =
        (Backend.memory.discardAll tickets s).seenBy u := by
    induction tickets generalizing s with
    | nil => rfl
    | cons t tickets ih => exact ih (s.discard t)
  unfold Backend.cancel
  cases t.waiting with
  | none => exact discardAll _ _
  | some r => exact discardAll _ (s.withdraw r)

theorem Store.Named.cancel (named : s.Named) (t : Task α) : (Backend.memory.cancel t s).Named := by
  have discardAll (tickets : List Nat) {s : Store} (named : s.Named) :
      (Backend.memory.discardAll tickets s).Named := by
    induction tickets generalizing s with
    | nil => exact named
    | cons t tickets ih => exact ih (named.of_eq rfl rfl (Nat.le_refl _))
  unfold Backend.cancel
  cases t.waiting with
  | none => exact discardAll _ named
  | some r => exact discardAll _ (named.of_eq rfl rfl (Nat.le_refl _))

/-- A request of `u`'s sees nothing of a store but what `u` sees of it. -/
theorem Service.serve_seenBy {service : Service} {v : Arrival} (h : v.Inquires service u)
    (named : s.Named) :
    Backend.memory.serve service v.request v.fresh v.now (s.seenBy u) =
      ((Backend.memory.serve service v.request v.fresh v.now s).1.seenBy u,
        (Backend.memory.serve service v.request v.fresh v.now s).2) ∧
    (Backend.memory.serve service v.request v.fresh v.now s).1.Named := by
  have alike := h.discreet named
  unfold Discreet at alike
  unfold Backend.serve
  split
  · exact ⟨rfl, named⟩
  rcases hrun : Backend.memory.run v.now (service.respond v.request v.fresh v.now) [] s with
    ⟨s', outcome⟩
  rw [hrun] at alike
  rw [alike.eq]
  cases outcome with
  | finished response => exact ⟨rfl, alike.named⟩
  | overflow why => exact ⟨rfl, alike.named⟩
  | blocked rest => exact ⟨by rw [← cancel_seenBy], alike.named.cancel rest⟩

/-- Answers one request after another. -/
def Backend.serveAll {σ : Type} (b : Backend σ) (service : Service) :
    List Arrival → σ → σ × List (Except Overflow Response)
  | [], s => (s, [])
  | v :: vs, s =>
    let (s, answer) := b.serve service v.request v.fresh v.now s
    let (s, answers) := serveAll b service vs s
    (s, answer :: answers)

theorem Service.serveAll_seenBy {service : Service} {vs : List Arrival}
    (h : ∀ v ∈ vs, v.Inquires service u) (named : s.Named) :
    Backend.memory.serveAll service vs (s.seenBy u) =
      ((Backend.memory.serveAll service vs s).1.seenBy u,
        (Backend.memory.serveAll service vs s).2) := by
  induction vs generalizing s with
  | nil => rfl
  | cons v vs ih =>
    obtain ⟨hv, hvs⟩ := List.forall_mem_cons.mp h
    obtain ⟨served, named⟩ := Service.serve_seenBy hv named
    simp only [Backend.serveAll, served, ih hvs named]

/-- Stores that look the same to a user, however they differ in the balances and amounts of others,
give the user the same answers to any requests but payments, and go on looking the same. -/
theorem Traffic.Run.looks_alike {history : List Event} {ws : List Waiting}
    (run : Run history ⟨s, ws⟩) {t : Store} (same : t.seenBy u = s.seenBy u) {service : Service}
    {vs : List Arrival} (h : ∀ v ∈ vs, v.Inquires service u) :
    (Backend.memory.serveAll service vs t).2 = (Backend.memory.serveAll service vs s).2 ∧
    (Backend.memory.serveAll service vs t).1.seenBy u =
      (Backend.memory.serveAll service vs s).1.seenBy u := by
  have named : t.Named := by
    intro id hid
    have hid : (t.seenBy u).tables.IsReferenced id := Tables.isReferenced_seenBy.mpr hid
    have issued : (t.seenBy u).issued = (s.seenBy u).issued := congrArg Store.issued same
    have issued : t.issued = s.issued := issued
    rw [same] at hid
    rw [issued]
    exact run.named id (Tables.isReferenced_seenBy.mp hid)
  have ht := Service.serveAll_seenBy h named
  have hs := Service.serveAll_seenBy h run.named
  rw [same, hs] at ht
  exact ⟨(congrArg Prod.snd ht).symm, (congrArg Prod.fst ht).symm⟩

def sampleInquiry (method path : String) : Arrival where
  request := sampleRequest method path "\x7b\"currency\":\"EUR\"\x7d"
  fresh := sampleFresh
  now := .epoch

def sampleInquiries : List Arrival :=
  [sampleInquiry "GET" "/accounts/2", sampleInquiry "GET" "/transfers/1",
    sampleInquiry "POST" "/accounts", sampleInquiry "DELETE" "/accounts/1"]

theorem inquires_sampleInquiries :
    ∀ v ∈ sampleInquiries, v.Inquires sampleService "ada" := by
  have inquires {method path : String} (resource : Resource)
      (hpath : Resource.ofPath? path = some resource) (isProtected : resource.isProtected)
      (other : resource ≠ .transfers) : (sampleInquiry method path).Inquires sampleService "ada" :=
    ⟨user?_sampleRequest _ _ _, resource, hpath, isProtected, other⟩
  simp only [sampleInquiries, List.mem_cons, List.not_mem_nil, or_false, forall_eq_or_imp,
    forall_eq]
  refine ⟨?_, ?_, ?_, ?_⟩
  · exact inquires (.account "2") (by decide +kernel) rfl (by decide)
  · exact inquires (.transfer "1") (by decide +kernel) rfl (by decide)
  · exact inquires .accounts (by decide +kernel) rfl (by decide)
  · exact inquires (.account "1") (by decide +kernel) rfl (by decide)

/-- Others' accounts hold other balances, and they have paid one another other amounts. -/
theorem Traffic.Run.looks_alike_of_others : ∃ (history : List Event) (s t : Store),
    Run history ⟨s, []⟩ ∧ t.seenBy "ada" = s.seenBy "ada" ∧
    t.tables.accounts.map Account.balance ≠ s.tables.accounts.map Account.balance ∧
    t.tables.entries ≠ s.tables.entries ∧ t.tables.transfers ≠ s.tables.transfers ∧
    (∀ v ∈ sampleInquiries, v.Inquires sampleService "ada") ∧
    (Backend.memory.serveAll sampleService sampleInquiries t).2 =
      (Backend.memory.serveAll sampleService sampleInquiries s).2 := by
  have run := Run.start.call .epoch (.createUser ⟨"ada", "", "", "a"⟩) (by decide) rfl
  have run := run.call .epoch (.createUser ⟨"bob", "", "", "b"⟩) (by decide) rfl
  have run := run.call .epoch (.createAccount ⟨"ada", .usd, 7⟩) (by decide) rfl
  have run := run.call .epoch (.createAccount ⟨"bob", .usd, 100⟩) (by decide) rfl
  have run := run.call .epoch (.createAccount ⟨"bob", .eur, 0⟩) (by decide) rfl
  have run := run.call .epoch .begin (by decide) rfl
  have run := run.call .epoch (.stageTransfer 1 2 3 5) (by decide) rfl
  have run := run.call .epoch (.stageEntry 1 2 (-5)) (by decide) rfl
  have run := run.call .epoch (.commit 1) (by decide) rfl
  let t : Store := {
    tables := {
      users := [⟨"ada", "", "", "a", .epoch, .epoch⟩, ⟨"bob", "", "", "b", .epoch, .epoch⟩]
      accounts := [⟨1, "ada", 7, .usd, .epoch⟩, ⟨2, "bob", 0, .usd, .epoch⟩,
        ⟨3, "bob", 900, .eur, .epoch⟩]
      entries := [⟨1, 2, 80, .epoch⟩]
      transfers := [⟨1, 2, 3, 80, .epoch⟩] }
    issued := ⟨3, 1, 1, 1⟩
    lockable := [3, 2, 1] }
  have same : t.seenBy "ada" = Store.seenBy _ "ada" := rfl
  exact ⟨_, _, t, run, same, by decide, by decide, by decide, inquires_sampleInquiries,
    (run.looks_alike same inquires_sampleInquiries).1⟩

end Giro
