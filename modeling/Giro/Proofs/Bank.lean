import Giro.Proofs.Permits
import Giro.Proofs.Pools

/-!
# A bank and its visits

A visit is a request that is being answered. Many visits share one store and take turns, one store
call at a time; any of them may be given up at any time. A visit first asks and then has at most one
job done, so a bank is a pool of those visits that have come to their job, among others that only
ask. What a visit has been told of accounts is still so when its job commits: `Step.commits`.
-/

namespace Giro

open Http Text Traffic

/-! ## Results that are passed on -/

def Outcome.map {α β : Type} (f : α → β) : Outcome α → Outcome β
  | .finished a => .finished (f a)
  | .overflow why => .overflow why
  | .blocked rest => .blocked ⟨rest.program.bind fun a => .done (f a), rest.waiting, rest.opened⟩

def Task.map {α β : Type} (f : α → β) (t : Task α) : Task β :=
  ⟨t.program.bind fun a => .done (f a), t.waiting, t.opened⟩

namespace Backend

variable {σ α β : Type} (b : Backend σ) (now : Timestamp) (f : α → β)

theorem proceed_map (opened : List Nat) (s : σ) (p : Program α) :
    b.proceed opened s (p.bind fun a => .done (f a)) =
      ((b.proceed opened s p).1, (b.proceed opened s p).2.map f) := by
  cases p <;> rfl

theorem step_map (t : Task α) (s : σ) :
    b.step now (t.map f) s = ((b.step now t s).1, (b.step now t s).2.map f) := by
  obtain ⟨program, w, opened⟩ := t
  cases program with
  | done a => rfl
  | overflow why => rfl
  | ask c next =>
    change b.step now ⟨.ask c fun answer => (next answer).bind fun a => .done (f a), w, opened⟩ s =
      _
    rcases h : b.poll now w c s with ⟨s', answer | r⟩
    · rw [step_of_answered h, step_of_answered h, proceed_map]
    · rw [step_of_waiting h, step_of_waiting h]
      rfl

theorem run_map (p : Program α) (opened : List Nat) (s : σ) :
    b.run now (p.bind fun a => .done (f a)) opened s =
      ((b.run now p opened s).1, (b.run now p opened s).2.map f) := by
  induction p generalizing opened s with
  | done a => rfl
  | overflow why => rfl
  | ask c next ih =>
    rcases h : b.perform now c s with ⟨s', answer | r⟩
    · simp only [Program.bind, run, h, ih]
    · simp only [Program.bind, run, h, Outcome.map]

end Backend

/-! ## Titles -/

/-- What a title says of an account is so, or the account is gone for good. -/
def Title.Stands (s : Store) (t : Title) : Prop :=
  t.id ≤ s.issued.account ∧
    ∀ a ∈ s.tables.accounts, a.id = t.id → a.owner = t.owner ∧ a.currency = t.currency

namespace Title

variable {s s' : Store} {t : Title}

theorem Stands.of_accounts (h : t.Stands s) (accounts : s'.tables.accounts = s.tables.accounts)
    (issued : s'.issued.account = s.issued.account) : t.Stands s' := by
  unfold Stands
  rw [accounts, issued]
  exact h

theorem owner_setBalance (n : Int) (b : Amount) (a : Account) :
    (Transaction.setBalance n b a).owner = a.owner := by
  unfold Transaction.setBalance
  split <;> rfl

theorem currency_setBalance (n : Int) (b : Amount) (a : Account) :
    (Transaction.setBalance n b a).currency = a.currency := by
  unfold Transaction.setBalance
  split <;> rfl

/-- No job gives an account another owner or another currency, and no id is used again. -/
theorem Stands.writes {j : Job} {r : Receipt} (h : t.Stands s) (writes : j.Writes r s s') :
    t.Stands s' := by
  obtain ⟨hissued, hstands⟩ := h
  cases writes with
  | register hs =>
    obtain ⟨_, _, _, rfl⟩ := Store.createUser_eq_ok_iff.mp hs
    exact ⟨hissued, hstands⟩
  | openAccount hs =>
    obtain ⟨_, _, ha, rfl⟩ := Store.createAccount_eq_ok_iff.mp hs
    constructor
    · simp only
      omega
    · intro b hb hid
      rcases List.mem_append.mp hb with hb | hb
      · exact hstands b hb hid
      · rw [List.mem_singleton.mp hb, ha] at hid
        simp only at hid
        omega
  | closeAccount _ _ tables issued =>
    constructor
    · rwa [issued]
    · intro a ha
      rw [tables] at ha
      exact hstands a (List.mem_of_mem_filter ha)
  | transfer _ _ _ _ _ _ tables issued =>
    constructor
    · rwa [issued]
    · intro x hx
      rw [tables] at hx
      obtain ⟨x₁, hx₁, rfl⟩ := List.mem_map.mp hx
      obtain ⟨x₀, hx₀, rfl⟩ := List.mem_map.mp hx₁
      rw [Transaction.id_setBalance, Transaction.id_setBalance, owner_setBalance, owner_setBalance,
        currency_setBalance, currency_setBalance]
      exact hstands x₀ hx₀

theorem stands_of_mem {ws : List Waiting} (ord : Orderly s ws) {a : Account}
    (ha : a ∈ s.tables.accounts) : Stands s ⟨a.id, a.owner, a.currency⟩ := by
  refine ⟨(ord.accounts_issued a ha).2, fun b hb hid => ?_⟩
  rw [ord.eq_of_account_id hb ha hid]
  exact ⟨rfl, rfl⟩

end Title

/-- What a store answers is so. -/
theorem Call.tells_stands {s s' : Store} {ws : List Waiting} (ord : Orderly s ws) {now : Timestamp}
    {c : Call} {a : c.Reply} (h : s.perform now c = (s', .answered (.ok a))) :
    ∀ t ∈ c.tells a, t.Stands s := by
  intro t ht
  cases c with
  | getAccount id =>
    rw [List.mem_singleton.mp ht]
    cases hfind : s.tables.account? id with
    | none =>
      simp only [Store.perform, Store.getAccount, hfind] at h
      cases h
    | some x =>
      simp only [Store.perform, Store.getAccount, hfind] at h
      cases h
      obtain ⟨hmem, hid⟩ := Tables.mem_of_account? hfind
      rw [← hid]
      exact Title.stands_of_mem ord hmem
  | _ => cases ht

/-- A call that spares accounts is answered at once and changes at most users and sessions. -/
theorem Call.performs_of_spares {s s' : Store} {now : Timestamp} {c : Call}
    {status : Store.Status c.Reply} (spares : c.sparesAccounts)
    (h : s.perform now c = (s', status)) :
    (∃ answer, status = .answered answer ∧ ∀ opened, c.track answer opened = opened) ∧
    s'.tables.accounts = s.tables.accounts ∧ s'.tables.entries = s.tables.entries ∧
    s'.tables.transfers = s.tables.transfers ∧ s'.issued = s.issued ∧ s'.lockable = s.lockable ∧
    s'.requests = s.requests ∧ s'.transactions = s.transactions := by
  cases c with
  | createUser new =>
    cases hs : s.createUser new now with
    | error e =>
      simp only [Store.perform, hs, Store.settle] at h
      cases h
      exact ⟨⟨_, rfl, fun _ => rfl⟩, rfl, rfl, rfl, rfl, rfl, rfl, rfl⟩
    | ok p =>
      obtain ⟨u, next⟩ := p
      simp only [Store.perform, hs, Store.settle] at h
      cases h
      obtain ⟨_, _, _, rfl⟩ := Store.createUser_eq_ok_iff.mp hs
      exact ⟨⟨_, rfl, fun _ => rfl⟩, rfl, rfl, rfl, rfl, rfl, rfl, rfl⟩
  | createSession new =>
    cases hs : s.createSession new now with
    | error e =>
      simp only [Store.perform, hs, Store.settle] at h
      cases h
      exact ⟨⟨_, rfl, fun _ => rfl⟩, rfl, rfl, rfl, rfl, rfl, rfl, rfl⟩
    | ok p =>
      obtain ⟨session, next⟩ := p
      simp only [Store.perform, hs, Store.settle] at h
      cases h
      rw [Store.createSession_eq_ok hs]
      exact ⟨⟨_, rfl, fun _ => rfl⟩, rfl, rfl, rfl, rfl, rfl, rfl, rfl⟩
  | createAccount | deleteAccount | begin | stageTransfer | stageEntry | addBalance | commit
  | rollback => cases spares
  | _ =>
    cases h
    exact ⟨⟨_, rfl, fun _ => rfl⟩, rfl, rfl, rfl, rfl, rfl, rfl, rfl⟩

/-! ## Visits -/

/-- A request that is being answered, and when it arrived. -/
structure Visit where
  request : Request
  arrived : Timestamp
  task : Task Response

def Service.receive (service : Service) (r : Request) (fresh : Fresh) (now : Timestamp) : Visit :=
  ⟨r, now, ⟨service.respond r fresh now, none, []⟩⟩

structure Bank where
  store : Store
  visits : List Visit := []

/-- A step of a bank, with the visit whose step it is. -/
inductive Bank.Step (service : Service) : Bank → Visit → Bank → Prop where
  | arrive {s : Store} {vs : List Visit} (r : Request) (fresh : Fresh) (now : Timestamp) :
      Step service ⟨s, vs⟩ (service.receive r fresh now) ⟨s, vs ++ [service.receive r fresh now]⟩
  | advance {s s' : Store} {before after : List Visit} {v : Visit} {now : Timestamp}
      {rest : Task Response} (h : Backend.memory.step now v.task s = (s', .blocked rest)) :
      Step service ⟨s, before ++ v :: after⟩ v ⟨s', before ++ { v with task := rest } :: after⟩
  | answer {s s' : Store} {before after : List Visit} {v : Visit} {now : Timestamp}
      {response : Response} (h : Backend.memory.step now v.task s = (s', .finished response)) :
      Step service ⟨s, before ++ v :: after⟩ v ⟨s', before ++ after⟩
  | overflow {s s' : Store} {before after : List Visit} {v : Visit} {now : Timestamp}
      {why : Overflow} (h : Backend.memory.step now v.task s = (s', .overflow why)) :
      Step service ⟨s, before ++ v :: after⟩ v ⟨s', before ++ after⟩
  | timeout {s : Store} {before after : List Visit} {v : Visit} :
      Step service ⟨s, before ++ v :: after⟩ v ⟨Backend.memory.cancel v.task s, before ++ after⟩

/-- What can come of a store that only serves requests, whichever arrive and in whatever order they
make their calls. -/
inductive Bank.Run (service : Service) (s₀ : Store) : Bank → Prop where
  | start : Run service s₀ ⟨s₀, []⟩
  | step {b b' : Bank} {v : Visit} (run : Run service s₀ b) (step : Bank.Step service b v b') :
      Run service s₀ b'

namespace Pool.Sound

variable {s s' : Store} {before after cs : List Caller}

/-- A caller that has not called yet may stand anywhere. -/
theorem insert (sound : Sound ⟨s, before ++ after, []⟩) (j : Job) :
    Sound ⟨s, before ++ j.start :: after, []⟩ := by
  have hplace : j.start.waiting? = none := by
    have := (Caller.stands_start (s := s) j).request_waiting?
    simpa [Job.start] using this
  constructor
  · simpa [hplace] using sound.orderly
  · intro c hc
    rcases mem_middle_iff.mp hc with rfl | hc
    · exact Caller.stands_start j
    · exact sound.stands c hc
  · simpa [Job.start] using sound.tickets

theorem of_accounts (sound : Sound ⟨s, cs, []⟩) (accounts : s'.tables.accounts = s.tables.accounts)
    (issued : s'.issued = s.issued) (lockable : s'.lockable = s.lockable)
    (requests : s'.requests = s.requests) (transactions : s'.transactions = s.transactions) :
    Sound ⟨s', cs, []⟩ := by
  constructor
  · exact sound.orderly.of_accounts accounts issued lockable requests transactions
  · intro c hc
    apply (sound.stands c hc).frame
    intro tx htx _
    exact ⟨transactions ▸ htx, fun a ha _ => accounts ▸ ha⟩
  · have : s'.tickets = s.tickets := congrArg (List.map Transaction.ticket) transactions
    change s'.tickets.Perm _
    rw [this]
    exact sound.tickets

end Pool.Sound

namespace Visit

variable {service : Service} {s s' : Store} {v : Visit}

/-- What a step leaves of its visit. -/
def left (v : Visit) : Outcome Response → List Visit
  | .blocked rest => [{ v with task := rest }]
  | _ => []

/-- What is committed for a visit at once: nothing, or a job that its request covers. -/
inductive Commits (service : Service) (v : Visit) (s s' : Store) : Prop where
  | nothing (accounts : s'.tables.accounts = s.tables.accounts)
      (entries : s'.tables.entries = s.tables.entries)
      (transfers : s'.tables.transfers = s.tables.transfers)
      (issued : s'.issued.account = s.issued.account)
  | job {titles : List Title} {j : Job} {r : Receipt}
      (covers : service.Covers v.request v.arrived titles j) (stand : ∀ t ∈ titles, t.Stands s)
      (writes : j.Writes r s s')

theorem Commits.stands {t : Title} (commits : Commits service v s s') (h : t.Stands s) :
    t.Stands s' := by
  cases commits with
  | nothing accounts _ _ issued => exact h.of_accounts accounts issued
  | job _ _ writes => exact h.writes writes

/-- Where a visit stands: it asks, or a caller does its job. -/
inductive Stands (service : Service) (s : Store) (v : Visit) : Option Caller → Prop where
  | asking {p : Program Response} {titles : List Title} (task : v.task = ⟨p, none, []⟩)
      (permitted : Permitted (service.Covers v.request v.arrived) titles p)
      (stand : ∀ t ∈ titles, t.Stands s) : Stands service s v none
  | working {c : Caller} {g : Except StoreError Receipt → Response} {titles : List Title}
      (task : v.task = c.task.map g) (covers : service.Covers v.request v.arrived titles c.job)
      (stand : ∀ t ∈ titles, t.Stands s) : Stands service s v (some c)

theorem Stands.frame {o : Option Caller} (stands : v.Stands service s o)
    (frame : ∀ t : Title, t.Stands s → t.Stands s') : v.Stands service s' o := by
  cases stands with
  | asking task permitted stand => exact .asking task permitted fun t ht => frame t (stand t ht)
  | working task covers stand => exact .working task covers fun t ht => frame t (stand t ht)

/-- Where a step leaves a visit, with callers `before` and `after` its own. -/
inductive Goes (service : Service) (v : Visit) (s : Store) (before after : List Caller) :
    Outcome Response → Prop where
  | on {rest : Task Response} {o : Option Caller}
      (stands : Stands service s { v with task := rest } o)
      (sound : Pool.Sound ⟨s, before ++ o.toList ++ after, []⟩) :
      Goes service v s before after (.blocked rest)
  | answered {response : Response} (sound : Pool.Sound ⟨s, before ++ after, []⟩) :
      Goes service v s before after (.finished response)
  | overflow {why : Overflow} (sound : Pool.Sound ⟨s, before ++ after, []⟩) :
      Goes service v s before after (.overflow why)

variable {before after : List Caller} {now : Timestamp} {outcome : Outcome Response}
    {titles : List Title}

theorem goes_of_proceed {p : Program Response}
    (permitted : Permitted (service.Covers v.request v.arrived) titles p)
    (stand : ∀ t ∈ titles, t.Stands s) (sound : Pool.Sound ⟨s, before ++ after, []⟩)
    (h : Backend.memory.proceed [] s p = (s', outcome)) :
    s' = s ∧ Goes service v s before after outcome := by
  cases p with
  | done a =>
    cases h
    exact ⟨rfl, .answered sound⟩
  | overflow why =>
    cases h
    exact ⟨rfl, .overflow sound⟩
  | ask c next =>
    cases h
    exact ⟨rfl, .on (.asking rfl permitted stand) (by simpa using sound)⟩

/-- What a pool commits when one caller moves is a job of that caller. -/
theorem commits_of_pool {c : Caller} {cs cs' : List Caller}
    {fs : List (Job × Except StoreError Receipt)}
    (covers : service.Covers v.request v.arrived titles c.job)
    (stand : ∀ t ∈ titles, t.Stands s) (hfs : ∀ f ∈ fs, f.1 = c.job)
    (commits : Pool.Commits ⟨s, cs, []⟩ ⟨s', cs', fs⟩) : Commits service v s s' := by
  cases commits with
  | nothing tables issued _ =>
    exact .nothing (congrArg Tables.accounts tables) (congrArg Tables.entries tables)
      (congrArg Tables.transfers tables) issued
  | @job j r writes successes =>
    have hmem : (j, r) ∈ Pool.successes ⟨s', cs', fs⟩ := successes ▸ List.mem_cons_self
    obtain ⟨f, hf, heq⟩ := List.mem_filterMap.mp hmem
    obtain ⟨r', _, heq⟩ := Option.map_eq_some_iff.mp heq
    cases heq
    exact .job (hfs f hf ▸ covers) stand writes

theorem goes_of_working {c : Caller} {g : Except StoreError Receipt → Response}
    (task : v.task = c.task.map g) (covers : service.Covers v.request v.arrived titles c.job)
    (stand : ∀ t ∈ titles, t.Stands s) (sound : Pool.Sound ⟨s, before ++ c :: after, []⟩)
    (h : Backend.memory.step now v.task s = (s', outcome)) :
    Commits service v s s' ∧ Goes service v s' before after outcome := by
  rw [task, Backend.step_map] at h
  rcases hc : Backend.memory.step now c.task s with ⟨s₁, result⟩
  rw [hc] at h
  cases result with
  | finished result =>
    cases h
    obtain ⟨sound', commits⟩ := (Pool.Step.finish hc).sound_commits sound
    refine ⟨commits_of_pool covers stand (fun f hf => ?_) commits, ?_⟩
    · rw [List.mem_singleton.mp hf]
    · exact .answered ⟨sound'.orderly, sound'.stands, sound'.tickets⟩
  | blocked rest =>
    cases h
    obtain ⟨sound', commits⟩ := (Pool.Step.advance hc).sound_commits sound
    have committed : Commits service v s s₁ := commits_of_pool covers stand
      (fun f hf => absurd hf List.not_mem_nil) commits
    have stand' : ∀ t ∈ titles, t.Stands s₁ := fun t ht => committed.stands (stand t ht)
    refine ⟨committed, .on (.working (c := { c with task := rest }) rfl covers stand') ?_⟩
    simpa using sound'
  | overflow why => cases
      (sound.stands c List.mem_append_cons_self).goes sound.orderly_split sound.free hc

theorem Stands.goes {o : Option Caller} (stands : v.Stands service s o)
    (sound : Pool.Sound ⟨s, before ++ o.toList ++ after, []⟩)
    (h : Backend.memory.step now v.task s = (s', outcome)) :
    Commits service v s s' ∧ Goes service v s' before after outcome := by
  cases stands with
  | working task covers stand =>
    exact goes_of_working task covers stand (by simpa using sound) h
  | @asking p titles task permitted stand =>
    have sound : Pool.Sound ⟨s, before ++ after, []⟩ := by simpa using sound
    have whole := permitted
    cases permitted with
    | job g covers => exact goes_of_working (c := Job.start _) task covers stand (sound.insert _) h
    | done a =>
      rw [task] at h
      obtain ⟨rfl, goes⟩ := goes_of_proceed whole stand sound h
      exact ⟨.nothing rfl rfl rfl rfl, goes⟩
    | overflow why =>
      rw [task] at h
      obtain ⟨rfl, goes⟩ := goes_of_proceed whole stand sound h
      exact ⟨.nothing rfl rfl rfl rfl, goes⟩
    | @ask _ c next spares refused told =>
      rw [task] at h
      rcases hp : s.perform now c with ⟨s₁, status⟩
      obtain ⟨⟨answer, rfl, track⟩, accounts, entries, transfers, issued, lockable, requests,
        transactions⟩ := Call.performs_of_spares spares hp
      have hpoll : Backend.memory.poll now none c s = (s₁, .answered answer) := hp
      rw [Backend.step_of_answered hpoll, track] at h
      have commits : Commits service v s s₁ :=
        .nothing accounts entries transfers (congrArg Issued.account issued)
      have sound₁ := sound.of_accounts accounts issued lockable requests transactions
      cases answer with
      | error e =>
        have stand₁ : ∀ t ∈ titles, t.Stands s₁ := fun t ht => commits.stands (stand t ht)
        obtain ⟨rfl, goes⟩ := goes_of_proceed (refused e) stand₁ sound₁ h
        exact ⟨commits, goes⟩
      | ok a =>
        have stand₁ : ∀ t ∈ c.tells a ++ titles, t.Stands s₁ := by
          intro t ht
          apply commits.stands
          rcases List.mem_append.mp ht with ht | ht
          · exact Call.tells_stands sound.orderly hp t ht
          · exact stand t ht
        obtain ⟨rfl, goes⟩ := goes_of_proceed (told a) stand₁ sound₁ h
        exact ⟨commits, goes⟩

theorem Stands.cancelled {o : Option Caller} (stands : v.Stands service s o)
    (sound : Pool.Sound ⟨s, before ++ o.toList ++ after, []⟩) :
    Commits service v s (Backend.memory.cancel v.task s) ∧
    Pool.Sound ⟨Backend.memory.cancel v.task s, before ++ after, []⟩ := by
  cases stands with
  | asking task permitted stand =>
    rw [task]
    have sound : Pool.Sound ⟨s, before ++ after, []⟩ := by simpa using sound
    exact ⟨.nothing rfl rfl rfl rfl, sound⟩
  | @working c g titles task covers stand =>
    rw [task]
    have sound : Pool.Sound ⟨s, before ++ c :: after, []⟩ := by simpa using sound
    obtain ⟨sound', commits⟩ := Pool.Step.cancel.sound_commits sound
    exact ⟨commits_of_pool covers stand (fun f hf => absurd hf List.not_mem_nil) commits, sound'⟩

end Visit

namespace Bank

variable {service : Service} {b b' : Bank} {v : Visit} {s₀ : Store}

/-- Each visit stands where its request has come to, and those that have come to their job make a
pool. -/
def Served (service : Service) (b : Bank) : Prop :=
  ∃ seats : List (Visit × Option Caller), seats.map Prod.fst = b.visits ∧
    (∀ p ∈ seats, p.1.Stands service b.store p.2) ∧
    Pool.Sound ⟨b.store, seats.filterMap Prod.snd, []⟩

theorem exists_seat {seats : List (Visit × Option Caller)} {before after : List Visit}
    (h : seats.map Prod.fst = before ++ v :: after) :
    ∃ left o right, seats = left ++ (v, o) :: right ∧ left.map Prod.fst = before ∧
      right.map Prod.fst = after := by
  obtain ⟨left, rest, rfl, hleft, hrest⟩ := List.map_eq_append_iff.mp h
  obtain ⟨⟨v', o⟩, right, rfl, rfl, hright⟩ := List.map_eq_cons_iff.mp hrest
  exact ⟨left, o, right, rfl, hleft, hright⟩

theorem served_of {s s' : Store} {left right : List (Visit × Option Caller)}
    (seats : List (Visit × Option Caller))
    (stands : ∀ p ∈ left ++ right, p.1.Stands service s p.2) (commits : v.Commits service s s')
    (hseats : ∀ p ∈ seats, p.1.Stands service s' p.2)
    (sound : Pool.Sound ⟨s', left.filterMap Prod.snd ++ seats.filterMap Prod.snd ++
      right.filterMap Prod.snd, []⟩) :
    Served service ⟨s', left.map Prod.fst ++ seats.map Prod.fst ++ right.map Prod.fst⟩ := by
  refine ⟨left ++ seats ++ right, by simp, ?_, by simpa using sound⟩
  intro p hp
  have others : p ∈ left ++ right → p.1.Stands service s' p.2 :=
    fun hp => (stands p hp).frame fun t ht => commits.stands ht
  simp only [List.mem_append] at hp others
  rcases hp with (hp | hp) | hp
  · exact others (Or.inl hp)
  · exact hseats p hp
  · exact others (Or.inr hp)

theorem Served.step {s s' : Store} {before after : List Visit} {now : Timestamp}
    {outcome : Outcome Response} (served : Served service ⟨s, before ++ v :: after⟩)
    (h : Backend.memory.step now v.task s = (s', outcome)) :
    Served service ⟨s', before ++ v.left outcome ++ after⟩ ∧ v.Commits service s s' := by
  obtain ⟨seats, hvisits, stands, sound⟩ := served
  obtain ⟨left, o, right, rfl, rfl, rfl⟩ := exists_seat hvisits
  have others : ∀ p ∈ left ++ right, p.1.Stands service s p.2 :=
    fun p hp => stands p (mem_middle_iff.mpr (Or.inr hp))
  have hsound :
      Pool.Sound ⟨s, left.filterMap Prod.snd ++ o.toList ++ right.filterMap Prod.snd, []⟩ := by
    cases o <;> simpa using sound
  obtain ⟨commits, goes⟩ := (stands (v, o) List.mem_append_cons_self).goes hsound h
  refine ⟨?_, commits⟩
  cases goes with
  | @on rest o' stands' sound' =>
    apply served_of [({ v with task := rest }, o')] others commits
    · intro p hp
      rw [List.mem_singleton.mp hp]
      exact stands'
    · cases o' <;> simpa using sound'
  | answered sound' => exact served_of [] others commits (by simp) (by simpa using sound')
  | overflow sound' => exact served_of [] others commits (by simp) (by simpa using sound')

theorem Served.timeout {s : Store} {before after : List Visit}
    (served : Served service ⟨s, before ++ v :: after⟩) :
    Served service ⟨Backend.memory.cancel v.task s, before ++ after⟩ ∧
      v.Commits service s (Backend.memory.cancel v.task s) := by
  obtain ⟨seats, hvisits, stands, sound⟩ := served
  obtain ⟨left, o, right, rfl, rfl, rfl⟩ := exists_seat hvisits
  have others : ∀ p ∈ left ++ right, p.1.Stands service s p.2 :=
    fun p hp => stands p (mem_middle_iff.mpr (Or.inr hp))
  have hsound :
      Pool.Sound ⟨s, left.filterMap Prod.snd ++ o.toList ++ right.filterMap Prod.snd, []⟩ := by
    cases o <;> simpa using sound
  obtain ⟨commits, sound'⟩ := (stands (v, o) List.mem_append_cons_self).cancelled hsound
  have := served_of [] others commits (by simp) (by simpa using sound')
  exact ⟨by simpa using this, commits⟩

theorem Served.arrive {s : Store} {vs : List Visit} (served : Served service ⟨s, vs⟩) (r : Request)
    (fresh : Fresh) (now : Timestamp) :
    Served service ⟨s, vs ++ [service.receive r fresh now]⟩ := by
  obtain ⟨seats, rfl, stands, sound⟩ := served
  refine ⟨seats ++ [(service.receive r fresh now, none)], by simp, ?_, by simpa using sound⟩
  intro p hp
  rcases List.mem_append.mp hp with hp | hp
  · exact stands p hp
  · rw [List.mem_singleton.mp hp]
    exact .asking rfl (service.respond_permitted r fresh now) fun t ht => absurd ht List.not_mem_nil

/-- Every step leaves every visit where it should be, and commits nothing or a covered job. -/
theorem Step.served_commits (step : Step service b v b') (served : Served service b) :
    Served service b' ∧ v.Commits service b.store b'.store := by
  cases step with
  | arrive r fresh now => exact ⟨served.arrive r fresh now, .nothing rfl rfl rfl rfl⟩
  | advance h =>
    obtain ⟨served', commits⟩ := served.step h
    exact ⟨by simpa [Visit.left] using served', commits⟩
  | answer h =>
    obtain ⟨served', commits⟩ := served.step h
    exact ⟨by simpa [Visit.left] using served', commits⟩
  | overflow h =>
    obtain ⟨served', commits⟩ := served.step h
    exact ⟨by simpa [Visit.left] using served', commits⟩
  | timeout => exact served.timeout

theorem Run.served (settled : s₀.Settled) (run : Run service s₀ b) : Served service b := by
  induction run with
  | start => exact ⟨[], rfl, fun p hp => absurd hp List.not_mem_nil, Pool.sound_of_settled settled⟩
  | step _ step ih => exact (step.served_commits ih).1

theorem Run.commits (settled : s₀.Settled) (run : Run service s₀ b) (step : Step service b v b') :
    v.Commits service b.store b'.store :=
  (step.served_commits (run.served settled)).2

theorem Run.orderly (settled : s₀.Settled) (run : Run service s₀ b) : ∃ ws, Orderly b.store ws := by
  obtain ⟨_, _, _, sound⟩ := run.served settled
  exact ⟨_, sound.orderly⟩

/-! ## Taking turns -/

/-- Lets the visit at a position make its next call. -/
def turn (b : Bank) (now : Timestamp) (i : Nat) : Bank :=
  match b.visits[i]? with
  | none => b
  | some v =>
    match Backend.memory.step now v.task b.store with
    | (s, .blocked rest) => ⟨s, b.visits.set i { v with task := rest }⟩
    | (s, _) => ⟨s, b.visits.eraseIdx i⟩

theorem Step.turn (service : Service) {i : Nat} (hv : b.visits[i]? = some v) (now : Timestamp) :
    Step service b v (b.turn now i) := by
  obtain ⟨s, visits⟩ := b
  obtain ⟨hi, hget⟩ := List.getElem?_eq_some_iff.mp hv
  have hsplit : visits = visits.take i ++ v :: visits.drop (i + 1) := by
    rw [← hget, List.getElem_cons_drop hi, List.take_append_drop]
  simp only [Bank.turn, hv]
  rcases h : Backend.memory.step now v.task s with ⟨s', response | why | rest⟩
  · simp only [List.eraseIdx_eq_take_drop_succ]
    nth_rewrite 1 [hsplit]
    exact .answer h
  · simp only [List.eraseIdx_eq_take_drop_succ]
    nth_rewrite 1 [hsplit]
    exact .overflow h
  · simp only [List.set_eq_take_append_cons_drop, if_pos hi]
    nth_rewrite 1 [hsplit]
    exact .advance h

def turns (b : Bank) (now : Timestamp) (i : Nat) : Nat → Bank
  | 0 => b
  | n + 1 => (b.turns now i n).turn now i

theorem Run.turns (run : Run service s₀ b) (now : Timestamp) (i n : Nat) :
    Run service s₀ (b.turns now i n) := by
  induction n with
  | zero => exact run
  | succ n ih =>
    unfold Bank.turns
    cases hv : (b.turns now i n).visits[i]? with
    | none => simpa only [Bank.turn, hv] using ih
    | some v => exact ih.step (.turn service hv now)

/-- A visit keeps its request. -/
theorem request_of_mem_turns {r : Request} {arrived : Timestamp}
    (h : ∀ v ∈ b.visits, v.request = r ∧ v.arrived = arrived) (now : Timestamp) (i n : Nat) :
    ∀ v ∈ (b.turns now i n).visits, v.request = r ∧ v.arrived = arrived := by
  induction n with
  | zero => exact h
  | succ n ih =>
    intro v hv
    rw [turns, turn] at hv
    split at hv
    · exact ih v hv
    · rename_i u hu
      split at hv
      · rcases List.mem_or_eq_of_mem_set hv with hv | rfl
        · exact ih v hv
        · exact ih u (List.mem_of_getElem? hu)
      · exact ih v (List.mem_of_mem_eraseIdx hv)

/-- A store with one request that has made some calls. -/
def alone (service : Service) (s : Store) (r : Request) (fresh : Fresh) (now : Timestamp)
    (n : Nat) : Bank :=
  (⟨s, [service.receive r fresh now]⟩ : Bank).turns now 0 n

theorem Run.alone {s : Store} (run : Run service s₀ ⟨s, []⟩) (r : Request) (fresh : Fresh)
    (now : Timestamp) (n : Nat) : Run service s₀ (alone service s r fresh now n) :=
  (run.step (.arrive r fresh now)).turns now 0 n

theorem request_of_mem_alone {s : Store} {r : Request} {fresh : Fresh} {now : Timestamp} {n : Nat} :
    ∀ v ∈ (alone service s r fresh now n).visits, v.request = r ∧ v.arrived = now :=
  request_of_mem_turns (List.forall_mem_singleton.mpr ⟨rfl, rfl⟩) now 0 n

/-- A request that is answered with its first call. -/
theorem Run.alone_once {s : Store} (run : Run service s₀ ⟨s, []⟩) (r : Request) (fresh : Fresh)
    (now : Timestamp) (answered : (Bank.alone service s r fresh now 1).visits = []) :
    Run service s₀ ⟨(Bank.alone service s r fresh now 1).store, []⟩ := by
  rw [← answered]
  exact run.alone r fresh now 1

theorem alone_of_caller {s : Store} {r : Request} {now : Timestamp} {resource : Resource}
    {endpoint : Endpoint} {caller : String} (fresh : Fresh) (n : Nat)
    (path : Resource.ofPath? r.path = some resource)
    (hcaller : service.caller resource r now = .ok caller)
    (method : resource.endpoint? r.method = some endpoint) :
    alone service s r fresh now n =
      (⟨s, [⟨r, now, ⟨(settled (perform service endpoint caller resource.segment r fresh now)).bind
        fun response => .done ((response.naming resource r.method).headOnly r.method), none, []⟩⟩]⟩
        : Bank).turns now 0 n := by
  rw [alone, Service.receive, Service.respond_of_caller fresh path hcaller method]

/-! ## A request that is served at once -/

theorem Run.go {s s' : Store} {vs : List Visit} {r : Request} {arrived now : Timestamp}
    {p : Program Response} {opened : List Nat} {outcome : Outcome Response}
    (run : Run service s₀ ⟨s, vs ++ [⟨r, arrived, ⟨p, none, opened⟩⟩]⟩)
    (h : Backend.memory.run now p opened s = (s', outcome)) :
    Run service s₀ ⟨s', vs ++ Visit.left ⟨r, arrived, ⟨p, none, opened⟩⟩ outcome⟩ := by
  obtain ⟨s₁, t, run, hstep⟩ := Backend.exists_last_step
    (P := fun s t => Run service s₀ ⟨s, vs ++ [⟨r, arrived, t⟩]⟩)
    (fun _ _ _ _ run hstep => run.step (.advance hstep)) run h
  cases outcome with
  | finished a => exact run.step (.answer hstep)
  | overflow why => exact run.step (.overflow hstep)
  | blocked rest => exact run.step (.advance hstep)

/-- A request that is served at once is a visit among others. -/
theorem Run.serve {s : Store} {vs : List Visit} (run : Run service s₀ ⟨s, vs⟩) (r : Request)
    (fresh : Fresh) (now : Timestamp) :
    Run service s₀ ⟨(Backend.memory.serve service r fresh now s).1, vs⟩ := by
  unfold Backend.serve
  by_cases hzero : service.timeoutSeconds = 0
  · rw [if_pos hzero]
    exact run
  · rw [if_neg hzero]
    have arrived := run.step (.arrive r fresh now)
    rcases h : Backend.memory.run now (service.respond r fresh now) [] s with ⟨s', outcome⟩
    have gone := arrived.go h
    cases outcome with
    | finished response => simpa [Visit.left] using gone
    | overflow why => simpa [Visit.left] using gone
    | blocked rest =>
      have := gone.step .timeout
      simpa using this

end Bank

/-! ### A sample of the service, and its user `ada` -/

theorem length_sampleSecret : 32 ≤ "01234567890123456789012345678901".length := by decide

def sampleService : Service :=
  ⟨⟨"01234567890123456789012345678901", length_sampleSecret⟩, ⟨900⟩, ⟨86400⟩, 30⟩

/-- A token of `ada` for the first 100 seconds. -/
def sampleToken : String :=
  "eyJ0eXAiOiJKV1QiLCJhbGciOiJIUzI1NiJ9" ++ "." ++
  "eyJqdGkiOiIwMDAwMDAwMC0wMDAwLTAwMDAtMDAwMC0wMDAwMDAwMDAwMDAi" ++
  "LCJzdWIiOiJhZGEiLCJ0eXAiOiJhY2Nlc3MiLCJpYXQiOjAsImV4cCI6MTAwfQ" ++ "." ++
  "_cTcGAjF2ydIsomYTbn1iaXW_oDqim6UW8nML11FwSI"

def sampleRequest (method path body : String) : Request where
  method
  path
  query := ""
  headers := [("authorization", utf8 ("Bearer " ++ sampleToken)),
    ("content-type", utf8 "application/json")]
  body := utf8 body

theorem user?_sampleRequest (method path body : String) :
    sampleService.user? (sampleRequest method path body) .epoch = some "ada" := by
  have headers : (sampleRequest method path body).headers = (sampleRequest "" "" "").headers := by
    simp only [sampleRequest]
  rw [Service.user?_of_headers headers]
  decide +kernel

def sampleFresh : Fresh := ⟨[], ⟨List.replicate 16 0, rfl⟩, ⟨List.replicate 16 0, rfl⟩⟩

end Giro
