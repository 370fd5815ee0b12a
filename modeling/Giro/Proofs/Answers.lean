import Giro.Proofs.Aftermath

/-!
# What a request changes

Every endpoint is tidy, and its failures are answered with a status that is no success. So a request
that is not answered with success changes nothing, whatever is in it and wherever it stops, and it
holds no row; a success has changed exactly what its endpoint is for: `Http.Endpoint.Changes`.
-/

namespace Giro

theorem StoreError.status_notice (why : StoreError) : 400 ≤ why.notice.status := by
  cases why with
  | constraint breach => cases h : breach.constraint <;> simp [notice, h]
  | _ => simp [notice]

theorem Refusal.status_notice (why : Refusal) : 400 ≤ why.notice.status := by
  cases why with
  | store why => exact why.status_notice
  | _ => simp [notice]

namespace Http

open Traffic

def Response.Succeeds (response : Response) : Prop := 200 ≤ response.status ∧ response.status < 300

theorem Rejection.not_succeeds (why : Rejection) : ¬ why.response.Succeeds := by
  cases why with
  | body why =>
    cases h : why.fault <;> simp [Rejection.response, h, Response.Succeeds, Response.ofText]
  | _ => simp [Rejection.response, Response.Succeeds, Response.ofText]

theorem not_succeeds_of_status {response : Response} (h : 300 ≤ response.status) :
    ¬ response.Succeeds :=
  fun succeeds => Nat.not_le_of_lt succeeds.2 h

theorem Failure.not_succeeds (failure : Failure) : ¬ failure.response.Succeeds := by
  cases failure with
  | rejected why => exact why.not_succeeds
  | refused why =>
    exact not_succeeds_of_status (Nat.le_trans (by decide) why.status_notice)

/-! ## Endpoints -/

/-- The endpoints that are there to change something. -/
def Endpoint.writes : Endpoint → Bool
  | .register | .login | .createAccount | .deleteAccount | .createTransfer => true
  | _ => false

/-- What a success changes. -/
inductive Endpoint.Changes : Endpoint → Tables → Tables → Prop where
  | nothing {e : Endpoint} {t : Tables} (reads : e.writes = false) : Changes e t t
  | registered {t : Tables} {u : User} (fresh : t.user? u.username = none) :
      Changes .register t { t with users := t.users ++ [u] }
  | loggedIn {t : Tables} {x : Session} (fresh : t.session? x.id = none) :
      Changes .login t { t with sessions := t.sessions ++ [x] }
  | opened {t : Tables} {a : Account} (fresh : t.account? a.id = none) :
      Changes .createAccount t { t with accounts := t.accounts ++ [a] }
  | closed {t : Tables} {a : Account} (found : t.account? a.id = some a) :
      Changes .deleteAccount t { t with accounts := t.accounts.filter fun b => b.id ≠ a.id }
  | paid {t t' : Tables} {o : TransferOrder} {p : Posted} (distinct : o.source ≠ o.target)
      (moves : o.Moves p t t') : Changes .createTransfer t t'

/-- A success of the endpoint, and its change. -/
def Endpoint.Answers (e : Endpoint) (s : Store) (response : Response) (s' : Store) : Prop :=
  response.Succeeds ∧ e.Changes s.tables s'.tables

section Endpoints

variable {caller segment : String} {r : Request} {now : Timestamp} {e : Endpoint}

theorem succeeds_ofJson (v : Json) : (Response.ofJson 200 v).Succeeds := by
  simp [Response.Succeeds, Response.ofJson]

theorem tidy_ofJson (reads : e.writes = false) (v : Json) :
    Tidy e.Answers (ExceptT.run (pure (Response.ofJson 200 v) : Attempt Failure Response)) :=
  .ok fun _ => ⟨succeeds_ofJson v, .nothing reads⟩

theorem ownedAccount_tidy {β : Type} {good : Store → β → Store → Prop} {id : Int}
    {f : Account → Attempt Failure β} (h : ∀ a, Tidy good (f a).run) :
    Tidy good (ownedAccount caller id >>= f).run := by
  unfold ownedAccount
  simp only [apply_ite (· >>= f), bind_assoc]
  exact .guard fun _ => .read rfl fun a => .guard fun _ => h a

theorem health_tidy : Tidy Endpoint.health.Answers (health now).run :=
  .read rfl fun _ => tidy_ofJson rfl _

theorem createAccount_tidy : Tidy Endpoint.createAccount.Answers (createAccount caller r).run := by
  unfold createAccount
  refine .demand fun fields _ => .demand fun currency _ => ?_
  refine ((tidy_createAccount _).mapError _).map_run _ ?_
  rintro s a s' ⟨fresh, htables⟩
  exact ⟨succeeds_ofJson _, htables ▸ .opened fresh⟩

theorem listAccounts_tidy : Tidy Endpoint.listAccounts.Answers (listAccounts caller r).run :=
  .demand fun _ _ => .demand fun _ _ => .read rfl fun _ => tidy_ofJson rfl _

theorem getAccount_tidy : Tidy Endpoint.getAccount.Answers (getAccount caller segment).run :=
  .demand fun _ _ => ownedAccount_tidy fun _ => tidy_ofJson rfl _

theorem deleteAccount_tidy :
    Tidy Endpoint.deleteAccount.Answers (deleteAccount caller segment).run := by
  unfold deleteAccount
  refine .demand fun id _ => ownedAccount_tidy fun _ => ?_
  refine ((tidy_deleteAccount id).mapError _).map_run _ ?_
  rintro s _ s' ⟨a, ha, htables⟩
  have hid := (Tables.mem_of_account? ha).2
  exact ⟨⟨by decide, by decide⟩, htables ▸ .closed (hid ▸ ha)⟩

theorem listEntries_tidy : Tidy Endpoint.listEntries.Answers (listEntries caller segment r).run :=
  .demand fun _ _ => .demand fun _ _ => .demand fun _ _ => ownedAccount_tidy fun _ =>
    .read rfl fun _ => tidy_ofJson rfl _

theorem getTransfer_tidy : Tidy Endpoint.getTransfer.Answers (getTransfer caller segment).run := by
  unfold getTransfer
  refine .demand fun id _ => .read rfl fun f => .read rfl fun x => .read rfl fun y => ?_
  by_cases h : x.owner ≠ caller ∧ y.owner ≠ caller
  · simp only [if_pos h]
    exact .error _
  · simp only [if_neg h]
    exact tidy_ofJson rfl _

theorem registerUser_tidy {salt : List UInt8} :
    Tidy Endpoint.register.Answers (registerUser r salt).run := by
  unfold registerUser
  refine .demand fun fields _ => ?_
  have tidy : Tidy (fun s u s' => s.tables.user? u.username = none ∧
      s'.tables = { s.tables with users := s.tables.users ++ [u] })
      (register (registrationOf fields) salt).run :=
    .demand fun _ _ => (tidy_createUser _).mapError _
  refine (tidy.mapError _).map_run _ ?_
  rintro s u s' ⟨fresh, htables⟩
  exact ⟨succeeds_ofJson _, htables ▸ .registered fresh⟩

theorem logIn_tidy {service : Service} {fresh : Fresh} :
    Tidy Endpoint.login.Answers (logIn service r fresh now).run := by
  unfold logIn
  refine .demand fun fields _ => ?_
  have tidy : Tidy (fun s _ s' => ∃ x, s.tables.session? x.id = none ∧
      s'.tables = { s.tables with sessions := s.tables.sessions ++ [x] })
      (service.login (client r) (credentialsOf fields) fresh now).run := by
    refine .demand fun _ _ => .read rfl fun user => .compute fun _ => .demand fun _ _ => ?_
    refine .compute fun _ => .compute fun _ => ?_
    exact ((tidy_createSession _).mapError _).map_run _ fun s x s' h => ⟨x, h⟩
  refine (tidy.mapError _).map_run _ ?_
  rintro s _ s' ⟨x, fresh, htables⟩
  exact ⟨succeeds_ofJson _, htables ▸ .loggedIn fresh⟩

theorem renewToken_tidy {service : Service} {fresh : Fresh} :
    Tidy Endpoint.renew.Answers (renewToken service r fresh now).run := by
  unfold renewToken
  refine .demand fun fields _ => ?_
  have tidy : Tidy (fun s _ s' => s'.tables = s.tables)
      (service.renew (oneText fields) fresh.accessId now).run :=
    .demand fun _ _ => .read rfl fun _ => .demand fun _ _ => .compute fun _ => .ok fun _ => rfl
  refine (tidy.mapError _).map_run _ ?_
  intro s _ s' htables
  exact ⟨succeeds_ofJson _, htables ▸ .nothing rfl⟩

theorem accountIn_tidy {β : Type} {good : Store → β → Store → Prop} {currency : Currency} {id : Int}
    {f : Account → Attempt Refusal β} (h : ∀ a, Tidy good (f a).run) :
    Tidy good (Payment.accountIn currency id >>= f).run := by
  unfold Payment.accountIn
  simp only [apply_ite (· >>= f), bind_assoc]
  exact .read rfl fun a => .guard fun _ => h a

theorem createTransfer_tidy :
    Tidy Endpoint.createTransfer.Answers (createTransfer caller r).run := by
  unfold createTransfer
  refine .demand fun fields _ => ?_
  have tidy : Tidy (fun s p s' =>
      ∃ o : TransferOrder, o.source ≠ o.target ∧ o.Moves p s.tables s'.tables)
      ((paymentOf fields).execute caller).run := by
    refine .demand fun currency check => ?_
    have distinct := (Payment.check_eq_ok_iff.mp check).2.2.1
    refine accountIn_tidy fun _ => .guard fun _ => accountIn_tidy fun _ => ?_
    exact ((tidy_post _).mono fun s p s' moves => ⟨_, distinct, moves⟩).mapError _
  refine (tidy.mapError _).map_run _ ?_
  rintro s p s' ⟨o, distinct, moves⟩
  exact ⟨succeeds_ofJson _, .paid distinct moves⟩

end Endpoints

theorem perform_tidy (service : Service) (endpoint : Endpoint) (caller segment : String)
    (r : Request) (fresh : Fresh) (now : Timestamp) :
    Tidy endpoint.Answers (perform service endpoint caller segment r fresh now).run := by
  cases endpoint with
  | health => exact health_tidy
  | register => exact registerUser_tidy
  | login => exact logIn_tidy
  | renew => exact renewToken_tidy
  | createAccount => exact createAccount_tidy
  | listAccounts => exact listAccounts_tidy
  | getAccount => exact getAccount_tidy
  | deleteAccount => exact deleteAccount_tidy
  | listEntries => exact listEntries_tidy
  | createTransfer => exact createTransfer_tidy
  | getTransfer => exact getTransfer_tidy

/-! ## Requests -/

theorem succeeds_headOnly {method : String} {response : Response} :
    (response.headOnly method).Succeeds ↔ response.Succeeds := by
  unfold Response.headOnly
  split <;> rfl

theorem succeeds_naming {resource : Resource} {method : String} {response : Response} :
    (response.naming resource method).Succeeds ↔ response.Succeeds := by
  unfold Response.naming
  split <;> rfl

theorem not_succeeds_timeoutOf (r : Request) : ¬ (timeoutOf r).Succeeds := by
  have timeout : ¬ Response.timeout.Succeeds := not_succeeds_of_status (by decide)
  unfold timeoutOf
  split
  · exact timeout
  · rwa [succeeds_naming]

/-- The endpoint that a request is for. -/
def Request.endpoint? (r : Request) : Option Endpoint :=
  (Resource.ofPath? r.path).bind fun resource => resource.endpoint? r.method

/-- Requests that read, and those that have a token renewed. -/
def Request.IsSafe (r : Request) : Prop :=
  r.method = "GET" ∨ r.method = "HEAD" ∨ r.method = "POST" ∧ r.path = "/tokens/renew_access"

theorem Request.IsSafe.reads {r : Request} {e : Endpoint} (safe : r.IsSafe)
    (h : r.endpoint? = some e) : e.writes = false := by
  obtain ⟨resource, hpath, hmethod⟩ := Option.bind_eq_some_iff.mp h
  rcases safe with hget | hhead | ⟨hpost, hrenew⟩
  · rw [hget] at hmethod
    cases resource <;> cases hmethod <;> rfl
  · rw [hhead] at hmethod
    cases resource <;> cases hmethod <;> rfl
  · have renewal : Resource.ofPath? r.path = some .renewal := by
      rw [hrenew]
      decide
    cases renewal.symm.trans hpath
    rw [hpost] at hmethod
    cases hmethod
    rfl

theorem Endpoint.Changes.eq_of_reads {e : Endpoint} {t t' : Tables} (h : e.Changes t t')
    (reads : e.writes = false) : t' = t := by
  cases h with
  | nothing => rfl
  | registered | loggedIn | opened | closed | paid => cases reads

/-- How a request leaves the store, whose rows stay locked as they are. -/
structure Request.Aftermath (r : Request) (s s' : Store) (answer : Except Overflow Response) :
    Prop where
  locks : s.SameLocks s'
  success : ∀ response, answer = .ok response → response.Succeeds →
    ∃ e, r.endpoint? = some e ∧ e.Changes s.tables s'.tables
  failure : (∀ response, answer = .ok response → ¬ response.Succeeds) → s'.tables = s.tables
  safe : r.IsSafe → s'.tables = s.tables

namespace Request.Aftermath

variable {r : Request} {s s' : Store} {answer : Except Overflow Response}

theorem of_untouched (same : s.Untouched s')
    (fails : ∀ response, answer = .ok response → ¬ response.Succeeds) :
    r.Aftermath s s' answer where
  locks := same.locks
  success response h succeeds := absurd succeeds (fails response h)
  failure _ := same.tables
  safe _ := same.tables

theorem of_changes {response : Response} {e : Endpoint} (locks : s.SameLocks s')
    (succeeds : response.Succeeds) (endpoint : r.endpoint? = some e)
    (changes : e.Changes s.tables s'.tables) : r.Aftermath s s' (.ok response) where
  locks := locks
  success _ _ _ := ⟨e, endpoint, changes⟩
  failure fails := absurd succeeds (fails response rfl)
  safe safe := changes.eq_of_reads (safe.reads endpoint)

variable {service : Service} {fresh : Fresh} {now : Timestamp} {history : List Event}
    {ws : List Waiting} {ε : Type} {q : Program (Except ε Response)}
    {good : Store → Response → Store → Prop}

theorem of_tidy (finish : Except ε Response → Response) (run : Run history ⟨s, ws⟩)
    (tidy : Tidy good q)
    (respond : service.respond r fresh now = q.bind fun result => .done (finish result))
    (error : ∀ e, ¬ (finish (.error e)).Succeeds)
    (ok : ∀ s a s', good s a s' → (finish (.ok a)).Succeeds ∧
      ∃ e, r.endpoint? = some e ∧ e.Changes s.tables s'.tables)
    (h : Backend.memory.serve service r fresh now s = (s', answer)) :
    r.Aftermath s s' answer := by
  unfold Backend.serve at h
  split at h
  · cases h
    apply of_untouched (.refl s)
    rintro _ ⟨rfl⟩
    exact not_succeeds_timeoutOf r
  · rw [respond, Backend.run_map] at h
    have leaves := tidy run now
    generalize Backend.memory.run now q [] s = result at leaves h
    cases leaves with
    | success hgood locks =>
      cases h
      obtain ⟨succeeds, e, endpoint, changes⟩ := ok _ _ _ hgood
      exact of_changes locks succeeds endpoint changes
    | failure same =>
      cases h
      apply of_untouched same
      rintro _ ⟨rfl⟩
      exact error _
    | overflow same =>
      cases h
      exact of_untouched same nofun
    | blocked same =>
      cases h
      apply of_untouched same
      rintro _ ⟨rfl⟩
      exact not_succeeds_timeoutOf r

/-- An answer for which nothing is done. -/
theorem of_done {response : Response} (run : Run history ⟨s, ws⟩)
    (respond : service.respond r fresh now = .done response) (fails : ¬ response.Succeeds)
    (h : Backend.memory.serve service r fresh now s = (s', answer)) : r.Aftermath s s' answer := by
  have tidy : Tidy (fun _ _ _ => False) (.done (.error ()) : Program (Except Unit Response)) :=
    .error ()
  exact of_tidy (fun _ => response) run tidy respond (fun _ => fails) (fun _ _ _ h => h.elim) h

end Request.Aftermath
end Http

open Http

/-- Whatever stands in a store, and whoever waits for its rows: a request changes something only if
it is answered with success, and then what its endpoint is for and nothing else. -/
theorem Traffic.Run.aftermath {history : List Event} {s s' : Store} {ws : List Waiting}
    {answer : Except Overflow Response} (run : Run history ⟨s, ws⟩) (service : Service)
    (r : Request) (fresh : Fresh) (now : Timestamp)
    (h : Backend.memory.serve service r fresh now s = (s', answer)) : r.Aftermath s s' answer := by
  cases path : Resource.ofPath? r.path with
  | none =>
    have respond : service.respond r fresh now = .done .noRoute := by
      simp only [Service.respond, path]
    exact .of_done run respond (not_succeeds_of_status (by decide)) h
  | some resource =>
    cases hcaller : service.caller resource r now with
    | error why =>
      have respond : service.respond r fresh now =
          .done (((Failure.refused (.unauthorized why)).response.naming resource r.method).headOnly
            r.method) := by
        simp only [Service.respond, path, Service.respondAt, hcaller, Program.bind]
        rfl
      refine .of_done run respond ?_ h
      rw [succeeds_headOnly, succeeds_naming]
      exact Failure.not_succeeds _
    | ok caller =>
      cases hendpoint : resource.endpoint? r.method with
      | none =>
        have respond : service.respond r fresh now =
            .done ((Response.wrongMethod.naming resource r.method).headOnly r.method) := by
          simp only [Service.respond, path, Service.respondAt, hcaller, hendpoint, Program.bind]
        refine .of_done run respond ?_ h
        rw [succeeds_headOnly, succeeds_naming]
        exact not_succeeds_of_status (by decide)
      | some e =>
        have endpoint : r.endpoint? = some e := by
          simp only [Request.endpoint?, path, Option.bind_some, hendpoint]
        let finish (result : Except Failure Response) : Response :=
          ((settlement result).naming resource r.method).headOnly r.method
        refine .of_tidy finish run (perform_tidy service e caller resource.segment r fresh now)
          ?_ ?_ ?_ h
        · simp only [Service.respond, path, Service.respondAt, hcaller, hendpoint, settled_eq,
            Program.bind_assoc]
          rfl
        · intro failure
          simp only [finish, succeeds_headOnly, succeeds_naming]
          exact failure.not_succeeds
        · rintro s response s' ⟨succeeds, changes⟩
          simp only [finish, succeeds_headOnly, succeeds_naming]
          exact ⟨succeeds, e, endpoint, changes⟩

/-- Somebody has locked the account that a payment is made from. -/
def sampleLocked : Store :=
  ((sampleStore.perform .epoch .begin).1.perform .epoch (.addBalance 1 1 5)).1

/-- A payment moves money when its accounts are free. When one is locked, the payment waits for it
with all its rows staged, and is given up. -/
theorem Traffic.Run.aftermath_of_payment :
    (∃ history, Run history ⟨sampleStore, []⟩) ∧ (∃ history, Run history ⟨sampleLocked, []⟩) ∧
    (∃ s response, Backend.memory.serve sampleService samplePayment sampleFresh .epoch sampleStore =
        (s, .ok response) ∧ response.status = 200 ∧
      Endpoint.createTransfer.Changes sampleStore.tables s.tables ∧ sampleStore.SameLocks s) ∧
    sampleLocked.Holds ⟨1, 1⟩ ∧
    ∃ s response, Backend.memory.serve sampleService samplePayment sampleFresh .epoch sampleLocked =
        (s, .ok response) ∧ response.status = 408 ∧
      s.tables = sampleLocked.tables ∧ sampleLocked.SameLocks s := by
  obtain ⟨⟨history, free⟩, _⟩ := settled_sampleStore
  have locked := free.call .epoch .begin (by decide) rfl
  have locked := locked.call .epoch (.addBalance 1 1 5) (by decide) rfl
  have caller : sampleService.caller .transfers samplePayment .epoch = .ok "ada" :=
    Service.caller_of_user? rfl (user?_sampleRequest _ _ _)
  have respond := Service.respond_of_caller sampleFresh (by decide +kernel) caller rfl
  have answered (s : Store) {status : Nat}
      (h : ((Backend.memory.serve sampleService samplePayment sampleFresh .epoch s).2.map
        Response.status).toOption = some status) :
      ∃ s' response, Backend.memory.serve sampleService samplePayment sampleFresh .epoch s =
        (s', .ok response) ∧ response.status = status := by
    generalize Backend.memory.serve sampleService samplePayment sampleFresh .epoch s = result at h ⊢
    obtain ⟨s', answer⟩ := result
    cases answer with
    | error why => cases h
    | ok response => exact ⟨s', response, rfl, Option.some.inj h⟩
  obtain ⟨s, paid, hpaid, success⟩ := answered sampleStore (by
    show _ = some 200
    rw [Backend.serve, respond]
    decide +kernel)
  obtain ⟨s', late, hlate, timeout⟩ := answered sampleLocked (by
    show _ = some 408
    rw [Backend.serve, respond]
    decide +kernel)
  have done := free.aftermath sampleService samplePayment sampleFresh .epoch hpaid
  have givenUp := locked.aftermath sampleService samplePayment sampleFresh .epoch hlate
  obtain ⟨e, endpoint, changes⟩ := done.success paid rfl (by simp [Response.Succeeds, success])
  have transfer : samplePayment.endpoint? = some .createTransfer := by decide +kernel
  cases transfer.symm.trans endpoint
  refine ⟨⟨_, free⟩, ⟨_, locked⟩, ⟨s, paid, hpaid, success, changes, done.locks⟩, rfl,
    s', late, hlate, timeout, givenUp.failure ?_, givenUp.locks⟩
  rintro _ ⟨rfl⟩
  exact not_succeeds_of_status (by omega)

end Giro
