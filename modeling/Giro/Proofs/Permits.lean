import Giro.Http.Server
import Giro.Proofs.Callers

/-!
# What a request may have done

A request asks the store for rows and is told who owns an account and in which currency; with what
it has been told it may have one job done, and that is its last call. `Service.Covers` says which
jobs a request covers, by its endpoint, its caller and the accounts it has been told of, and
`Service.respond_permitted` that no request, whatever is in it, ever asks for another.
-/

namespace Giro

open Http

/-- Who owns an account, and in which currency. -/
structure Title where
  id : Int
  owner : String
  currency : Currency

/-- What a request is let in for: an endpoint, on behalf of a caller, with the id in its path. -/
structure Admission where
  endpoint : Endpoint
  caller : String
  segment : String

def Service.admit? (service : Service) (r : Request) (now : Timestamp) : Option Admission :=
  (Resource.ofPath? r.path).bind fun resource =>
    match service.caller resource r now, resource.endpoint? r.method with
    | .ok caller, some endpoint => some ⟨endpoint, caller, resource.segment⟩
    | _, _ => none

theorem Http.Resource.isProtected_of_endpoint? {resource : Resource} {method : String}
    {endpoint : Endpoint} (h : resource.endpoint? method = some endpoint)
    (moves : endpoint = .createAccount ∨ endpoint = .deleteAccount ∨ endpoint = .createTransfer) :
    resource.isProtected := by
  obtain ⟨m, _, h⟩ := Option.bind_eq_some_iff.mp h
  obtain ⟨⟨m', e⟩, hfind, rfl⟩ := Option.map_eq_some_iff.mp h
  have hmem := List.mem_of_find?_eq_some hfind
  cases resource <;> simp [Resource.methods] at hmem <;> simp_all [Resource.isProtected]

/-- Who a request is let in as. -/
def Service.user? (service : Service) (r : Request) (now : Timestamp) : Option String :=
  ((authenticate service.key r now).map Payload.username).toOption

theorem Service.user?_of_admit? {service : Service} {r : Request} {now : Timestamp}
    {endpoint : Endpoint} {caller segment : String}
    (h : service.admit? r now = some ⟨endpoint, caller, segment⟩)
    (moves : endpoint = .createAccount ∨ endpoint = .deleteAccount ∨ endpoint = .createTransfer) :
    service.user? r now = some caller := by
  obtain ⟨resource, _, h⟩ := Option.bind_eq_some_iff.mp h
  cases hcaller : service.caller resource r now with
  | error why =>
    simp only [hcaller] at h
    cases h
  | ok c =>
    cases hendpoint : resource.endpoint? r.method with
    | none =>
      simp only [hcaller, hendpoint] at h
      cases h
    | some e =>
      simp only [hcaller, hendpoint] at h
      cases h
      have isProtected := Resource.isProtected_of_endpoint? hendpoint moves
      rw [Service.caller, if_pos isProtected] at hcaller
      rw [Service.user?, hcaller]
      rfl

theorem Service.caller_of_user? {service : Service} {r : Request} {now : Timestamp}
    {resource : Resource} {u : String} (isProtected : resource.isProtected)
    (h : service.user? r now = some u) : service.caller resource r now = .ok u := by
  rw [Service.caller, if_pos isProtected]
  unfold Service.user? at h
  cases hr : (authenticate service.key r now).map Payload.username with
  | ok u' =>
    rw [hr] at h
    cases h
    rfl
  | error why =>
    rw [hr] at h
    cases h

theorem Service.user?_of_headers {service : Service} {r r' : Request} {now : Timestamp}
    (h : r.headers = r'.headers) : service.user? r now = service.user? r' now := by
  unfold Service.user? authenticate Request.headerText? Request.header?
  rw [h]

/-- The jobs that an admission covers, once the request has been told of some accounts. -/
inductive Admission.Covers (r : Request) : Admission → List Title → Job → Prop where
  | openAccount {caller segment : String} {titles : List Title} {fields : List Json.FieldValue}
      {currency : Currency} (body : record newAccountSchema r = .ok fields)
      (code : Currency.ofCode? (oneText fields) = some currency) :
      Covers r ⟨.createAccount, caller, segment⟩ titles (.openAccount ⟨caller, currency, 0⟩)
  | closeAccount {caller segment : String} {titles : List Title} {id : Int} {a : Title}
      (path : pathId segment = .ok id) (told : a ∈ titles) (named : a.id = id)
      (owner : a.owner = caller) :
      Covers r ⟨.deleteAccount, caller, segment⟩ titles (.closeAccount id)
  | pay {caller segment : String} {titles : List Title} {fields : List Json.FieldValue}
      {p : Payment} {currency : Currency} {x y : Title}
      (body : record paymentSchema r = .ok fields) (payment : p = paymentOf fields)
      (check : p.check = .ok currency) (source : x ∈ titles) (source_id : x.id = p.source)
      (owner : x.owner = caller) (source_currency : x.currency = currency) (target : y ∈ titles)
      (target_id : y.id = p.target) (target_currency : y.currency = currency) :
      Covers r ⟨.createTransfer, caller, segment⟩ titles (.transfer p.order)

def Service.Covers (service : Service) (r : Request) (now : Timestamp) (titles : List Title)
    (j : Job) : Prop :=
  ∃ admission, service.admit? r now = some admission ∧ admission.Covers r titles j

/-! ## Programs that keep to what they may -/

/-- A call that changes neither accounts nor history and opens nothing. -/
def Call.sparesAccounts : Call → Bool
  | .createUser _ | .createSession _ => true
  | c => c.isRead

/-- What an answer says of accounts. -/
def Call.tells : (c : Call) → c.Reply → List Title
  | .getAccount id, a => [⟨id, a.owner, a.currency⟩]
  | _, _ => []

/-- A program that asks what it likes and ends with at most one job, one that it may have done with
what it has been told. -/
inductive Permitted {α : Type} (may : List Title → Job → Prop) : List Title → Program α → Prop where
  | done {titles : List Title} (a : α) : Permitted may titles (.done a)
  | overflow {titles : List Title} (why : Overflow) : Permitted may titles (.overflow why)
  | ask {titles : List Title} {c : Call} {next : Except StoreError c.Reply → Program α}
      (spares : c.sparesAccounts) (refused : ∀ e, Permitted may titles (next (.error e)))
      (told : ∀ a, Permitted may (c.tells a ++ titles) (next (.ok a))) :
      Permitted may titles (.ask c next)
  | job {titles : List Title} {j : Job} (g : Except StoreError Receipt → α)
      (covers : may titles j) :
      Permitted may titles (j.attempt.run.bind fun r => .done (g r))

namespace Permitted

variable {α β ε δ : Type} {may : List Title → Job → Prop} {titles : List Title}

theorem map {p : Program α} (f : α → β) (h : Permitted may titles p) :
    Permitted may titles (p.bind fun a => .done (f a)) := by
  induction h with
  | done a => exact .done _
  | overflow why => exact .overflow why
  | ask spares _ _ refused told => exact .ask spares refused told
  | job g covers =>
    rw [Program.bind_assoc]
    exact .job (fun r => f (g r)) covers

theorem of_eq {p q : Program α} (h : Permitted may titles q) (heq : p = q) :
    Permitted may titles p :=
  heq ▸ h

/-! ### The parts of an attempt -/

theorem mapError {a : Attempt ε α} (f : ε → δ) (h : Permitted may titles a.run) :
    Permitted may titles (Attempt.mapError f a).run :=
  h.map _

theorem map_run {a : Attempt ε α} (f : α → β) (h : Permitted may titles a.run) :
    Permitted may titles (a >>= fun x => pure (f x)).run :=
  (h.map (Except.map f)).of_eq (Attempt.run_bind_pure f a)

theorem demand {r : Except ε α} {g : ε → δ} {f : α → Attempt δ β}
    (h : ∀ a, r = .ok a → Permitted may titles (f a).run) :
    Permitted may titles (Attempt.demand (r.mapError g) >>= f).run := by
  cases r with
  | ok a => exact h a rfl
  | error e => exact .done _

theorem compute {r : Except Overflow α} {f : α → Attempt ε β}
    (h : ∀ a, Permitted may titles (f a).run) :
    Permitted may titles (Attempt.compute r >>= f).run := by
  cases r with
  | ok a => exact h a
  | error why => exact .overflow why

theorem call {c : Call} {g : StoreError → ε} {f : c.Reply → Attempt ε β} (spares : c.sparesAccounts)
    (h : ∀ a, Permitted may (c.tells a ++ titles) (f a).run) :
    Permitted may titles (Attempt.mapError g (Attempt.call c) >>= f).run :=
  .ask spares (fun _ => .done _) h

theorem guard {p : Prop} [Decidable p] {e : ε} {f : α → Attempt ε β} {a : Attempt ε β}
    (h : ¬ p → Permitted may titles a.run) :
    Permitted may titles (if p then throw e >>= f else a).run := by
  by_cases hp : p
  · rw [if_pos hp]
    exact .done _
  · rw [if_neg hp]
    exact h hp

/-- What a job gives, taken out of its receipt. -/
def unwrapped (unwrap : Receipt → Option α) : Except StoreError Receipt → Except StoreError α
  | .error e => .error e
  | .ok receipt =>
    match unwrap receipt with
    | some a => .ok a
    | none => .error Store.noTransaction

/-- A job is done for what it gives. -/
theorem run_eq_unwrapped {j : Job} {a : Attempt StoreError α} (wrap : α → Receipt)
    (hj : j.attempt = wrap <$> a) (unwrap : Receipt → Option α)
    (hwrap : ∀ x, unwrap (wrap x) = some x) :
    a.run = j.attempt.run.bind fun r => .done (unwrapped unwrap r) := by
  have hrun : j.attempt.run = a.run.bind fun r => .done (r.map wrap) := by
    rw [hj, Attempt.run_map]
  have hunwrapped : ∀ r : Except StoreError α, unwrapped unwrap (r.map wrap) = r := by
    intro r
    cases r with
    | ok x => simp only [Except.map, unwrapped, hwrap]
    | error e => rfl
  rw [hrun, Program.bind_assoc]
  simp only [Program.bind, hunwrapped]
  exact (Program.bind_pure_done a.run).symm

theorem attempt {j : Job} {a : Attempt StoreError α} (wrap : α → Receipt)
    (hj : j.attempt = wrap <$> a) (unwrap : Receipt → Option α)
    (hwrap : ∀ x, unwrap (wrap x) = some x) (covers : may titles j) :
    Permitted may titles a.run :=
  (job (unwrapped unwrap) covers).of_eq (run_eq_unwrapped wrap hj unwrap hwrap)

theorem openAccount {new : NewAccount} (covers : may titles (.openAccount new)) :
    Permitted may titles (Attempt.call (.createAccount new)).run :=
  attempt .opened rfl Receipt.opened? (fun _ => rfl) covers

theorem closeAccount {id : Int} (covers : may titles (.closeAccount id)) :
    Permitted may titles (Attempt.call (.deleteAccount id)).run :=
  attempt (fun _ => .closed) rfl (fun _ => some ()) (fun _ => rfl) covers

theorem transfer {o : TransferOrder} (covers : may titles (.transfer o)) :
    Permitted may titles o.post.run :=
  attempt .posted rfl Receipt.posted? (fun _ => rfl) covers

end Permitted

/-! ## The endpoints -/

section Endpoints

variable {may : List Title → Job → Prop} {titles : List Title} {caller segment : String}
    {r : Request} {now : Timestamp}

theorem health_permitted : Permitted may titles (health now).run :=
  .call rfl fun _ => .done _

theorem ownedAccount_permitted {β : Type} {id : Int} {f : Account → Attempt Failure β}
    (h : ∀ a, a.owner = caller → Permitted may (⟨id, a.owner, a.currency⟩ :: titles) (f a).run) :
    Permitted may titles (ownedAccount caller id >>= f).run := by
  unfold ownedAccount
  simp only [apply_ite (· >>= f), bind_assoc]
  refine .guard fun _ => .call rfl fun a => ?_
  apply Permitted.guard
  intro howner
  exact h a (not_not.mp howner)

theorem createAccount_permitted
    (covers : ∀ fields currency, record newAccountSchema r = .ok fields →
      Currency.ofCode? (oneText fields) = some currency →
      may titles (.openAccount ⟨caller, currency, 0⟩)) :
    Permitted may titles (createAccount caller r).run := by
  unfold createAccount
  refine .demand fun fields hfields => .demand fun currency hcurrency => ?_
  apply Permitted.map_run
  apply Permitted.mapError
  apply Permitted.openAccount
  apply covers fields currency hfields
  cases hcode : Currency.ofCode? (oneText fields) with
  | none =>
    rw [hcode] at hcurrency
    cases hcurrency
  | some c =>
    rw [hcode] at hcurrency
    cases hcurrency
    rfl

theorem listAccounts_permitted : Permitted may titles (listAccounts caller r).run :=
  .demand fun _ _ => .demand fun _ _ => .call rfl fun _ => .done _

theorem getAccount_permitted : Permitted may titles (getAccount caller segment).run :=
  .demand fun _ _ => ownedAccount_permitted fun _ _ => .done _

theorem deleteAccount_permitted
    (covers : ∀ id a, pathId segment = .ok id → a.id = id → a.owner = caller →
      may (a :: titles) (.closeAccount id)) :
    Permitted may titles (deleteAccount caller segment).run := by
  unfold deleteAccount
  refine .demand fun id hid => ownedAccount_permitted fun a howner => ?_
  apply Permitted.map_run
  apply Permitted.mapError
  apply Permitted.closeAccount
  exact covers id _ hid rfl howner

theorem listEntries_permitted : Permitted may titles (listEntries caller segment r).run :=
  .demand fun _ _ => .demand fun _ _ => .demand fun _ _ => ownedAccount_permitted fun _ _ =>
    .call rfl fun _ => .done _

theorem getTransfer_permitted : Permitted may titles (getTransfer caller segment).run := by
  unfold getTransfer
  refine .demand fun id _ => .call rfl fun f => .call rfl fun x => .call rfl fun y => ?_
  by_cases h : x.owner ≠ caller ∧ y.owner ≠ caller
  · simp only [if_pos h]
    exact .done _
  · simp only [if_neg h]
    exact .done _

theorem registerUser_permitted {salt : List UInt8} :
    Permitted may titles (registerUser r salt).run := by
  unfold registerUser
  refine .demand fun fields _ => ?_
  apply Permitted.map_run
  apply Permitted.mapError
  unfold register
  refine .demand fun _ _ => ?_
  apply Permitted.mapError
  exact .ask rfl (fun _ => .done _) fun _ => .done _

theorem logIn_permitted {service : Service} {fresh : Fresh} :
    Permitted may titles (logIn service r fresh now).run := by
  unfold logIn
  refine .demand fun fields _ => ?_
  apply Permitted.map_run
  apply Permitted.mapError
  unfold Service.login
  refine .demand fun _ _ => .call rfl fun user => .compute fun _ => .demand fun _ _ => ?_
  refine .compute fun _ => .compute fun _ => .call rfl fun _ => .done _

theorem renewToken_permitted {service : Service} {fresh : Fresh} :
    Permitted may titles (renewToken service r fresh now).run := by
  unfold renewToken
  refine .demand fun fields _ => ?_
  apply Permitted.map_run
  apply Permitted.mapError
  unfold Service.renew
  exact .demand fun _ _ => .call rfl fun _ => .demand fun _ _ => .compute fun _ => .done _

theorem accountIn_permitted {β : Type} {currency : Currency} {id : Int}
    {f : Account → Attempt Refusal β}
    (h : ∀ a, a.currency = currency →
      Permitted may (⟨id, a.owner, a.currency⟩ :: titles) (f a).run) :
    Permitted may titles (Payment.accountIn currency id >>= f).run := by
  unfold Payment.accountIn
  simp only [apply_ite (· >>= f), bind_assoc]
  refine .call rfl fun a => .guard fun hcurrency => ?_
  exact h a (not_not.mp hcurrency)

theorem execute_permitted {p : Payment}
    (covers : ∀ currency x y, p.check = .ok currency → x.id = p.source → x.owner = caller →
      x.currency = currency → y.id = p.target → y.currency = currency →
      may (y :: x :: titles) (.transfer p.order)) :
    Permitted may titles (p.execute caller).run := by
  unfold Payment.execute
  refine .demand fun currency hcheck => accountIn_permitted fun x hx => .guard fun howner => ?_
  apply accountIn_permitted
  intro y hy
  apply Permitted.mapError
  apply Permitted.transfer
  exact covers currency _ _ hcheck rfl (not_not.mp howner) hx rfl hy

theorem createTransfer_permitted
    (covers : ∀ fields p currency x y, record paymentSchema r = .ok fields → p = paymentOf fields →
      p.check = .ok currency → x.id = p.source → x.owner = caller → x.currency = currency →
      y.id = p.target → y.currency = currency → may (y :: x :: titles) (.transfer p.order)) :
    Permitted may titles (createTransfer caller r).run := by
  unfold createTransfer
  refine .demand fun fields hfields => ?_
  apply Permitted.map_run
  apply Permitted.mapError
  apply execute_permitted
  intro currency x y
  exact covers fields _ currency x y hfields rfl

end Endpoints

theorem Service.perform_permitted (service : Service) (endpoint : Endpoint)
    (caller segment : String) (r : Request) (fresh : Fresh) (now : Timestamp) :
    Permitted (Admission.Covers r ⟨endpoint, caller, segment⟩) []
      (perform service endpoint caller segment r fresh now).run := by
  cases endpoint with
  | health => exact health_permitted
  | register => exact registerUser_permitted
  | login => exact logIn_permitted
  | renew => exact renewToken_permitted
  | createAccount => exact createAccount_permitted fun _ _ body code => .openAccount body code
  | listAccounts => exact listAccounts_permitted
  | getAccount => exact getAccount_permitted
  | deleteAccount =>
    exact deleteAccount_permitted fun _ _ path named owner =>
      .closeAccount path List.mem_cons_self named owner
  | listEntries => exact listEntries_permitted
  | createTransfer =>
    refine createTransfer_permitted ?_
    intro _ _ _ _ _ body payment check source_id owner source_currency target_id target_currency
    exact .pay body payment check (List.mem_cons_of_mem _ List.mem_cons_self) source_id owner
      source_currency List.mem_cons_self target_id target_currency
  | getTransfer => exact getTransfer_permitted

/-- The response that a result is settled with. -/
def settlement : Except Failure Response → Response
  | .ok response => response
  | .error failure => failure.response

theorem settled_eq (a : Attempt Failure Response) :
    settled a = a.run.bind fun result => .done (settlement result) := by
  refine congrArg (Program.bind a.run) (funext fun result => ?_)
  cases result <;> rfl

theorem Permitted.settled {may : List Title → Job → Prop} {titles : List Title}
    {a : Attempt Failure Response} (h : Permitted may titles a.run) :
    Permitted may titles (Http.settled a) := by
  rw [settled_eq]
  exact h.map settlement

theorem Permitted.mono {α : Type} {may may' : List Title → Job → Prop} {titles : List Title}
    {p : Program α} (le : ∀ titles j, may titles j → may' titles j) (h : Permitted may titles p) :
    Permitted may' titles p := by
  induction h with
  | done a => exact .done a
  | overflow why => exact .overflow why
  | ask spares _ _ refused told => exact .ask spares refused told
  | job g covers => exact .job g (le _ _ covers)

/-- A request that is let in is answered by its endpoint. -/
theorem Service.respond_of_caller {service : Service} {r : Request} {now : Timestamp}
    {resource : Resource} {endpoint : Endpoint} {caller : String} (fresh : Fresh)
    (path : Resource.ofPath? r.path = some resource)
    (hcaller : service.caller resource r now = .ok caller)
    (method : resource.endpoint? r.method = some endpoint) :
    service.respond r fresh now =
      (settled (perform service endpoint caller resource.segment r fresh now)).bind fun response =>
        .done ((response.naming resource r.method).headOnly r.method) := by
  simp only [Service.respond, path, Service.respondAt, hcaller, method]

/-- Whatever a request asks for and is told, it has at most one job done, and that one is
covered. -/
theorem Service.respond_permitted (service : Service) (r : Request) (fresh : Fresh)
    (now : Timestamp) : Permitted (service.Covers r now) [] (service.respond r fresh now) := by
  cases path : Resource.ofPath? r.path with
  | none =>
    simp only [Service.respond, path]
    exact .done _
  | some resource =>
    cases hcaller : service.caller resource r now with
    | error why =>
      simp only [Service.respond, path, Service.respondAt, hcaller]
      exact .done _
    | ok caller =>
      cases method : resource.endpoint? r.method with
      | none =>
        simp only [Service.respond, path, Service.respondAt, hcaller, method]
        exact .done _
      | some endpoint =>
        have admitted : service.admit? r now = some ⟨endpoint, caller, resource.segment⟩ := by
          simp only [Service.admit?, path, Option.bind_some, hcaller, method]
        rw [Service.respond_of_caller fresh path hcaller method]
        apply Permitted.map
        apply Permitted.settled
        apply (service.perform_permitted endpoint caller resource.segment r fresh now).mono
        exact fun titles j covers => ⟨_, admitted, covers⟩

end Giro
