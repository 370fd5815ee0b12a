import Giro.Proofs.Answers
import Giro.Proofs.Permits

/-!
# When the store cannot be reached

On a backend where every query and every beginning of a transaction is aborted, a request is refused
before it asks anything, as it would be anywhere, or it stops at its first call. No endpoint takes
that failure for a missing row, goes on without the row, or reports it as a success:
`Backend.Unreachable.answers`.
-/

namespace Giro

open Http

/-- Nothing is answered but that the transaction was aborted. The calls to an open transaction do
not matter, as none is opened. -/
def Backend.Unreachable {σ : Type} (b : Backend σ) : Prop :=
  ∀ now c s, c.ticket? = none →
    ∃ reason, (b.perform now c s).2 = .answered (.error (.aborted reason))

theorem Backend.unreachable_closedPool {σ : Type} : (closedPool : Backend σ).Unreachable :=
  fun _ _ _ _ => ⟨_, rfl⟩

/-- A refusal that needs no store. -/
def Refusal.IsEarly : Refusal → Prop
  | .notFound _ | .store _ => False
  | .invalid _ | .unauthorized _ | .internal _ => True

def Http.Failure.IsEarly : Failure → Prop
  | .rejected _ => True
  | .refused why => why.IsEarly

/-- A program that fails early, or else asks a call that needs no transaction and gives up when the
call is aborted. -/
inductive GivesUp {ε α : Type} (early : ε → Prop) (lost : String → ε) :
    Program (Except ε α) → Prop where
  | early {e : ε} (h : early e) : GivesUp early lost (.done (.error e))
  | ask {c : Call} {next : Except StoreError c.Reply → Program (Except ε α)}
      (ticketless : c.ticket? = none)
      (stops : ∀ reason, next (.error (.aborted reason)) = .done (.error (lost reason))) :
      GivesUp early lost (.ask c next)

namespace GivesUp

variable {ε δ α β : Type} {early : ε → Prop} {lost : String → ε}

theorem mapError {a : Attempt ε α} {early' : δ → Prop} {lost' : String → δ} {g : ε → δ}
    (hearly : ∀ e, early e → early' (g e)) (hlost : ∀ reason, g (lost reason) = lost' reason)
    (h : GivesUp early lost a.run) : GivesUp early' lost' (Attempt.mapError g a).run := by
  change GivesUp early' lost' (a.run.bind fun r => .done (r.mapError g))
  cases h with
  | early he => exact .early (hearly _ he)
  | ask ticketless stops =>
    refine .ask ticketless fun reason => ?_
    rw [stops, ← hlost]
    rfl

theorem map_run {a : Attempt ε α} (f : α → β) (h : GivesUp early lost a.run) :
    GivesUp early lost (a >>= fun x => pure (f x)).run := by
  rw [Attempt.run_bind_pure]
  cases h with
  | early he => exact .early he
  | ask ticketless stops =>
    refine .ask ticketless fun reason => ?_
    rw [stops]
    rfl

theorem demand {r : Except δ α} {g : δ → ε} {f : α → Attempt ε β} (hearly : ∀ e, early (g e))
    (h : ∀ a, GivesUp early lost (f a).run) :
    GivesUp early lost (Attempt.demand (r.mapError g) >>= f).run := by
  cases r with
  | ok a => exact h a
  | error e => exact .early (hearly e)

theorem call {c : Call} {g : StoreError → ε} {f : c.Reply → Attempt ε β}
    (ticketless : c.ticket? = none) (hlost : ∀ reason, g (.aborted reason) = lost reason) :
    GivesUp early lost (Attempt.mapError g (Attempt.call c) >>= f).run :=
  .ask ticketless fun reason => hlost reason ▸ rfl

theorem guard {p : Prop} [Decidable p] {e : ε} {f : α → Attempt ε β} {a : Attempt ε β}
    (hearly : early e) (h : GivesUp early lost a.run) :
    GivesUp early lost (if p then throw e >>= f else a).run := by
  by_cases hp : p
  · rw [if_pos hp]
    exact .early hearly
  · rw [if_neg hp]
    exact h

end GivesUp

/-! ## The endpoints -/

/-- What the service does gives up with the store's own words. -/
abbrev Refusal.GivesUp {α : Type} (a : Attempt Refusal α) : Prop :=
  Giro.GivesUp IsEarly (fun reason => .store (.aborted reason)) a.run

abbrev Http.GivesUp {α : Type} (a : Attempt Failure α) : Prop :=
  Giro.GivesUp Failure.IsEarly (fun reason => .refused (.store (.aborted reason))) a.run

namespace Http

variable {caller segment : String} {r : Request} {now : Timestamp} {fresh : Fresh}

theorem GivesUp.reads {α β : Type} {part : Except Rejection α} {f : α → Attempt Failure β}
    (h : ∀ a, GivesUp (f a)) : GivesUp (reads part >>= f) :=
  .demand (fun _ => trivial) h

theorem GivesUp.checks {α β : Type} {check : Except Invalid α} {f : α → Attempt Failure β}
    (h : ∀ a, GivesUp (f a)) : GivesUp (checks check >>= f) :=
  .demand (fun _ => trivial) h

theorem GivesUp.refused {α β : Type} {a : Attempt Refusal α} (f : α → β) (h : Refusal.GivesUp a) :
    GivesUp (Attempt.mapError .refused a >>= fun x => pure (f x)) := by
  have refused : GivesUp (Attempt.mapError .refused a) := h.mapError (fun _ he => he) fun _ => rfl
  exact refused.map_run f

theorem ownedAccount_givesUp {β : Type} {id : Int} {f : Account → Attempt Failure β} :
    GivesUp (ownedAccount caller id >>= f) := by
  unfold ownedAccount
  simp only [apply_ite (· >>= f), bind_assoc]
  exact .guard trivial (.call rfl fun _ => rfl)

theorem register_givesUp {registration : Registration} {salt : List UInt8} :
    Refusal.GivesUp (register registration salt) :=
  .demand (fun _ => trivial) fun _ => .ask rfl fun _ => rfl

theorem login_givesUp {service : Service} {client : Client} {c : Credentials} :
    Refusal.GivesUp (service.login client c fresh now) :=
  .demand (fun _ => trivial) fun _ => .call rfl fun _ => rfl

theorem renew_givesUp {service : Service} {token : String} {id : Uuid} :
    Refusal.GivesUp (service.renew token id now) := by
  refine .demand (fun why => ?_) fun _ => .call rfl fun _ => rfl
  cases why <;> trivial

theorem execute_givesUp {p : Payment} : Refusal.GivesUp (p.execute caller) := by
  refine .demand (fun _ => trivial) fun currency => ?_
  unfold Payment.accountIn
  simp only [bind_assoc]
  exact .call rfl fun _ => rfl

theorem perform_givesUp (service : Service) (endpoint : Endpoint) (caller segment : String)
    (r : Request) (fresh : Fresh) (now : Timestamp) :
    GivesUp (perform service endpoint caller segment r fresh now) := by
  cases endpoint with
  | health => exact .call rfl fun _ => rfl
  | register => exact .reads fun _ => .refused _ register_givesUp
  | login => exact .reads fun _ => .refused _ login_givesUp
  | renew => exact .reads fun _ => .refused _ renew_givesUp
  | createAccount => exact .reads fun _ => .checks fun _ => .call rfl fun _ => rfl
  | listAccounts => exact .reads fun _ => .checks fun _ => .call rfl fun _ => rfl
  | getAccount => exact .reads fun _ => ownedAccount_givesUp
  | deleteAccount => exact .reads fun _ => ownedAccount_givesUp
  | listEntries => exact .reads fun _ => .reads fun _ => .checks fun _ => ownedAccount_givesUp
  | createTransfer => exact .reads fun _ => .refused _ execute_givesUp
  | getTransfer => exact .reads fun _ => .call rfl fun _ => rfl

/-! ## Requests -/

/-- What a client is told when a transaction is aborted. -/
def Response.outage : Response :=
  .ofNotice ⟨500, "transaction_error", "The transaction could not be completed"⟩

/-- A response from which nobody learns that something was done, or that a row is missing. -/
structure Request.Unserved (r : Request) (response : Response) : Prop where
  no_success : ¬ response.Succeeds
  not_forbidden : response.status ≠ 403
  no_absence : response.status = 404 → Resource.ofPath? r.path = none

theorem Failure.IsEarly.status {failure : Failure} (h : failure.IsEarly) :
    failure.response.status ≠ 403 ∧ failure.response.status ≠ 404 := by
  cases failure with
  | rejected why =>
    cases why with
    | body why =>
      cases hfault : why.fault <;>
        simp [Failure.response, Rejection.response, hfault, Response.ofText]
    | _ => simp [Failure.response, Rejection.response, Response.ofText]
  | refused why =>
    cases why with
    | notFound | store => exact h.elim
    | _ => simp [Failure.response, Refusal.notice, Response.ofNotice, Response.ofJson]

theorem status_headOnly (method : String) (response : Response) :
    (response.headOnly method).status = response.status := by
  unfold Response.headOnly
  split <;> rfl

theorem status_naming (resource : Resource) (method : String) (response : Response) :
    (response.naming resource method).status = response.status := by
  unfold Response.naming
  split <;> rfl

theorem naming_of_endpoint? {resource : Resource} {method : String} {endpoint : Endpoint}
    (h : resource.endpoint? method = some endpoint) (response : Response) :
    response.naming resource method = response := by
  simp [Response.naming, h]

theorem Request.unserved_of_status {r : Request} {response : Response}
    (h : response.status = 401 ∨ response.status = 405 ∨ response.status = 408 ∨
      response.status = 500) : r.Unserved response := by
  refine ⟨not_succeeds_of_status ?_, ?_, ?_⟩ <;> omega

theorem status_outage (method : String) : (Response.outage.headOnly method).status = 500 :=
  status_headOnly method _

end Http

/-- The program of a request asks the store, or refuses the request without it. -/
inductive Service.Starts (r : Request) : Program Response → Prop where
  | unasked {response : Response} (unserved : r.Unserved response) : Starts r (.done response)
  | asks {c : Call} {next : Except StoreError c.Reply → Program Response}
      (ticketless : c.ticket? = none)
      (stops : ∀ reason,
        next (.error (.aborted reason)) = .done (Response.outage.headOnly r.method)) :
      Starts r (.ask c next)

theorem Service.respond_starts (service : Service) (r : Request) (fresh : Fresh) (now : Timestamp) :
    Starts r (service.respond r fresh now) := by
  cases path : Resource.ofPath? r.path with
  | none =>
    simp only [Service.respond, path]
    exact .unasked ⟨not_succeeds_of_status (by decide), by decide, fun _ => path⟩
  | some resource =>
    cases hcaller : service.caller resource r now with
    | error why =>
      simp only [Service.respond, path, Service.respondAt, hcaller]
      refine .unasked (Request.unserved_of_status (Or.inl ?_))
      rw [status_headOnly, status_naming]
      rfl
    | ok caller =>
      cases method : resource.endpoint? r.method with
      | none =>
        simp only [Service.respond, path, Service.respondAt, hcaller, method]
        refine .unasked (Request.unserved_of_status (Or.inr (Or.inl ?_)))
        rw [status_headOnly, status_naming]
        rfl
      | some endpoint =>
        rw [Service.respond_of_caller fresh path hcaller method, settled_eq]
        have givesUp := perform_givesUp service endpoint caller resource.segment r fresh now
        unfold Http.GivesUp at givesUp
        generalize (perform service endpoint caller resource.segment r fresh now).run = p at givesUp
        cases givesUp with
        | @early failure h =>
          have status := h.status
          refine .unasked ⟨?_, ?_, ?_⟩
          · rw [succeeds_headOnly, succeeds_naming]
            exact failure.not_succeeds
          · rw [status_headOnly, status_naming]
            exact status.1
          · rw [status_headOnly, status_naming]
            exact fun h => absurd h status.2
        | ask ticketless stops =>
          refine .asks ticketless fun reason => ?_
          simp only [stops, Program.bind, naming_of_endpoint? method]
          rfl

/-- The answer to a request needs the store. -/
def Service.Asks (service : Service) (r : Request) (fresh : Fresh) (now : Timestamp) : Prop :=
  service.timeoutSeconds ≠ 0 ∧ ∃ c next, service.respond r fresh now = .ask c next

theorem Backend.serve_of_done {σ : Type} (b : Backend σ) {service : Service} {r : Request}
    {fresh : Fresh} {now : Timestamp} {response : Response} (s : σ)
    (time : service.timeoutSeconds ≠ 0) (h : service.respond r fresh now = .done response) :
    b.serve service r fresh now s = (s, .ok response) := by
  simp [serve, time, h, run, discardAll]

/-- While the store cannot be reached, every request is answered, and is told of no success and of
no missing row. If its answer needs the store, it is told that the transaction could not be
completed; if not, the answer is the one that it gets on every store. -/
theorem Backend.Unreachable.answers {σ : Type} {b : Backend σ} (unreachable : b.Unreachable)
    (service : Service) (r : Request) (fresh : Fresh) (now : Timestamp) (s : σ) :
    ∃ response, (b.serve service r fresh now s).2 = .ok response ∧ r.Unserved response ∧
      (service.Asks r fresh now → response = Response.outage.headOnly r.method) ∧
      (¬ service.Asks r fresh now → ∀ store : Store,
        memory.serve service r fresh now store = (store, .ok response)) := by
  by_cases time : service.timeoutSeconds = 0
  · have served {τ : Type} (b : Backend τ) (s : τ) :
        b.serve service r fresh now s = (s, .ok (timeoutOf r)) := by
      simp [Backend.serve, time]
    have status : (timeoutOf r).status = 408 := by
      unfold timeoutOf
      split
      · rfl
      · exact status_naming _ _ _
    exact ⟨timeoutOf r, by rw [served], Request.unserved_of_status (by omega),
      fun asks => absurd time asks.1, fun _ store => served memory store⟩
  · have starts := service.respond_starts r fresh now
    cases h : service.respond r fresh now with
    | overflow why =>
      rw [h] at starts
      cases starts
    | done response =>
      rw [h] at starts
      cases starts with
      | unasked unserved =>
        refine ⟨response, by rw [b.serve_of_done s time h], unserved, ?_, fun _ store =>
          memory.serve_of_done store time h⟩
        rintro ⟨_, c, next, hask⟩
        cases h.symm.trans hask
    | ask c next =>
      rw [h] at starts
      cases starts with
      | asks ticketless stops =>
        refine ⟨_, ?_,
          Request.unserved_of_status (Or.inr (Or.inr (Or.inr (status_outage r.method)))),
          fun _ => rfl, fun unasked => absurd ⟨time, c, next, h⟩ unasked⟩
        obtain ⟨reason, hreason⟩ := unreachable now c s ticketless
        rcases hperform : b.perform now c s with ⟨s', status⟩
        rw [hperform] at hreason
        simp only at hreason
        simp only [Backend.serve, time, if_false, h, Backend.run, hperform, hreason, stops]

def sampleHealth (method : String) : Request := sampleRequest method "/health" ""

theorem asks_sampleHealth (method : String) (h : method = "GET" ∨ method = "HEAD") :
    sampleService.Asks (sampleHealth method) sampleFresh .epoch := by
  have path : Resource.ofPath? (sampleHealth method).path = some .health := by
    rcases h with rfl | rfl <;> decide +kernel
  have endpoint : Resource.health.endpoint? (sampleHealth method).method = some .health := by
    rcases h with rfl | rfl <;> rfl
  refine ⟨by decide, .ping, ?_⟩
  rw [Service.respond_of_caller sampleFresh path rfl endpoint]
  exact ⟨_, rfl⟩

theorem Backend.Unreachable.answers_of_closedPool :
    sampleService.Asks (sampleHealth "GET") sampleFresh .epoch ∧
    ((closedPool : Backend Unit).serve sampleService (sampleHealth "GET") sampleFresh .epoch ()).2 =
      .ok Response.outage := by
  have asks := asks_sampleHealth "GET" (Or.inl rfl)
  obtain ⟨response, served, _, told, _⟩ :=
    unreachable_closedPool.answers sampleService (sampleHealth "GET") sampleFresh .epoch ()
  exact ⟨asks, served.trans (congrArg _ (told asks))⟩

/-- An answer to `HEAD` has no body, so it has no code either. -/
theorem Backend.exists_codeless : ¬ ∀ (service : Service) (r : Request) (fresh : Fresh)
    (now : Timestamp), ∃ response,
    ((closedPool : Backend Unit).serve service r fresh now ()).2 = .ok response ∧
      (response = Response.outage ∨ ∀ store : Store,
        (memory.serve service r fresh now store).2 = .ok response) := by
  intro coded
  obtain ⟨response, served, outage⟩ := coded sampleService (sampleHealth "HEAD") sampleFresh .epoch
  have path : Resource.ofPath? (sampleHealth "HEAD").path = some .health := by decide +kernel
  have respond (now : Timestamp) :
      sampleService.respond (sampleHealth "HEAD") sampleFresh now = _ :=
    Service.respond_of_caller sampleFresh path rfl rfl
  have closed : ((closedPool : Backend Unit).serve sampleService (sampleHealth "HEAD") sampleFresh
      .epoch ()).2 = .ok { Response.outage with body := .empty } := by
    rw [Backend.serve, respond]
    rfl
  have opened : ((memory.serve sampleService (sampleHealth "HEAD") sampleFresh .epoch
      .empty).2.map Response.status).toOption = some 200 := by
    rw [Backend.serve, respond]
    rfl
  cases closed.symm.trans served
  rcases outage with outage | same
  · cases congrArg Response.body outage
  · rw [same .empty] at opened
    cases opened

end Giro
