import Giro.Proofs.Bank

/-!
# Errands at the service

What the users of the service have it do, each with a program of its own: they register, log in,
have tokens renewed, and use their accounts. A desk is a store with the errands that are under way
and all logins that have been given out. `Desk.Run` is any order in which errands arrive and make
their calls, and are finished or dropped. Of all endpoints, the login alone opens sessions:
`Sessionless.perform`.
-/

namespace Giro

open Http

/-! ## What programs ask -/

/-- A program that asks only such calls, whatever it is answered. -/
inductive Program.Asks {α : Type} (P : Call → Prop) : Program α → Prop where
  | done (a : α) : Asks P (.done a)
  | overflow (why : Overflow) : Asks P (.overflow why)
  | ask {c : Call} {next : Except StoreError c.Reply → Program α} (h : P c)
      (rest : ∀ answer, Asks P (next answer)) : Asks P (.ask c next)

namespace Program.Asks

variable {α β ε δ : Type} {P : Call → Prop}

theorem bind {p : Program α} {f : α → Program β} (h : p.Asks P) (rest : ∀ a, (f a).Asks P) :
    (p.bind f).Asks P := by
  induction h with
  | done a => exact rest a
  | overflow why => exact .overflow why
  | ask h _ ih => exact .ask h ih

theorem andThen {a : Attempt ε α} {f : α → Attempt ε β} (h : a.run.Asks P)
    (rest : ∀ x, (f x).run.Asks P) : (a >>= f).run.Asks P := by
  refine h.bind fun r => ?_
  cases r with
  | ok x => exact rest x
  | error e => exact .done _

theorem call {c : Call} (h : P c) : (Attempt.call c).run.Asks P := .ask h fun _ => .done _

theorem mapError {a : Attempt ε α} {f : ε → δ} (h : a.run.Asks P) :
    (Attempt.mapError f a).run.Asks P :=
  h.bind fun _ => .done _

theorem demand {r : Except ε α} : (Attempt.demand r).run.Asks P := .done _

theorem compute {r : Except Overflow α} : (Attempt.compute r : Attempt ε α).run.Asks P := by
  cases r with
  | ok a => exact .done _
  | error why => exact .overflow why

theorem guard {p : Prop} [Decidable p] {e : ε} {f : α → Attempt ε β} {a : Attempt ε β}
    (h : a.run.Asks P) : (if p then throw e >>= f else a).run.Asks P := by
  by_cases hp : p
  · rw [if_pos hp]
    exact .done _
  · rw [if_neg hp]
    exact h

end Program.Asks

/-! ## Sessions are opened by logins -/

def Call.opensSession : Call → Bool
  | .createSession _ => true
  | _ => false

/-- A program that opens no session. -/
def Sessionless {α : Type} (p : Program α) : Prop := p.Asks fun c => c.opensSession = false

namespace Sessionless

open Program.Asks

variable {caller segment : String} {r : Request} {now : Timestamp}

theorem health : Sessionless (Http.health now).run := andThen (mapError (call rfl)) fun _ => .done _

theorem ownedAccount {id : Int} : Sessionless (Http.ownedAccount caller id).run :=
  guard (andThen (mapError (call rfl)) fun _ => guard (.done _))

theorem createAccount : Sessionless (Http.createAccount caller r).run :=
  andThen demand fun _ => andThen demand fun _ => andThen (mapError (call rfl)) fun _ => .done _

theorem listAccounts : Sessionless (Http.listAccounts caller r).run :=
  andThen demand fun _ => andThen demand fun _ => andThen (mapError (call rfl)) fun _ => .done _

theorem getAccount : Sessionless (Http.getAccount caller segment).run :=
  andThen demand fun _ => andThen ownedAccount fun _ => .done _

theorem deleteAccount : Sessionless (Http.deleteAccount caller segment).run :=
  andThen demand fun _ => andThen ownedAccount fun _ => andThen (mapError (call rfl)) fun _ =>
    .done _

theorem listEntries : Sessionless (Http.listEntries caller segment r).run :=
  andThen demand fun _ => andThen demand fun _ => andThen demand fun _ =>
    andThen ownedAccount fun _ => andThen (mapError (call rfl)) fun _ => .done _

theorem getTransfer : Sessionless (Http.getTransfer caller segment).run :=
  andThen demand fun _ => andThen (mapError (call rfl)) fun _ =>
    andThen (mapError (call rfl)) fun _ => andThen (mapError (call rfl)) fun _ => guard (.done _)

theorem register {r : Registration} {salt : List UInt8} :
    Sessionless (Giro.register r salt).run :=
  andThen demand fun _ => mapError (call rfl)

theorem renew {service : Service} {token : String} {id : Uuid} :
    Sessionless (service.renew token id now).run :=
  andThen demand fun _ => andThen (mapError (call rfl)) fun _ => andThen demand fun _ =>
    andThen compute fun _ => .done _

theorem post {o : TransferOrder} : Sessionless o.post.run := by
  have moveMoney (t : Nat) : Sessionless (o.moveMoney t).run := by
    rw [o.moveMoney_eq]
    exact andThen (call rfl) fun _ => andThen (call rfl) fun _ => .done _
  have stage (t : Nat) : Sessionless (o.stage t).run :=
    andThen (call rfl) fun _ => andThen (call rfl) fun _ => andThen (call rfl) fun _ =>
      andThen (moveMoney t) fun _ => .done _
  refine andThen demand fun _ => .ask rfl fun answer => ?_
  cases answer with
  | error e => exact .done _
  | ok t =>
    refine (stage t).bind fun result => ?_
    cases result with
    | ok p => exact .ask rfl fun answer => by cases answer <;> exact .done _
    | error cause => exact .ask rfl fun answer => by cases answer <;> exact .done _

theorem accountIn {currency : Currency} {id : Int} :
    Sessionless (Payment.accountIn currency id).run :=
  andThen (mapError (call rfl)) fun _ => guard (.done _)

theorem createTransfer : Sessionless (Http.createTransfer caller r).run := by
  refine andThen demand fun fields => andThen (mapError ?_) fun _ => .done _
  exact andThen demand fun _ => andThen accountIn fun _ => guard (andThen accountIn fun _ =>
    mapError post)

/-- Of all endpoints one opens sessions. -/
theorem perform (service : Service) {e : Endpoint} (other : e ≠ .login) (fresh : Fresh) :
    Sessionless (Http.perform service e caller segment r fresh now).run := by
  cases e with
  | login => exact absurd rfl other
  | health => exact health
  | register => exact andThen demand fun _ => andThen (mapError register) fun _ => .done _
  | renew => exact andThen demand fun _ => andThen (mapError renew) fun _ => .done _
  | createAccount => exact createAccount
  | listAccounts => exact listAccounts
  | getAccount => exact getAccount
  | deleteAccount => exact deleteAccount
  | listEntries => exact listEntries
  | createTransfer => exact createTransfer
  | getTransfer => exact getTransfer

end Sessionless

/-! ## Desks -/

/-- What somebody has the service do. -/
inductive Errand where
  | login (client : Client) (c : Credentials) (fresh : Fresh)
  | renew (token : String) (id : Uuid)
  | register (r : Registration) (salt : List UInt8)
  | other (e : Endpoint) (apart : e ≠ .login) (caller segment : String) (r : Request)
    (fresh : Fresh)

/-- What is done for an errand, and the login that comes of it. -/
def Errand.program (service : Service) (now : Timestamp) : Errand → Program (Option Login)
  | .login client c fresh =>
    (service.login client c fresh now).run.bind fun result => .done result.toOption
  | .renew token id => (service.renew token id now).run.bind fun _ => .done none
  | .register r salt => (Giro.register r salt).run.bind fun _ => .done none
  | .other e _ caller segment r fresh =>
    (perform service e caller segment r fresh now).run.bind fun _ => .done none

/-- A store, the errands under way, and all logins that have been given out, the latest last. -/
structure Desk where
  store : Store
  tasks : List (Task (Option Login)) := []
  logins : List Login := []

namespace Desk

inductive Step (service : Service) : Desk → Desk → Prop where
  | arrive {s : Store} {ts : List (Task (Option Login))} {ls : List Login} (errand : Errand)
      {now : Timestamp} (later : Timestamp.epoch ≤ now) :
      Step service ⟨s, ts, ls⟩ ⟨s, ts ++ [⟨errand.program service now, none, []⟩], ls⟩
  | advance {s s' : Store} {before after : List (Task (Option Login))} {ls : List Login}
      {t rest : Task (Option Login)} {now : Timestamp}
      (h : Backend.memory.step now t s = (s', .blocked rest)) :
      Step service ⟨s, before ++ t :: after, ls⟩ ⟨s', before ++ rest :: after, ls⟩
  | finish {s s' : Store} {before after : List (Task (Option Login))} {ls : List Login}
      {t : Task (Option Login)} {now : Timestamp} {result : Option Login}
      (h : Backend.memory.step now t s = (s', .finished result)) :
      Step service ⟨s, before ++ t :: after, ls⟩ ⟨s', before ++ after, ls ++ result.toList⟩
  | overflow {s s' : Store} {before after : List (Task (Option Login))} {ls : List Login}
      {t : Task (Option Login)} {now : Timestamp} {why : Overflow}
      (h : Backend.memory.step now t s = (s', .overflow why)) :
      Step service ⟨s, before ++ t :: after, ls⟩ ⟨s', before ++ after, ls⟩
  | cancel {s : Store} {before after : List (Task (Option Login))} {ls : List Login}
      {t : Task (Option Login)} :
      Step service ⟨s, before ++ t :: after, ls⟩ ⟨Backend.memory.cancel t s, before ++ after, ls⟩

/-- What can come of an empty store, whoever comes and in whatever order they make their calls. -/
inductive Run (service : Service) : Desk → Prop where
  | start : Run service ⟨.empty, [], []⟩
  | step {d d' : Desk} (run : Run service d) (step : Step service d d') : Run service d'

end Desk
end Giro
