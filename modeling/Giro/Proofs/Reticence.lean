import Giro.Backend.Faults
import Giro.Proofs.Clients
import Giro.Proofs.Discretion
import Giro.Store.Database

/-!
# What clients learn of a database's failures

A database puts its failures into words, and those words stay inside: of two errors that differ in
them alone, a client is told the same. A client is told that the transaction could not be completed
exactly for errors after which trying again may help, which the three lost races and the lost
connections are: `StoreError.reticent`. What holds of one error holds of a whole service. Whatever
calls of its store fail, the answers to all requests are those that it would give if the failures
were in other words: `Backend.serveAll_sameButWords`.
-/

namespace Giro

open Http

/-! ## Failures without their words -/

namespace DatabaseFailure

/-- The failure without the names, numbers and messages that go into its text. -/
def wordless : DatabaseFailure → DatabaseFailure
  | .report code kind _ => .report code kind ""
  | .connection _ => .connection ""
  | .encryption _ => .encryption ""
  | .protocol _ => .protocol ""
  | .migration _ => .migration ""
  | .configuration _ => .configuration ""
  | .invalidArgument _ => .invalidArgument ""
  | .typeNotFound _ => .typeNotFound ""
  | .columnNotFound _ => .columnNotFound ""
  | .columnOutOfBounds _ _ => .columnOutOfBounds 0 0
  | .columnDecode _ _ => .columnDecode "" ""
  | .encode _ => .encode ""
  | .decode _ => .decode ""
  | .driver _ => .driver ""
  | f@.rowNotFound | f@.poolTimedOut | f@.poolClosed | f@.workerCrashed => f
  | f@.invalidSavepoint | f@.beginFailed => f

/-- Lost races, whatever constraint they are reported for, and lost connections. -/
inductive IsTransient : DatabaseFailure → Prop where
  | serialization (kind : ReportedKind) (m : String) : IsTransient (.report (some "40001") kind m)
  | deadlock (kind : ReportedKind) (m : String) : IsTransient (.report (some "40P01") kind m)
  | lock (kind : ReportedKind) (m : String) : IsTransient (.report (some "55P03") kind m)
  | connection (m : String) : IsTransient (.connection m)
  | encryption (m : String) : IsTransient (.encryption m)
  | protocol (m : String) : IsTransient (.protocol m)
  | poolTimedOut : IsTransient .poolTimedOut
  | poolClosed : IsTransient .poolClosed
  | workerCrashed : IsTransient .workerCrashed

theorem lostRace_iff {code : Option String} : (code.map lostRaceCodes.contains).getD false = true ↔
    code = some "40001" ∨ code = some "40P01" ∨ code = some "55P03" := by
  cases code with
  | none => simp
  | some code => simp [lostRaceCodes]

theorem isTransactionError_report_iff {code : Option String} {kind : ReportedKind} {m : String} :
    (report code kind m).toStoreError.isTransactionError ↔
      code = some "40001" ∨ code = some "40P01" ∨ code = some "55P03" := by
  rw [← lostRace_iff, toStoreError]
  split <;> simp_all [StoreError.isTransactionError]

theorem isTransactionError_iff (f : DatabaseFailure) :
    f.toStoreError.isTransactionError ↔ f.IsTransient := by
  constructor
  · intro h
    cases f with
    | report code kind m =>
      rcases isTransactionError_report_iff.mp h with rfl | rfl | rfl
      · exact .serialization kind m
      · exact .deadlock kind m
      · exact .lock kind m
    | connection => exact .connection _
    | encryption => exact .encryption _
    | protocol => exact .protocol _
    | poolTimedOut => exact .poolTimedOut
    | poolClosed => exact .poolClosed
    | workerCrashed => exact .workerCrashed
    | _ => cases h
  · intro h
    cases h with
    | serialization | deadlock | lock => exact isTransactionError_report_iff.mpr (by simp)
    | _ => rfl

end DatabaseFailure

/-! ## Errors -/

/-- How the service passes on an error of its store: as it is, unless a row that was looked for is
missing. -/
inductive Refusal.Passes : (StoreError → Refusal) → Prop where
  | store : Passes .store
  | lookup (what : Subject) : Passes (ofLookup what)

/-- Errors that differ at most in the words of a database, and in what came on top of its
failure. -/
inductive StoreError.SameButWords : StoreError → StoreError → Prop where
  | same (e : StoreError) : SameButWords e e
  | failure {f g : DatabaseFailure} (h : f.wordless = g.wordless) :
      SameButWords f.toStoreError g.toStoreError
  | cause {e e' : StoreError} (h : SameButWords e e') (r r' : StoreError) :
      SameButWords (.rollbackFailed e r) (.rollbackFailed e' r')
  | rollback {e e' : StoreError} (h : SameButWords e e') (c c' : StoreError) :
      SameButWords (.rollbackFailed c e) (.rollbackFailed c' e')

namespace Refusal.Passes

variable {refuse : StoreError → Refusal} (passes : Passes refuse)
include passes

theorem notice_rollbackFailed (c c' r r' : StoreError) :
    (refuse (.rollbackFailed c r)).notice = (refuse (.rollbackFailed c' r')).notice := by
  cases passes <;> rfl

theorem notice_wordless (f : DatabaseFailure) :
    (refuse f.wordless.toStoreError).notice = (refuse f.toStoreError).notice := by
  cases f with
  | report code kind m =>
    simp only [DatabaseFailure.wordless, DatabaseFailure.toStoreError]
    cases passes <;> split <;> rfl
  | _ => cases passes <;> rfl

/-- The words decide nothing. -/
theorem notice_eq {e e' : StoreError} (h : e.SameButWords e') :
    (refuse e).notice = (refuse e').notice := by
  cases h with
  | same => rfl
  | @failure f g same => rw [← passes.notice_wordless f, same, passes.notice_wordless g]
  | cause | rollback => exact passes.notice_rollbackFailed _ _ _ _

theorem code_eq_iff (e : StoreError) :
    (refuse e).notice.code = "transaction_error" ↔ e.isTransactionError := by
  have told : e.notice.code = "transaction_error" ↔ e.isTransactionError := by
    cases e with
    | constraint breach =>
      cases h : breach.constraint <;> simp [StoreError.notice, StoreError.isTransactionError, h]
    | _ => simp [StoreError.notice, StoreError.isTransactionError]
  cases passes with
  | store => exact told
  | lookup what =>
    cases e with
    | notFound => simp [ofLookup, notice, StoreError.isTransactionError]
    | _ => exact told

end Refusal.Passes

/-- A client is told the same of errors that differ in the words of a database alone, and is told
that the transaction failed exactly if it did. An error that comes straight from the database says
so exactly for lost races and lost connections. -/
theorem StoreError.reticent {refuse : StoreError → Refusal} (passes : Refusal.Passes refuse) :
    (∀ e e' : StoreError, e.SameButWords e' →
      (Failure.refused (refuse e)).response = (Failure.refused (refuse e')).response) ∧
    (∀ e : StoreError, (Failure.refused (refuse e)).response.code? = some "transaction_error" ↔
      e.isTransactionError) ∧
    ∀ f : DatabaseFailure, f.toStoreError.isTransactionError ↔ f.IsTransient := by
  refine ⟨fun e e' same => ?_, fun e => ?_, DatabaseFailure.isTransactionError_iff⟩
  · exact congrArg Response.ofNotice (passes.notice_eq same)
  · rw [Failure.response, Response.code?_ofNotice, Option.some.injEq]
    exact passes.code_eq_iff e

def sampleDeadlock (words : String) : DatabaseFailure := .report (some "40P01") .unique words

/-- The rollback meets a deadlock. Another time it does so after another cause, and in other
words. -/
theorem StoreError.reticent_of_deadlock : ∃ e e' : StoreError,
    e = .rollbackFailed (.notFound (.account 9)) (sampleDeadlock "deadlock detected").toStoreError ∧
    e' = .rollbackFailed (.aborted "reset") (sampleDeadlock "circular wait").toStoreError ∧
    Refusal.Passes .store ∧ e.SameButWords e' ∧
    (Failure.refused (.store e)).response = (Failure.refused (.store e')).response ∧
    (Failure.refused (.store e)).response.code? = some "transaction_error" ∧
    ∀ words, (sampleDeadlock words).toStoreError.isTransactionError := by
  obtain ⟨silent, told, transient⟩ := reticent .store
  have same : (sampleDeadlock "deadlock detected").toStoreError.SameButWords
    (sampleDeadlock "circular wait").toStoreError := .failure rfl
  exact ⟨_, _, rfl, rfl, .store, same.rollback _ _, silent _ _ (same.rollback _ _),
    (told _).mpr rfl, fun words => (transient _).mpr (.deadlock .unique words)⟩

/-! ## Programs -/

section Programs

variable {α β δ ε : Type}

/-- The same value, or errors that are alike. -/
inductive Agree (like : ε → ε → Prop) : Except ε α → Except ε α → Prop where
  | ok (a : α) : Agree like (.ok a) (.ok a)
  | error {e e' : ε} (h : like e e') : Agree like (.error e) (.error e')

/-- Programs that ask the same calls, and go on alike when the answers differ in words alone. -/
inductive Echoes (rel : α → α → Prop) : Program α → Program α → Prop where
  | done {a b : α} (h : rel a b) : Echoes rel (.done a) (.done b)
  | overflow (why : Overflow) : Echoes rel (.overflow why) (.overflow why)
  | ask {c : Call} {next next' : Except StoreError c.Reply → Program α}
      (h : ∀ x y, Agree StoreError.SameButWords x y → Echoes rel (next x) (next' y)) :
      Echoes rel (.ask c next) (.ask c next')

theorem Agree.refl {like : ε → ε → Prop} (refl : ∀ e, like e e) (x : Except ε α) :
    Agree like x x := by
  cases x with
  | ok a => exact .ok a
  | error e => exact .error (refl e)

theorem Echoes.bind {rel : α → α → Prop} {rel' : β → β → Prop} {p q : Program α}
    {f g : α → Program β} (h : Echoes rel p q) (hf : ∀ a b, rel a b → Echoes rel' (f a) (g b)) :
    Echoes rel' (p.bind f) (q.bind g) := by
  induction h with
  | done h => exact hf _ _ h
  | overflow why => exact .overflow why
  | ask h ih => exact .ask fun x y agree => ih x y agree

/-- An attempt that does not depend on words, but for which of alike errors it ends with. -/
def Reticent (like : ε → ε → Prop) (a : Attempt ε α) : Prop := Echoes (Agree like) a.run a.run

namespace Reticent

variable {like : ε → ε → Prop} {like' : δ → δ → Prop}

theorem pure (a : α) : Reticent like (pure a : Attempt ε α) := .done (.ok a)

theorem demand (refl : ∀ e, like e e) (r : Except ε α) : Reticent like (Attempt.demand r) :=
  .done (.refl refl r)

theorem compute (r : Except Overflow α) : Reticent like (Attempt.compute r : Attempt ε α) := by
  cases r with
  | ok a => exact .done (.ok a)
  | error why => exact .overflow why

theorem call (c : Call) : Reticent StoreError.SameButWords (Attempt.call c) :=
  .ask fun _ _ agree => .done agree

theorem bind {a : Attempt ε α} {f : α → Attempt ε β} (ha : Reticent like a)
    (hf : ∀ x, Reticent like (f x)) : Reticent like (a >>= f) := by
  refine Echoes.bind ha fun x y agree => ?_
  cases agree with
  | ok x => exact hf x
  | error h => exact .done (.error h)

theorem mapError {a : Attempt ε α} {g : ε → δ} (hg : ∀ e e', like e e' → like' (g e) (g e'))
    (ha : Reticent like a) : Reticent like' (Attempt.mapError g a) := by
  refine Echoes.bind ha fun x y agree => .done ?_
  cases agree with
  | ok x => exact .ok x
  | error h => exact .error (hg _ _ h)

theorem guard {p : Prop} [Decidable p] (refl : ∀ e, like e e) {e : ε} {f : α → Attempt ε β}
    {a : Attempt ε β} (h : Reticent like a) : Reticent like (if p then throw e >>= f else a) := by
  split
  · exact .done (.error (refl e))
  · exact h

theorem atomically {body : Nat → Attempt StoreError α}
    (h : ∀ ticket, Reticent StoreError.SameButWords (body ticket)) :
    Reticent StoreError.SameButWords (Attempt.atomically body) := by
  refine .ask fun x y begun => ?_
  cases begun with
  | error h => exact .done (.error h)
  | ok ticket =>
    refine Echoes.bind (h ticket) fun x y done => ?_
    cases done with
    | ok a =>
      refine .ask fun x y committed => ?_
      cases committed with
      | ok => exact .done (.ok a)
      | error h => exact .done (.error h)
    | error cause =>
      refine .ask fun x y rolledBack => ?_
      cases rolledBack with
      | ok => exact .done (.error cause)
      | error => exact .done (.error (.cause cause _ _))

end Reticent

end Programs

/-! ## The service -/

theorem TransferOrder.post_reticent (o : TransferOrder) :
    Reticent StoreError.SameButWords o.post := by
  have addMoney (ticket : Nat) (first : Int) (x : Amount) (second : Int) (y : Amount) :
      Reticent StoreError.SameButWords (addMoney ticket first x second y) :=
    .bind (.call _) fun _ => .bind (.call _) fun _ => .pure _
  have moveMoney (ticket : Nat) : Reticent StoreError.SameButWords (o.moveMoney ticket) := by
    unfold TransferOrder.moveMoney
    split
    · exact addMoney _ _ _ _ _
    · exact .bind (addMoney _ _ _ _ _) fun _ => .pure _
  refine .bind (.demand .same _) fun _ => .atomically fun ticket => ?_
  exact .bind (.call _) fun _ => .bind (.call _) fun _ => .bind (.call _) fun _ =>
    .bind (moveMoney ticket) fun _ => .pure _

/-- Refusals of which a client is told the same. -/
def Refusal.SameNotice (why why' : Refusal) : Prop := why.notice = why'.notice

/-- Failures that are answered the same. -/
def Http.Failure.SameResponse (f f' : Failure) : Prop := f.response = f'.response

theorem Refusal.SameNotice.refl (why : Refusal) : why.SameNotice why := rfl

theorem Http.Failure.SameResponse.refl (f : Failure) : f.SameResponse f := rfl

theorem Reticent.passes {α : Type} {a : Attempt StoreError α} {refuse : StoreError → Refusal}
    (passes : Refusal.Passes refuse) (h : Reticent StoreError.SameButWords a) :
    Reticent Refusal.SameNotice (Attempt.mapError refuse a) :=
  h.mapError fun _ _ same => passes.notice_eq same

theorem Reticent.refused {α : Type} {a : Attempt Refusal α} (h : Reticent Refusal.SameNotice a) :
    Reticent Failure.SameResponse (Attempt.mapError .refused a) :=
  h.mapError fun _ _ same => congrArg Response.ofNotice same

theorem Payment.execute_reticent (p : Payment) (caller : String) :
    Reticent Refusal.SameNotice (p.execute caller) := by
  have accountIn (currency : Currency) (id : Int) :
      Reticent Refusal.SameNotice (accountIn currency id) :=
    .bind (.passes (.lookup _) (.call _)) fun _ => .guard .refl (.pure _)
  refine .bind (.demand .refl _) fun currency => .bind (accountIn currency _) fun source => ?_
  refine .guard .refl (.bind (accountIn currency _) fun _ => ?_)
  exact .passes .store p.order.post_reticent

theorem register_reticent (r : Registration) (salt : List UInt8) :
    Reticent Refusal.SameNotice (register r salt) :=
  .bind (.demand .refl _) fun _ => .passes .store (.call _)

theorem Service.login_reticent (service : Service) (client : Client) (c : Credentials)
    (fresh : Fresh) (now : Timestamp) :
    Reticent Refusal.SameNotice (service.login client c fresh now) := by
  refine .bind (.demand .refl _) fun _ => .bind (.passes (.lookup _) (.call _)) fun user => ?_
  refine .bind (.compute _) fun verdict => .bind (.demand .refl _) fun _ => ?_
  refine .bind (.compute _) fun access => .bind (.compute _) fun refresh => ?_
  exact .bind (.passes .store (.call _)) fun _ => .pure _

theorem Service.renew_reticent (service : Service) (token : String) (id : Uuid) (now : Timestamp) :
    Reticent Refusal.SameNotice (service.renew token id now) := by
  refine .bind (.demand .refl _) fun payload => ?_
  refine .bind (.passes (.lookup _) (.call _)) fun session => ?_
  exact .bind (.demand .refl _) fun _ => .bind (.compute _) fun _ => .pure _

namespace Http

variable {α : Type}

theorem reads_reticent (part : Except Rejection α) : Reticent Failure.SameResponse (reads part) :=
  .demand .refl _

theorem checks_reticent (check : Except Invalid α) : Reticent Failure.SameResponse (checks check) :=
  .demand .refl _

theorem asks_reticent (c : Call) : Reticent Failure.SameResponse (asks c) :=
  (Reticent.call c).mapError fun _ _ same =>
    congrArg Response.ofNotice (Refusal.Passes.store.notice_eq same)

theorem looksUp_reticent (what : Subject) (c : Call) :
    Reticent Failure.SameResponse (looksUp what c) :=
  (Reticent.call c).mapError fun _ _ same =>
    congrArg Response.ofNotice ((Refusal.Passes.lookup what).notice_eq same)

theorem ownedAccount_reticent (caller : String) (id : Int) :
    Reticent Failure.SameResponse (ownedAccount caller id) :=
  .guard .refl (.bind (looksUp_reticent _ _) fun _ => .guard .refl (.pure _))

theorem perform_reticent (service : Service) (endpoint : Endpoint) (caller segment : String)
    (r : Request) (fresh : Fresh) (now : Timestamp) :
    Reticent Failure.SameResponse (perform service endpoint caller segment r fresh now) := by
  cases endpoint with
  | health => exact .bind (asks_reticent _) fun _ => .pure _
  | register =>
    exact .bind (reads_reticent _) fun _ =>
      .bind (.refused (register_reticent _ _)) fun _ => .pure _
  | login =>
    exact .bind (reads_reticent _) fun _ =>
      .bind (.refused (service.login_reticent _ _ _ _)) fun _ => .pure _
  | renew =>
    exact .bind (reads_reticent _) fun _ =>
      .bind (.refused (service.renew_reticent _ _ _)) fun _ => .pure _
  | createAccount =>
    exact .bind (reads_reticent _) fun _ => .bind (checks_reticent _) fun _ =>
      .bind (asks_reticent _) fun _ => .pure _
  | listAccounts =>
    exact .bind (reads_reticent _) fun _ => .bind (checks_reticent _) fun _ =>
      .bind (asks_reticent _) fun _ => .pure _
  | getAccount =>
    exact .bind (reads_reticent _) fun _ => .bind (ownedAccount_reticent _ _) fun _ => .pure _
  | deleteAccount =>
    exact .bind (reads_reticent _) fun _ => .bind (ownedAccount_reticent _ _) fun _ =>
      .bind (looksUp_reticent _ _) fun _ => .pure _
  | listEntries =>
    exact .bind (reads_reticent _) fun _ => .bind (reads_reticent _) fun _ =>
      .bind (checks_reticent _) fun _ => .bind (ownedAccount_reticent _ _) fun _ =>
        .bind (asks_reticent _) fun _ => .pure _
  | createTransfer =>
    exact .bind (reads_reticent _) fun _ =>
      .bind (.refused (Payment.execute_reticent _ _)) fun _ => .pure _
  | getTransfer =>
    exact .bind (reads_reticent _) fun _ => .bind (looksUp_reticent _ _) fun _ =>
      .bind (asks_reticent _) fun _ => .bind (asks_reticent _) fun _ =>
        .guard .refl (.pure _)

theorem settled_echoes {a : Attempt Failure Response} (h : Reticent Failure.SameResponse a) :
    Echoes Eq (settled a) (settled a) := by
  refine Echoes.bind h fun x y agree => ?_
  cases agree with
  | ok response => exact .done rfl
  | error same => exact .done same

end Http

/-- The program of a request goes on with the same calls, and ends with the same response, in
whatever words the store's failures are told. -/
theorem Service.respond_echoes (service : Service) (r : Request) (fresh : Fresh) (now : Timestamp) :
    Echoes Eq (service.respond r fresh now) (service.respond r fresh now) := by
  cases path : Resource.ofPath? r.path with
  | none =>
    simp only [Service.respond, path]
    exact .done rfl
  | some resource =>
    have respondAt : Echoes Eq (service.respondAt resource r fresh now)
        (service.respondAt resource r fresh now) := by
      unfold Service.respondAt
      split
      · exact .done rfl
      · exact .done rfl
      · exact settled_echoes (perform_reticent _ _ _ _ _ _ _)
    simp only [Service.respond, path]
    exact respondAt.bind fun _ _ same => .done (by rw [same])

/-! ## Stores that fail -/

section Backends

variable {σ τ α : Type}

/-- Answers that differ in words alone, or the same wait. -/
inductive Store.Status.SameButWords : Store.Status α → Store.Status α → Prop where
  | answered {x y : Except StoreError α} (h : Agree StoreError.SameButWords x y) :
      SameButWords (.answered x) (.answered y)
  | waiting (r : LockRequest) : SameButWords (.waiting r) (.waiting r)

/-- One backend does to its state what the other does to its own, but for words. -/
structure Backend.Mirrors (b : Backend σ) (b' : Backend τ) (like : σ → τ → Prop) : Prop where
  perform : ∀ now c s t, like s t → like (b.perform now c s).1 (b'.perform now c t).1 ∧
    (b.perform now c s).2.SameButWords (b'.perform now c t).2
  withdraw : ∀ r s t, like s t → like (b.withdraw r s) (b'.withdraw r t)
  discard : ∀ ticket s t, like s t → like (b.discard ticket s) (b'.discard ticket t)

/-- Ends of runs that are told apart by nothing but words: a run that waits leaves the same
behind. -/
inductive Outcome.Alike : Outcome α → Outcome α → Prop where
  | finished (a : α) : Alike (.finished a) (.finished a)
  | overflow (why : Overflow) : Alike (.overflow why) (.overflow why)
  | blocked (p q : Program α) (r : LockRequest) (opened : List Nat) :
      Alike (.blocked ⟨p, some r, opened⟩) (.blocked ⟨q, some r, opened⟩)

theorem Call.track_eq {c : Call} {x y : Except StoreError c.Reply}
    (agree : Agree StoreError.SameButWords x y) (opened : List Nat) :
    c.track x opened = c.track y opened := by
  cases agree with
  | ok => rfl
  | error => cases c <;> rfl

namespace Backend.Mirrors

variable {b : Backend σ} {b' : Backend τ} {like : σ → τ → Prop} (mirrors : b.Mirrors b' like)
include mirrors

theorem discardAll (tickets : List Nat) {s : σ} {t : τ} (h : like s t) :
    like (b.discardAll tickets s) (b'.discardAll tickets t) := by
  induction tickets generalizing s t with
  | nil => exact h
  | cons ticket tickets ih => exact ih (mirrors.discard ticket s t h)

theorem run {p q : Program α} (echoes : Echoes Eq p q) (now : Timestamp) (opened : List Nat)
    {s : σ} {t : τ} (h : like s t) :
    like (b.run now p opened s).1 (b'.run now q opened t).1 ∧
    (b.run now p opened s).2.Alike (b'.run now q opened t).2 := by
  induction echoes generalizing opened s t with
  | @done a _ same =>
    subst same
    exact ⟨mirrors.discardAll opened h, .finished a⟩
  | overflow why => exact ⟨mirrors.discardAll opened h, .overflow why⟩
  | @ask c next next' _ ih =>
    have step := mirrors.perform now c s t h
    rcases hs : b.perform now c s with ⟨s', status⟩
    rcases ht : b'.perform now c t with ⟨t', status'⟩
    rw [hs, ht] at step
    obtain ⟨h', same⟩ := step
    simp only [Backend.run, hs, ht]
    cases same with
    | @answered x y agree =>
      simp only [Call.track_eq agree]
      exact ih x y agree _ h'
    | waiting r => exact ⟨h', .blocked _ _ r opened⟩

theorem serve (service : Service) (v : Arrival) {s : σ} {t : τ} (h : like s t) :
    like (b.serve service v.request v.fresh v.now s).1
      (b'.serve service v.request v.fresh v.now t).1 ∧
    (b.serve service v.request v.fresh v.now s).2 =
      (b'.serve service v.request v.fresh v.now t).2 := by
  have run := mirrors.run (service.respond_echoes v.request v.fresh v.now) v.now [] h
  unfold Backend.serve
  split
  · exact ⟨h, rfl⟩
  · rcases hs : b.run v.now (service.respond v.request v.fresh v.now) [] s with ⟨s', outcome⟩
    rcases ht : b'.run v.now (service.respond v.request v.fresh v.now) [] t with ⟨t', outcome'⟩
    rw [hs, ht] at run
    obtain ⟨h', alike⟩ := run
    cases alike with
    | finished | overflow => exact ⟨h', rfl⟩
    | blocked p q r opened =>
      exact ⟨mirrors.discardAll opened (mirrors.withdraw r _ _ h'), rfl⟩

theorem serveAll (service : Service) (vs : List Arrival) {s : σ} {t : τ} (h : like s t) :
    like (b.serveAll service vs s).1 (b'.serveAll service vs t).1 ∧
    (b.serveAll service vs s).2 = (b'.serveAll service vs t).2 := by
  induction vs generalizing s t with
  | nil => exact ⟨h, rfl⟩
  | cons v vs ih =>
    obtain ⟨h', answer⟩ := mirrors.serve service v h
    obtain ⟨last, answers⟩ := ih h'
    exact ⟨last, congrArg₂ List.cons answer answers⟩

end Backend.Mirrors

/-- Faults that plan the same failures in other words. -/
structure Fault.SameButWords (f g : Fault) : Prop where
  kind : f.kind = g.kind
  skip : f.skip = g.skip
  error : f.error.SameButWords g.error

structure Observed.SameButWords (s t : Observed σ) : Prop where
  inner : s.inner = t.inner
  faults : List.Forall₂ Fault.SameButWords s.faults t.faults
  log : s.log = t.log

/-- The same fault fires, if one does. -/
theorem Fault.strike_sameButWords {fs gs : List Fault} (h : List.Forall₂ Fault.SameButWords fs gs)
    (kind : CallKind) :
    Option.Rel StoreError.SameButWords (strike kind fs).1 (strike kind gs).1 ∧
    List.Forall₂ Fault.SameButWords (strike kind fs).2 (strike kind gs).2 := by
  induction h with
  | nil => exact ⟨.none, .nil⟩
  | @cons f g fs gs same rest ih =>
    simp only [strike, ← same.kind, ← same.skip]
    split_ifs
    · exact ⟨.some same.error, rest⟩
    · exact ⟨.none, .cons ⟨rfl, rfl, same.error⟩ rest⟩
    · exact ⟨ih.1, .cons same ih.2⟩

theorem Backend.observed_mirrors (b : Backend σ) :
    b.observed.Mirrors b.observed Observed.SameButWords where
  perform := by
    rintro now c ⟨inner, faults, log⟩ ⟨_, faults', _⟩ ⟨rfl, hfaults, rfl⟩
    obtain ⟨fired, rest⟩ := Fault.strike_sameButWords hfaults c.kind
    simp only [observed]
    rcases hf : Fault.strike c.kind faults with ⟨error, left⟩
    rcases hg : Fault.strike c.kind faults' with ⟨error', left'⟩
    rw [hf, hg] at fired rest
    cases fired with
    | some same => exact ⟨⟨rfl, rest, rfl⟩, .answered (.error same)⟩
    | none =>
      refine ⟨⟨rfl, rest, rfl⟩, ?_⟩
      cases (b.perform now c inner).2 with
      | answered x => exact .answered (.refl .same x)
      | waiting r => exact .waiting r
  withdraw := by
    rintro r ⟨inner, faults, log⟩ ⟨_, faults', _⟩ ⟨rfl, hfaults, rfl⟩
    exact ⟨rfl, hfaults, rfl⟩
  discard := by
    rintro ticket ⟨inner, faults, log⟩ ⟨_, faults', _⟩ ⟨rfl, hfaults, rfl⟩
    exact ⟨rfl, hfaults, rfl⟩

/-- Whichever calls of a store fail, and however their failures are wrapped, no answer to a client
depends on the words in which the database told them. -/
theorem Backend.serveAll_sameButWords (b : Backend σ) {s t : Observed σ} (h : s.SameButWords t)
    (service : Service) (vs : List Arrival) :
    (b.observed.serveAll service vs s).2 = (b.observed.serveAll service vs t).2 ∧
    (b.observed.serveAll service vs s).1.SameButWords (b.observed.serveAll service vs t).1 :=
  (b.observed_mirrors.serveAll service vs h).symm

end Backends

end Giro
