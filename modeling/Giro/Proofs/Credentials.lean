import Mathlib.Logic.Relation
import Giro.Proofs.Sessions

/-!
# Registered credentials

A user who has registered is never changed or removed, whatever is asked of the service afterwards.
So the registered password, hashed with any salt that a record can hold, logs the user in at any
later time, and another password does so exactly if it is long enough and has the same digest;
otherwise the login is refused for the password and leaves the store as it is:
`Service.login_exact`.
-/

namespace Giro

open Http

/-! ## Users stay -/

theorem Store.users_of_tables {s s' : Store} (h : s'.tables = s.tables) :
    s.tables.users <+: s'.tables.users :=
  h ▸ List.prefix_refl _

theorem Backend.users_step {α : Type} {t : Task α} {s s' : Store} {now : Timestamp}
    {outcome : Outcome α} (h : memory.step now t s = (s', outcome)) :
    s.tables.users <+: s'.tables.users := by
  obtain ⟨program, w, opened⟩ := t
  cases program with
  | done a => exact Store.users_of_tables (tables_proceed (p := .done a) h)
  | overflow why => exact Store.users_of_tables (tables_proceed (p := .overflow why) h)
  | ask c next =>
    rcases hpoll : memory.poll now w c s with ⟨s₁, answer | q⟩
    · rw [step_of_answered hpoll] at h
      rw [tables_proceed h]
      exact (Store.keepsPeople_poll hpoll).users
    · rw [step_of_waiting hpoll] at h
      cases h
      exact (Store.keepsPeople_poll hpoll).users

/-- What can come of a bank, whichever requests arrive and in whatever order they make their
calls. -/
def Bank.Reaches (service : Service) : Bank → Bank → Prop :=
  Relation.ReflTransGen fun b b' => ∃ v, Bank.Step service b v b'

theorem Bank.Step.users {service : Service} {b b' : Bank} {v : Visit}
    (step : Bank.Step service b v b') : b.store.tables.users <+: b'.store.tables.users := by
  cases step with
  | arrive => exact List.prefix_refl _
  | advance h | answer h | overflow h => exact Backend.users_step h
  | timeout => exact Store.users_of_tables (tables_cancel _ _)

theorem Bank.Reaches.users {service : Service} {b b' : Bank} (h : Reaches service b b') :
    b.store.tables.users <+: b'.store.tables.users := by
  induction h with
  | refl => exact List.prefix_refl _
  | tail _ step ih =>
    obtain ⟨v, step⟩ := step
    exact ih.trans step.users

theorem Tables.user?_of_prefix {t t' : Tables} {username : String} {u : User}
    (added : t.users <+: t'.users) (found : t.user? username = some u) :
    t'.user? username = some u := by
  obtain ⟨new, hnew⟩ := added
  rw [user?, ← hnew, List.find?_append]
  exact Option.or_eq_some_iff.mpr (Or.inl found)

/-! ## Registrations -/

theorem Registration.valid_of_check {r : Registration} (valid : r.check = .ok ()) :
    isUsername r.username ∧ isPassword r.password := by
  have credentials := check_credentials valid
  unfold Credentials.check at credentials
  split_ifs at credentials with username password
  exact ⟨by simpa using username, by simpa using password⟩

/-- With a registered name, only the length of the password is checked. -/
theorem Registration.check_password {r : Registration} (valid : r.check = .ok ())
    (password : String) :
    Credentials.check ⟨r.username, password⟩ =
      if isPassword password then .ok () else .error .password := by
  rw [Credentials.check, (valid_of_check valid).1]
  cases isPassword password <;> rfl

theorem run_register_eq_ok {r : Registration} {salt : List UInt8} {s s' : Store} {t : Timestamp}
    {u : User}
    (h : Backend.memory.run t (register r salt).run [] s = (s', .finished (.ok u))) :
    r.check = .ok () ∧ u = r.user salt t ∧ s'.tables.user? r.username = some u := by
  unfold register at h
  cases valid : r.check with
  | error why =>
    rw [valid] at h
    cases h
  | ok _ =>
    rw [valid] at h
    change Backend.memory.run t (.ask (.createUser _) _) [] s = _ at h
    have performed (new : NewUser) : Backend.memory.perform t (.createUser new) s =
        s.settle (s.createUser new t) := rfl
    rw [Backend.run, performed] at h
    cases created : s.createUser _ t with
    | error e =>
      rw [created] at h
      cases h
    | ok x =>
      rw [created] at h
      cases h
      obtain ⟨unused, _, hu, hs⟩ := Store.createUser_eq_ok_iff.mp created
      have named : x.1.username = r.username := by rw [hu]
      refine ⟨rfl, hu, ?_⟩
      rw [hs]
      change (s.tables.users ++ [x.1]).find? (fun v => v.username == r.username) = some x.1
      exact Store.find?_append_cons unused (by simp [named])

/-! ## Logins -/

/-- A password that is long enough and has the digest of the other one. -/
def Password.Passes (password registered : String) (salt : List UInt8) : Prop :=
  isPassword password ∧ digest password salt = digest registered salt

/-- A session that is kept for the refresh token of a login. -/
structure Session.Records (service : Service) (x : Session) (l : Login) : Prop where
  unblocked : x.isBlocked = false
  username : x.username = l.user.username
  token : x.refreshToken = fingerprint l.refreshToken
  claims : ∃ c, service.key.decode? l.refreshToken.toList = some c ∧ c.kind = .refresh ∧
    c.id = x.id ∧ c.subject = x.username ∧ Timestamp.ofSeconds? c.expiresAt = some x.expiresAt

namespace Service

variable {service : Service} {client : Client} {c : Credentials} {fresh : Fresh} {now : Timestamp}
    {s : Store} {u : User}

theorem records_of_issue {l : Login} {payload : Payload} (present : Timestamp.Holds now.seconds)
    (id : l.sessionId = payload.id) (expires : l.refreshExpiresAt = payload.expiresAt)
    (issued : service.key.issue fresh.refreshId l.user.username .refresh service.refreshDuration
      now = .ok (l.refreshToken, payload)) : (l.session client now).Records service l := by
  obtain ⟨refresh, rfl, encoded⟩ := Key.issue_eq_ok_iff.mp issued
  have read := service.key.decode?_encode
    ⟨fresh.refreshId, l.user.username, .refresh, now.seconds,
      now.seconds + service.refreshDuration.seconds, false⟩
    (Key.fits_of_holds present) (Key.fits_of_holds refresh)
  rw [← String.toList_ofList (l := service.key.encode _), ← encoded] at read
  refine ⟨rfl, rfl, rfl, _, read, rfl, id.symm, rfl, ?_⟩
  rw [Login.session, expires]
  exact Key.ofSeconds?_of_holds refresh

theorem run_login_of_check_error {why : Invalid} (invalid : c.check = .error why) :
    Backend.memory.run now (service.login client c fresh now).run [] s =
      (s, .finished (.error (.invalid why))) := by
  unfold login
  rw [invalid]
  rfl

theorem run_login_of_incorrect (valid : c.check = .ok ())
    (found : s.tables.user? c.username = some u)
    (wrong : Password.check c.password u.hashedPassword = .ok (.error .incorrect)) :
    Backend.memory.run now (service.login client c fresh now).run [] s =
      (s, .finished (.error (.unauthorized .incorrectPassword))) := by
  rw [run_login_of_user? valid found, wrong]
  rfl

/-- Whatever is asked of the service after a registration, the user can log in with the registered
password, and with any other exactly if it passes for that one. A login adds one session, for its
refresh token. Whoever does not get in is told that the password is too short or wrong, and the
store stays as it is. -/
theorem login_exact {r : Registration} {salt : List UInt8} {s s' : Store} {vs : List Visit}
    {t : Timestamp} {b : Bank} (long : 8 ≤ salt.length) (short : salt.length ≤ 48)
    (registered : Backend.memory.run t (register r salt).run [] s = (s', .finished (.ok u)))
    (later : Bank.Reaches service ⟨s', vs⟩ b) (client : Client) (fresh : Fresh) (now : Timestamp) :
    Password.Passes r.password r.password salt ∧
    Password.Record.read u.hashedPassword.toList =
      .ok (.standard salt (Password.digest r.password salt)) ∧
    (∀ password, Password.Passes password r.password salt →
      b.store.tables.session? fresh.refreshId = none → Timestamp.Holds now.seconds →
      Timestamp.Holds (now.seconds + service.accessDuration.seconds) →
      Timestamp.Holds (now.seconds + service.refreshDuration.seconds) →
      ∃ x l, Backend.memory.run now (service.login client ⟨r.username, password⟩ fresh now).run []
          b.store = ({ b.store with tables.sessions := b.store.tables.sessions ++ [x] },
            .finished (.ok l)) ∧
        l.user = u ∧ x.Records service l) ∧
    ∀ password, ¬ Password.Passes password r.password salt →
      ∃ why, Backend.memory.run now (service.login client ⟨r.username, password⟩ fresh now).run []
          b.store = (b.store, .finished (.error why)) ∧
        (why = .invalid .password ∨ why = .unauthorized .incorrectPassword) := by
  obtain ⟨valid, rfl, found⟩ := run_register_eq_ok registered
  have found := Tables.user?_of_prefix later.users found
  have verdict (password : String) :
      Password.check password (r.user salt t).hashedPassword =
        .ok (if Password.digest password salt = Password.digest r.password salt then .ok ()
          else .error .incorrect) :=
    Password.check_hash_eq password r.password long short
  refine ⟨⟨(Registration.valid_of_check valid).2, rfl⟩, Password.read_hash _ long short, ?_, ?_⟩
  · rintro password ⟨allowed, same⟩ unused present access refresh
    have check := Registration.check_password valid password
    rw [if_pos allowed] at check
    have right := verdict password
    rw [if_pos same] at right
    obtain ⟨l, payload, login, user, id, expires, issued⟩ :=
      service.run_login client fresh check found right access refresh unused
    rw [← user] at issued
    exact ⟨_, l, login, user, records_of_issue present id expires issued⟩
  · intro password fails
    have check := Registration.check_password valid password
    by_cases allowed : isPassword password
    · rw [if_pos allowed] at check
      have wrong := verdict password
      rw [if_neg fun same => fails ⟨allowed, same⟩] at wrong
      exact ⟨_, run_login_of_incorrect check found wrong, Or.inr rfl⟩
    · rw [if_neg allowed] at check
      exact ⟨_, run_login_of_check_error check, Or.inl rfl⟩

end Service

def sampleUser : Registration := ⟨"ada", "secret", "Ada", "ada@example.com"⟩

/-- The user opens an account, and logs in after that has been answered: with the password, and with
no other one, of six letters either, unless it has the same digest. -/
theorem Service.login_exact_of_sampleUser : ∃ salt u s b,
    Backend.memory.run .epoch (register sampleUser salt).run [] .empty = (s, .finished (.ok u)) ∧
    Bank.Reaches sampleService ⟨s, []⟩ b ∧
    b.visits = [] ∧ b.store.tables.accounts.map Account.owner = ["ada"] ∧
    (∃ x l, Backend.memory.run .epoch
      (sampleService.login {} ⟨"ada", "secret"⟩ sampleFresh .epoch).run [] b.store =
        ({ b.store with tables.sessions := b.store.tables.sessions ++ [x] }, .finished (.ok l))) ∧
    (∃ why, Backend.memory.run .epoch
      (sampleService.login {} ⟨"ada", "other"⟩ sampleFresh .epoch).run [] b.store =
        (b.store, .finished (.error why))) ∧
    (Password.digest "terces" salt ≠ Password.digest "secret" salt →
      ∃ why, Backend.memory.run .epoch
        (sampleService.login {} ⟨"ada", "terces"⟩ sampleFresh .epoch).run [] b.store =
          (b.store, .finished (.error why))) := by
  let u := sampleUser.user (List.replicate 16 0) .epoch
  let s : Store := { Store.empty with tables.users := [u] }
  have registered : Backend.memory.run .epoch (register sampleUser (List.replicate 16 0)).run []
      .empty = (s, .finished (.ok u)) := run_register (by rfl) rfl (List.forall_mem_nil _)
  let opening := sampleRequest "POST" "/accounts" "\x7b\"currency\":\"EUR\"\x7d"
  let arrived : Bank := ⟨s, [sampleService.receive opening sampleFresh .epoch]⟩
  have later : Bank.Reaches sampleService ⟨s, []⟩ (arrived.turn .epoch 0) :=
    .tail (.single ⟨_, .arrive opening sampleFresh .epoch⟩) ⟨_, .turn sampleService rfl .epoch⟩
  have caller : sampleService.caller .accounts opening .epoch = .ok "ada" :=
    Service.caller_of_user? rfl (user?_sampleRequest _ _ _)
  have answered : (arrived.turn .epoch 0).visits.isEmpty ∧
      (arrived.turn .epoch 0).store.tables.accounts.map Account.owner = ["ada"] ∧
      ((arrived.turn .epoch 0).store.tables.session? sampleFresh.refreshId).isNone := by
    have respond := Service.respond_of_caller (r := opening) sampleFresh (by decide +kernel) caller
      rfl
    simp only [arrived, Service.receive, respond]
    decide +kernel
  obtain ⟨nobody, opened, unused⟩ := answered
  obtain ⟨passes, _, admitted, refused⟩ :=
    login_exact (by decide) (by decide) registered later {} sampleFresh .epoch
  obtain ⟨x, l, login, _⟩ := admitted _ passes (Option.isNone_iff_eq_none.mp unused) (by decide)
    (by decide) (by decide)
  obtain ⟨why, short, _⟩ := refused "other" fun passes => absurd passes.1 (by decide)
  refine ⟨_, u, s, _, registered, later, List.isEmpty_iff.mp nobody, opened, ⟨x, l, login⟩,
    ⟨why, short⟩, fun different => ?_⟩
  -- the digests fill 19 MiB each, so whether they differ is not computed here
  obtain ⟨why, wrong, _⟩ := refused "terces" fun passes => different passes.2
  exact ⟨why, wrong⟩

end Giro
