import Giro.Proofs.Consistency
import Giro.Proofs.Errands
import Giro.Proofs.Passwords
import Giro.Proofs.Privacy
import Giro.Proofs.Tokens

/-!
# Sessions

The sessions of a store are the logins that have been given out, one by one and in their order, and
each keeps the fingerprint of its refresh token: `Desk.Run.kept`. Whoever has registered is given
out a login for the right password.
-/

namespace Giro

open Http

/-! ## What a login leaves in the store -/

/-- A session is the one of a login, whose refresh token has been issued for it. -/
structure Session.Backs (service : Service) (x : Session) (l : Login) : Prop where
  id : x.id = l.sessionId
  username : x.username = l.user.username
  token : x.refreshToken = fingerprint l.refreshToken
  unblocked : x.isBlocked = false
  expiresAt : x.expiresAt = l.refreshExpiresAt
  issued : ∃ now issuedAt, Timestamp.epoch ≤ now ∧
    service.key.issue l.sessionId l.user.username .refresh service.refreshDuration now =
      .ok (l.refreshToken, ⟨l.sessionId, l.user.username, issuedAt, l.refreshExpiresAt⟩)

/-- The row of a new session. -/
def NewSession.opened (new : NewSession) (now : Timestamp) : Session :=
  ⟨new.id, new.username, new.refreshToken, new.userAgent, new.clientIp, new.isBlocked,
    new.expiresAt, now⟩

/-- What is left of an errand: it opens a session when it gives out a login, and only then. -/
inductive Opens (service : Service) : Program (Option Login) → Prop where
  | done : Opens service (.done none)
  | overflow (why : Overflow) : Opens service (.overflow why)
  | ask {c : Call} {next : Except StoreError c.Reply → Program (Option Login)}
      (spares : c.opensSession = false) (rest : ∀ answer, Opens service (next answer)) :
      Opens service (.ask c next)
  | session {new : NewSession} {next : Except StoreError Session → Program (Option Login)}
      (refused : ∀ e, next (.error e) = .done none)
      (opened : ∀ now, ∃ l, next (.ok (new.opened now)) = .done (some l) ∧
        (new.opened now).Backs service l) :
      Opens service (.ask (.createSession new) next)

namespace Opens

variable {service : Service} {ε δ α : Type}

theorem of_sessionless {p : Program α} (h : Sessionless p) :
    Opens service (p.bind fun _ => .done none) := by
  induction h with
  | done a => exact .done
  | overflow why => exact .overflow why
  | ask spares _ ih => exact .ask spares ih

/-! ### The parts of a login -/

/-- An attempt that gives out logins with their sessions. -/
def Gives (service : Service) (a : Attempt ε Login) : Prop :=
  Opens service (a.run.bind fun result => .done result.toOption)

theorem demand {r : Except ε α} {f : α → Attempt ε Login}
    (h : ∀ x, r = .ok x → Gives service (f x)) : Gives service (Attempt.demand r >>= f) := by
  cases r with
  | ok x => exact h x rfl
  | error e => exact .done

theorem compute {r : Except Overflow α} {f : α → Attempt ε Login}
    (h : ∀ x, r = .ok x → Gives service (f x)) : Gives service (Attempt.compute r >>= f) := by
  cases r with
  | ok x => exact h x rfl
  | error why => exact .overflow why

theorem call {c : Call} {g : StoreError → ε} {f : c.Reply → Attempt ε Login}
    (spares : c.opensSession = false) (h : ∀ x, Gives service (f x)) :
    Gives service (Attempt.mapError g (Attempt.call c) >>= f) := by
  refine .ask spares fun answer => ?_
  cases answer with
  | ok x => exact h x
  | error e => exact .done

theorem login {client : Client} {c : Credentials} {fresh : Fresh} {now : Timestamp}
    (later : Timestamp.epoch ≤ now) : Gives service (service.login client c fresh now) := by
  unfold Service.login
  refine demand fun _ _ => call rfl fun user => compute fun _ _ => demand fun _ _ => ?_
  refine compute fun (_, access) _ => compute fun (token, refresh) issued => ?_
  have issued : service.key.issue fresh.refreshId user.username .refresh service.refreshDuration
      now = .ok (token, refresh) := by
    generalize service.key.issue _ _ _ _ _ = result at issued
    cases result with
    | ok x =>
      cases issued
      rfl
    | error why => cases issued
  obtain ⟨_, hrefresh, _⟩ := Key.issue_eq_ok_iff.mp issued
  refine .session (fun e => rfl) fun _ => ⟨_, rfl, rfl, rfl, rfl, rfl, rfl, now, refresh.issuedAt,
    later, ?_⟩
  rw [hrefresh] at issued ⊢
  exact issued

end Opens

theorem Errand.program_opens (service : Service) (errand : Errand) {now : Timestamp}
    (later : Timestamp.epoch ≤ now) : Opens service (errand.program service now) := by
  cases errand with
  | login client c fresh => exact Opens.login later
  | renew token id => exact .of_sessionless .renew
  | register r salt => exact .of_sessionless .register
  | other e apart caller segment r fresh => exact .of_sessionless (.perform service apart fresh)

/-! ## What a step does to the sessions -/

namespace Store

variable {s s' : Store} {now : Timestamp} {c : Call} {status : Status c.Reply}

/-- What a call does to those who have registered, and to the sessions: users are only added. -/
structure KeepsPeople (c : Call) (s s' : Store) : Prop where
  users : s.tables.users <+: s'.tables.users
  sessions : c.opensSession = false → s'.tables.sessions = s.tables.sessions

theorem KeepsPeople.of_eq (users : s'.tables.users = s.tables.users)
    (sessions : s'.tables.sessions = s.tables.sessions) : KeepsPeople c s s' :=
  ⟨users ▸ List.prefix_refl _, fun _ => sessions⟩

theorem keepsPeople_settle {α : Type} {result : Except StoreError (α × Store)} {status : Status α}
    (h : s.settle result = (s', status)) (ok : ∀ a, result = .ok (a, s') → KeepsPeople c s s') :
    KeepsPeople c s s' := by
  cases result with
  | ok x =>
    cases h
    exact ok _ rfl
  | error e =>
    cases h
    exact .of_eq rfl rfl

theorem keepsPeople_deleteGranted {r : LockRequest} {answer : Except StoreError Unit}
    (h : s.deleteGranted r = (s', answer)) : KeepsPeople c s s' := by
  rcases deleteGranted_cases h with ⟨rfl, _⟩ | ⟨_, _, _, rfl⟩ <;> exact .of_eq rfl rfl

theorem keepsPeople_perform (h : s.perform now c = (s', status)) : KeepsPeople c s s' := by
  have own {t : Nat} (ticket : c.ticket? = some t) (uncommitted : c ≠ .commit t) :
      KeepsPeople c s s' := by
    have same := (private_perform ticket uncommitted h).tables
    exact .of_eq (congrArg Tables.users same) (congrArg Tables.sessions same)
  cases c with
  | createSession new =>
    refine keepsPeople_settle h fun x hx => ?_
    rw [createSession_eq_ok hx]
    exact ⟨List.prefix_refl _, nofun⟩
  | createUser new =>
    refine keepsPeople_settle h fun u hu => ?_
    obtain ⟨_, _, _, rfl⟩ := createUser_eq_ok_iff.mp hu
    exact ⟨List.prefix_append _ _, fun _ => rfl⟩
  | createAccount new =>
    refine keepsPeople_settle h fun a ha => ?_
    obtain ⟨_, _, _, rfl⟩ := createAccount_eq_ok_iff.mp ha
    exact .of_eq rfl rfl
  | deleteAccount id =>
    cases deleteAccount_outcome h with
    | refused e => exact .of_eq rfl rfl
    | granted hl holds hg =>
      have deleted : KeepsPeople (.deleteAccount id) _ s' := keepsPeople_deleteGranted hg
      exact ⟨deleted.users, deleted.sessions⟩
    | queued hl behind => exact .of_eq rfl rfl
  | commit t =>
    refine keepsPeople_settle h fun _ hc => ?_
    obtain ⟨tx, _, rfl⟩ := commit_eq_ok_iff.mp (Traffic.map_unit_eq_ok_iff.mp hc)
    exact .of_eq (by simp) (by simp)
  | stageTransfer t | stageEntry t | addBalance t | rollback t => exact own rfl nofun
  | _ =>
    cases h
    exact .of_eq rfl rfl

theorem keepsPeople_poll {w : Option LockRequest}
    (h : Backend.memory.poll now w c s = (s', status)) : KeepsPeople c s s' := by
  cases w with
  | none => exact keepsPeople_perform h
  | some r =>
    change s.resume now r c = (s', status) at h
    unfold resume at h
    split at h
    · cases c with
      | addBalance t account amount =>
        cases h
        have granted : s.addGranted r amount = (_, _) := rfl
        have same := (private_addGranted rfl granted).tables
        exact .of_eq (congrArg Tables.users same) (congrArg Tables.sessions same)
      | deleteAccount id =>
        cases h
        exact keepsPeople_deleteGranted rfl
      | _ => exact keepsPeople_perform h
    · cases h
      exact .of_eq rfl rfl

theorem sessions_poll {w : Option LockRequest} (spares : c.opensSession = false)
    (h : Backend.memory.poll now w c s = (s', status)) :
    s'.tables.sessions = s.tables.sessions :=
  (keepsPeople_poll h).sessions spares

theorem poll_createSession {new : NewSession} {w : Option LockRequest} {status : Status Session}
    (h : Backend.memory.poll now w (.createSession new) s = (s', status)) :
    s' = s ∧ (∀ x, status ≠ .answered (.ok x)) ∨
    s.tables.session? new.id = none ∧ status = .answered (.ok (new.opened now)) ∧
      s' = { s with tables.sessions := s.tables.sessions ++ [new.opened now] } := by
  have performed (h : s.settle (s.createSession new now) = (s', status)) :
      s' = s ∧ (∀ x, status ≠ .answered (.ok x)) ∨
      s.tables.session? new.id = none ∧ status = .answered (.ok (new.opened now)) ∧
        s' = { s with tables.sessions := s.tables.sessions ++ [new.opened now] } := by
    cases hc : s.createSession new now with
    | ok x =>
      obtain ⟨_, fresh, hx, hs⟩ := createSession_eq_ok_iff.mp hc
      rw [hc] at h
      cases h
      have hx : x.1 = new.opened now := hx
      rw [hx] at hs ⊢
      exact Or.inr ⟨fresh, rfl, hs⟩
    | error e =>
      rw [hc] at h
      cases h
      exact Or.inl ⟨rfl, nofun⟩
  cases w with
  | none => exact performed h
  | some r =>
    change s.resume now r (.createSession new) = (s', status) at h
    unfold resume at h
    split at h
    · exact performed h
    · cases h
      exact Or.inl ⟨rfl, nofun⟩

end Store

/-- What a step of an errand does to the sessions. -/
inductive Opens.Turn (service : Service) (s s' : Store) : Outcome (Option Login) → Prop where
  | on {rest : Task (Option Login)} (same : s'.tables.sessions = s.tables.sessions)
      (program : Opens service rest.program) : Turn service s s' (.blocked rest)
  | left (same : s'.tables.sessions = s.tables.sessions) : Turn service s s' (.finished none)
  | overflow {why : Overflow} (same : s'.tables.sessions = s.tables.sessions) :
      Turn service s s' (.overflow why)
  | given {x : Session} {l : Login} (backs : x.Backs service l)
      (fresh : s.tables.session? x.id = none)
      (sessions : s'.tables.sessions = s.tables.sessions ++ [x]) :
      Turn service s s' (.finished (some l))

theorem tables_discardAll (tickets : List Nat) (s : Store) :
    (Backend.memory.discardAll tickets s).tables = s.tables := by
  induction tickets generalizing s with
  | nil => rfl
  | cons t tickets ih => exact (ih (s.discard t)).trans (by simp)

theorem tables_cancel {α : Type} (t : Task α) (s : Store) :
    (Backend.memory.cancel t s).tables = s.tables := by
  unfold Backend.cancel
  rw [tables_discardAll]
  cases t.waiting <;> rfl

theorem Backend.tables_proceed {α : Type} {p : Program α} {opened : List Nat} {s s' : Store}
    {outcome : Outcome α} (h : memory.proceed opened s p = (s', outcome)) :
    s'.tables = s.tables := by
  cases p with
  | done a =>
    cases h
    exact tables_discardAll opened s
  | overflow why =>
    cases h
    exact tables_discardAll opened s
  | ask c next =>
    cases h
    rfl

theorem Opens.turn_of_proceed {service : Service} {p : Program (Option Login)} (h : Opens service p)
    {s s' s'' : Store} {opened : List Nat} {outcome : Outcome (Option Login)}
    (same : s'.tables.sessions = s.tables.sessions)
    (hp : Backend.memory.proceed opened s' p = (s'', outcome)) : Turn service s s'' outcome := by
  rw [← Backend.tables_proceed hp] at same
  cases h with
  | done =>
    cases hp
    exact .left same
  | overflow why =>
    cases hp
    exact .overflow same
  | ask spares rest =>
    cases hp
    exact .on same (.ask spares rest)
  | session refused opened =>
    cases hp
    exact .on same (.session refused opened)

theorem Opens.turn {service : Service} {t : Task (Option Login)} (h : Opens service t.program)
    {s s' : Store} {now : Timestamp} {outcome : Outcome (Option Login)}
    (hstep : Backend.memory.step now t s = (s', outcome)) : Turn service s s' outcome := by
  obtain ⟨program, w, opened⟩ := t
  cases h with
  | done => exact Opens.done.turn_of_proceed rfl hstep
  | overflow why => exact (Opens.overflow why).turn_of_proceed rfl hstep
  | @ask c next spares rest =>
    rcases hpoll : Backend.memory.poll now w c s with ⟨s₁, answer | r⟩
    · rw [Backend.step_of_answered hpoll] at hstep
      exact (rest answer).turn_of_proceed (Store.sessions_poll spares hpoll) hstep
    · rw [Backend.step_of_waiting hpoll] at hstep
      cases hstep
      exact .on (Store.sessions_poll spares hpoll) (.ask spares rest)
  | @session new next refused opens =>
    rcases hpoll : Backend.memory.poll now w (.createSession new) s with ⟨s₁, answer | r⟩
    · rw [Backend.step_of_answered hpoll] at hstep
      rcases Store.poll_createSession hpoll with ⟨rfl, failed⟩ | ⟨fresh, opened, hs₁⟩
      · cases answer with
        | ok x => exact absurd rfl (failed x)
        | error e =>
          rw [refused e] at hstep
          exact Opens.done.turn_of_proceed rfl hstep
      · cases opened
        obtain ⟨l, hl, backs⟩ := opens now
        rw [hl] at hstep
        cases hstep
        exact .given backs fresh (by rw [tables_discardAll, hs₁])
    · rw [Backend.step_of_waiting hpoll] at hstep
      cases hstep
      rcases Store.poll_createSession hpoll with ⟨rfl, _⟩ | ⟨_, opened, _⟩
      · exact .on rfl (.session refused opens)
      · cases opened

/-! ## Desks -/

namespace Desk

variable {service : Service}

theorem exists_partner {α β : Type} {R : α → β → Prop} {as : List α} {bs : List β}
    (h : List.Forall₂ R as bs) {a : α} (ha : a ∈ as) : ∃ b ∈ bs, R a b := by
  induction h with
  | nil => cases ha
  | cons related _ ih =>
    rcases List.mem_cons.mp ha with rfl | ha
    · exact ⟨_, List.mem_cons_self, related⟩
    · obtain ⟨b, hb, related⟩ := ih ha
      exact ⟨b, List.mem_cons_of_mem _ hb, related⟩

/-- The sessions are the logins that have been given out. -/
structure Kept (service : Service) (d : Desk) : Prop where
  sessions : List.Forall₂ (Session.Backs service) d.store.tables.sessions d.logins
  ids : (d.store.tables.sessions.map Session.id).Nodup
  tasks : ∀ t ∈ d.tasks, Opens service t.program

theorem Kept.of_same {d d' : Desk} (kept : Kept service d)
    (same : d'.store.tables.sessions = d.store.tables.sessions) (logins : d'.logins = d.logins)
    (tasks : ∀ t ∈ d'.tasks, Opens service t.program) : Kept service d' where
  sessions := by
    rw [same, logins]
    exact kept.sessions
  ids := by
    rw [same]
    exact kept.ids
  tasks := tasks

theorem Step.kept {d d' : Desk} (step : Step service d d') (kept : Kept service d) :
    Kept service d' := by
  have others {t : Task (Option Login)} {before after : List (Task (Option Login))}
      (tasks : ∀ x ∈ before ++ t :: after, Opens service x.program) :
      Opens service t.program ∧ ∀ x ∈ before ++ after, Opens service x.program := by
    simp only [List.forall_mem_append, List.forall_mem_cons] at tasks ⊢
    exact ⟨tasks.2.1, tasks.1, tasks.2.2⟩
  cases step with
  | arrive errand later =>
    refine kept.of_same rfl rfl fun t ht => ?_
    rcases List.mem_append.mp ht with ht | ht
    · exact kept.tasks t ht
    · rw [List.mem_singleton.mp ht]
      exact errand.program_opens service later
  | advance h =>
    obtain ⟨opens, rest⟩ := others kept.tasks
    cases opens.turn h with
    | on same program =>
      refine kept.of_same same rfl ?_
      simp only [List.forall_mem_append, List.forall_mem_cons] at rest ⊢
      exact ⟨rest.1, program, rest.2⟩
  | finish h =>
    obtain ⟨opens, rest⟩ := others kept.tasks
    cases opens.turn h with
    | left same => exact kept.of_same same (by simp) rest
    | given backs fresh sessions =>
      refine ⟨?_, ?_, rest⟩
      · rw [sessions]
        exact List.rel_append kept.sessions (.cons backs .nil)
      · rw [sessions]
        exact nodup_map_concat kept.ids (Tables.session?_eq_none_iff.mp fresh)
  | overflow h =>
    obtain ⟨opens, rest⟩ := others kept.tasks
    cases opens.turn h with
    | overflow same => exact kept.of_same same rfl rest
  | cancel => exact kept.of_same (by rw [tables_cancel]) rfl (others kept.tasks).2

theorem Run.kept {d : Desk} (run : Run service d) : Kept service d := by
  induction run with
  | start => exact ⟨.nil, List.nodup_nil, nofun⟩
  | step _ step ih => exact step.kept ih

/-! ## A first login -/

theorem Run.serve {s s' : Store} {ts : List (Task (Option Login))} {ls : List Login}
    {result : Option Login} (run : Run service ⟨s, ts, ls⟩) (errand : Errand)
    (later : Timestamp.epoch ≤ now)
    (h : Backend.memory.run now (errand.program service now) [] s = (s', .finished result)) :
    Run service ⟨s', ts, ls ++ result.toList⟩ := by
  obtain ⟨s₁, t, run, hstep⟩ := Backend.exists_last_step
    (P := fun s t => Run service ⟨s, ts ++ [t], ls⟩)
    (fun _ _ _ _ run hstep => run.step (.advance hstep)) (run.step (.arrive errand later)) h
  have := run.step (.finish hstep)
  rwa [List.append_nil] at this

end Desk

/-- The user that a registration makes. -/
def Registration.user (r : Registration) (salt : List UInt8) (now : Timestamp) : User :=
  ⟨r.username, Password.hash r.password salt, r.fullName, r.email, .epoch, now⟩

theorem Registration.check_credentials {r : Registration} (h : r.check = .ok ()) :
    Credentials.check ⟨r.username, r.password⟩ = .ok () := by
  cases hc : Credentials.check ⟨r.username, r.password⟩ with
  | ok _ => rfl
  | error why =>
    rw [check, hc] at h
    cases h

theorem run_register {r : Registration} {salt : List UInt8} {s : Store} {now : Timestamp}
    (valid : r.check = .ok ()) (username : s.tables.user? r.username = none)
    (email : ∀ u ∈ s.tables.users, u.email ≠ r.email) :
    Backend.memory.run now (register r salt).run [] s =
      ({ s with tables.users := s.tables.users ++ [r.user salt now] },
        .finished (.ok (r.user salt now))) := by
  have created : s.createUser ⟨r.username, Password.hash r.password salt, r.fullName, r.email⟩ now =
      .ok (r.user salt now, { s with tables.users := s.tables.users ++ [r.user salt now] }) :=
    Store.createUser_eq_ok_iff.mpr ⟨username, fun ⟨u, hu, same⟩ => email u hu same, rfl, rfl⟩
  have performed : Backend.memory.perform now (.createUser _) s = _ := congrArg s.settle created
  unfold register
  rw [valid]
  change Backend.memory.run now (.ask (.createUser _) _) [] s = _
  rw [Backend.run, performed]
  rfl

/-- What is left of a login once the password has been found right. -/
def Service.grant (service : Service) (client : Client) (user : User) (fresh : Fresh)
    (now : Timestamp) : Attempt Refusal Login := do
  let (accessToken, access) ← Attempt.ofTime
    (service.key.issue fresh.accessId user.username .access service.accessDuration now)
  let (refreshToken, refresh) ← Attempt.ofTime
    (service.key.issue fresh.refreshId user.username .refresh service.refreshDuration now)
  let new : NewSession := ⟨refresh.id, user.username, fingerprint refreshToken, client.userAgent,
    client.address, false, refresh.expiresAt⟩
  let session ← Attempt.mapError .store (Attempt.call (.createSession new))
  return ⟨session.id, accessToken, access.expiresAt, refreshToken, refresh.expiresAt, user⟩

/-- The session that is kept for a login. -/
def Login.session (l : Login) (client : Client) (now : Timestamp) : Session :=
  ⟨l.sessionId, l.user.username, fingerprint l.refreshToken, client.userAgent, client.address,
    false, l.refreshExpiresAt, now⟩

namespace Service

variable {service : Service} {client : Client} {c : Credentials} {fresh : Fresh} {now : Timestamp}
    {s : Store} {u : User}

/-- The login of a user who exists depends on the password alone. -/
theorem run_login_of_user? (valid : c.check = .ok ()) (found : s.tables.user? c.username = some u) :
    Backend.memory.run now (service.login client c fresh now).run [] s =
      Backend.memory.run now (do
        let verdict ← Attempt.compute (Password.check c.password u.hashedPassword)
        Attempt.demand (verdict.mapError Refusal.ofPassword)
        service.grant client u fresh now : Attempt Refusal Login).run [] s := by
  unfold login
  rw [valid]
  change Backend.memory.run now (Attempt.mapError (Refusal.ofLookup (.user c.username))
    (Attempt.call (.getUser c.username)) >>= _).run [] s = _
  rw [Backend.run_read rfl rfl, Store.getUser, found]
  rfl

theorem run_login_of_check (valid : c.check = .ok ()) (found : s.tables.user? c.username = some u)
    (right : Password.check c.password u.hashedPassword = .ok (.ok ())) :
    Backend.memory.run now (service.login client c fresh now).run [] s =
      Backend.memory.run now (service.grant client u fresh now).run [] s := by
  rw [run_login_of_user? valid found, right]
  rfl

/-- A login with the right password adds the session for its refresh token. -/
theorem run_login (service : Service) (client : Client) {c : Credentials} (fresh : Fresh)
    {now : Timestamp} {s : Store} {u : User} (valid : c.check = .ok ())
    (found : s.tables.user? c.username = some u)
    (right : Password.check c.password u.hashedPassword = .ok (.ok ()))
    (access : Timestamp.Holds (now.seconds + service.accessDuration.seconds))
    (refresh : Timestamp.Holds (now.seconds + service.refreshDuration.seconds))
    (unused : s.tables.session? fresh.refreshId = none) :
    ∃ l payload, Backend.memory.run now (service.login client c fresh now).run [] s =
        ({ s with tables.sessions := s.tables.sessions ++ [l.session client now] },
          .finished (.ok l)) ∧
      l.user = u ∧ l.sessionId = payload.id ∧ l.refreshExpiresAt = payload.expiresAt ∧
      service.key.issue fresh.refreshId u.username .refresh service.refreshDuration now =
        .ok (l.refreshToken, payload) := by
  obtain ⟨accessToken, accessPayload, accessIssued⟩ :=
    service.key.exists_issue fresh.accessId u.username .access access
  obtain ⟨refreshToken, payload, refreshIssued⟩ :=
    service.key.exists_issue fresh.refreshId u.username .refresh refresh
  obtain ⟨_, rfl, _⟩ := Key.issue_eq_ok_iff.mp refreshIssued
  let l : Login := ⟨fresh.refreshId, accessToken, accessPayload.expiresAt, refreshToken,
    .ofSeconds (now.seconds + service.refreshDuration.seconds), u⟩
  have named : u.username = c.username := by simpa using List.find?_some found
  have known : (s.tables.user? u.username).isSome := by
    rw [named, found]
    rfl
  have created : s.createSession ⟨l.sessionId, u.username, fingerprint refreshToken,
      client.userAgent, client.address, false, l.refreshExpiresAt⟩ now = .ok (l.session client now,
        { s with tables.sessions := s.tables.sessions ++ [l.session client now] }) :=
    Store.createSession_eq_ok_iff.mpr ⟨known, unused, rfl, rfl⟩
  have performed : s.perform now (.createSession _) = _ := congrArg s.settle created
  refine ⟨l, _, ?_, rfl, rfl, rfl, refreshIssued⟩
  rw [run_login_of_check valid found right, grant, accessIssued, refreshIssued]
  exact Backend.run_answered performed _ _ _

end Service

namespace Desk

/-- Whoever registers at an empty store can log in. -/
theorem Run.exists_login (service : Service) (client : Client) {r : Registration}
    (salt : List UInt8) (fresh : Fresh) {now : Timestamp} (valid : r.check = .ok ())
    (long : 8 ≤ salt.length) (short : salt.length ≤ 48) (later : Timestamp.epoch ≤ now)
    (access : Timestamp.Holds (now.seconds + service.accessDuration.seconds))
    (refresh : Timestamp.Holds (now.seconds + service.refreshDuration.seconds)) :
    ∃ s l, Run service ⟨s, [], [l]⟩ ∧ l.user = r.user salt now ∧
      l.refreshExpiresAt = .ofSeconds (now.seconds + service.refreshDuration.seconds) := by
  let registered : Store := { Store.empty with tables.users := [r.user salt now] }
  have arrived : Backend.memory.run now ((Errand.register r salt).program service now) [] .empty =
      (registered, .finished none) := by
    rw [Errand.program, Backend.run_map, run_register valid rfl (List.forall_mem_nil _)]
    rfl
  have found : registered.tables.user? r.username = some (r.user salt now) := by
    simp [registered, Tables.user?, Registration.user]
  obtain ⟨l, _, hrun, huser, _, hexpires, issued⟩ := service.run_login client fresh
    (Registration.check_credentials valid) found (Password.check_hash _ long short) access refresh
    rfl
  obtain ⟨_, rfl, _⟩ := Key.issue_eq_ok_iff.mp issued
  have granted : Backend.memory.run now
      ((Errand.login client ⟨r.username, r.password⟩ fresh).program service now) [] registered =
      ({ registered with tables.sessions := [l.session client now] }, .finished (some l)) := by
    rw [Errand.program, Backend.run_map, hrun]
    rfl
  exact ⟨_, l, (Run.start.serve _ later arrived).serve _ later granted, huser, hexpires⟩

end Desk

end Giro
