import Giro.Proofs.Sessions

/-!
# Renewals

A token is renewed if and only if a login has given it out and it has not expired. Nothing else
renews: the token is compared with the fingerprint in the session of its id, and a session has the
fingerprint of the one token that was given out with it.
-/

namespace Giro

/-! ## What a renewal checks -/

theorem Session.admits_eq_ok_iff {x : Session} {payload : Payload} {token : String}
    {now : Timestamp} : x.admits payload token now = .ok () ↔
      x.isBlocked = false ∧ x.username = payload.username ∧ x.refreshToken = fingerprint token ∧
        now ≤ x.expiresAt := by
  unfold admits
  rw [Store.ite_error_eq_ok_iff, Store.ite_error_eq_ok_iff, Store.ite_error_eq_ok_iff,
    Store.ite_error_eq_ok_iff]
  simp only [Bool.not_eq_true, not_not, and_true]
  exact and_congr_right fun _ => and_congr_right fun _ => and_congr_right fun _ =>
    Int.not_lt

/-- A renewal reads one session and changes nothing. -/
theorem Service.run_renew (service : Service) (token : String) (id : Uuid) {now : Timestamp}
    (held : Timestamp.Holds (now.seconds + service.accessDuration.seconds)) (s : Store) :
    ∃ answer, Backend.memory.run now (service.renew token id now).run [] s =
        (s, .finished answer) ∧
      ∀ renewal, answer = .ok renewal ↔ ∃ payload x access,
        service.key.verify token .refresh now = .ok payload ∧
        s.tables.session? payload.id = some x ∧ x.admits payload token now = .ok () ∧
        service.key.issue id payload.username .access service.accessDuration now =
          .ok (renewal.accessToken, access) ∧ renewal.expiresAt = access.expiresAt := by
  unfold Service.renew
  cases verified : service.key.verify token .refresh now with
  | error why => exact ⟨.error (.ofToken why), rfl, by simp⟩
  | ok payload =>
    change ∃ answer, Backend.memory.run now (Attempt.mapError
      (Refusal.ofLookup (.session payload.id)) (Attempt.call (.getSession payload.id)) >>= _).run []
        s = _ ∧ _
    rw [Backend.run_read rfl rfl]
    cases found : s.tables.session? payload.id with
    | none =>
      simp only [Store.getSession, found]
      exact ⟨.error (.notFound (.session payload.id)), rfl, by simp [found]⟩
    | some x =>
      simp only [Store.getSession, found]
      cases admitted : x.admits payload token now with
      | error why => exact ⟨.error (.unauthorized why), rfl, by simp [found, admitted]⟩
      | ok _ =>
        obtain ⟨accessToken, access, issued⟩ :=
          service.key.exists_issue id payload.username .access held
        rw [issued]
        refine ⟨.ok ⟨accessToken, access.expiresAt⟩, rfl, fun renewal => ⟨?_, ?_⟩⟩
        · rintro ⟨rfl⟩
          exact ⟨payload, x, access, rfl, found, admitted, issued, rfl⟩
        · rintro ⟨p, y, a, hp, _, _, hissue, hexpires⟩
          cases hp
          cases issued.symm.trans hissue
          rw [← hexpires]

namespace Session.Backs

variable {service : Service} {x : Session} {l : Login} {now : Timestamp} (backs : x.Backs service l)
    (forward : 0 ≤ service.refreshDuration.seconds)
include backs forward

theorem verify_eq (now : Timestamp) : ∃ issuedAt,
    service.key.verify l.refreshToken .refresh now =
      if now.seconds ≤ l.refreshExpiresAt.seconds
      then .ok ⟨l.sessionId, l.user.username, issuedAt, l.refreshExpiresAt⟩
      else .error .expired := by
  obtain ⟨_, issuedAt, later, issued⟩ := backs.issued
  exact ⟨issuedAt, Key.verify_issued issued later forward now⟩

/-- Whenever a refresh token is accepted, it is for the user who logged in. -/
theorem username_of_verify {payload : Payload}
    (h : service.key.verify l.refreshToken .refresh now = .ok payload) :
    payload.username = l.user.username := by
  obtain ⟨_, verify⟩ := backs.verify_eq forward now
  rw [h] at verify
  split at verify
  · cases verify
    rfl
  · cases verify

end Session.Backs

namespace Desk

variable {service : Service} {d : Desk} {token : String} {now : Timestamp}

namespace Kept

variable (kept : Kept service d)
include kept

theorem exists_login {x : Session} (hx : x ∈ d.store.tables.sessions) :
    ∃ l ∈ d.logins, x.Backs service l :=
  exists_partner kept.sessions hx

theorem exists_session {l : Login} (hl : l ∈ d.logins) :
    ∃ x ∈ d.store.tables.sessions, x.Backs service l :=
  exists_partner kept.sessions.flip hl

/-- What a renewal checks holds of the tokens that have been given out and have not expired. -/
theorem checks_iff (refresh : 0 ≤ service.refreshDuration.seconds)
    (distinct : ∀ l ∈ d.logins, fingerprint l.refreshToken = fingerprint token →
      l.refreshToken = token) :
    (∃ payload x, service.key.verify token .refresh now = .ok payload ∧
      d.store.tables.session? payload.id = some x ∧ x.admits payload token now = .ok ()) ↔
    ∃ l ∈ d.logins, l.refreshToken = token ∧ now ≤ l.refreshExpiresAt := by
  constructor
  · rintro ⟨payload, x, _, found, admitted⟩
    obtain ⟨_, _, htoken, unexpired⟩ := Session.admits_eq_ok_iff.mp admitted
    obtain ⟨l, hl, backs⟩ := kept.exists_login (List.mem_of_find?_eq_some found)
    refine ⟨l, hl, distinct l hl (backs.token.symm.trans htoken), ?_⟩
    rwa [← backs.expiresAt]
  · rintro ⟨l, hl, rfl, unexpired⟩
    obtain ⟨x, hx, backs⟩ := kept.exists_session hl
    obtain ⟨issuedAt, verify⟩ := backs.verify_eq refresh now
    rw [if_pos (Timestamp.seconds_le unexpired)] at verify
    refine ⟨_, x, verify, (find?_key_eq_some_iff kept.ids).mpr ⟨hx, backs.id⟩, ?_⟩
    rw [← backs.expiresAt] at unexpired
    exact Session.admits_eq_ok_iff.mpr ⟨backs.unblocked, backs.username, backs.token, unexpired⟩

end Kept

/-- A token is renewed if and only if a login has given it out and it has not expired. The new token
is one of the user who logged in, and nothing is changed. -/
theorem Run.renews_iff (run : Run service d) (access : 0 ≤ service.accessDuration.seconds)
    (refresh : 0 ≤ service.refreshDuration.seconds) (token : String) (id : Uuid) {now : Timestamp}
    (later : Timestamp.epoch ≤ now)
    (held : Timestamp.Holds (now.seconds + service.accessDuration.seconds))
    (distinct : ∀ l ∈ d.logins, fingerprint l.refreshToken = fingerprint token →
      l.refreshToken = token) :
    ∃ answer, Backend.memory.run now (service.renew token id now).run [] d.store =
        (d.store, .finished answer) ∧
      ((∃ renewal, answer = .ok renewal) ↔
        ∃ l ∈ d.logins, l.refreshToken = token ∧ now ≤ l.refreshExpiresAt) ∧
      ∀ renewal, answer = .ok renewal → ∀ l ∈ d.logins, l.refreshToken = token → ∀ t,
        service.key.verify renewal.accessToken .access t =
          if t.seconds ≤ renewal.expiresAt.seconds
          then .ok ⟨id, l.user.username, now.wholeSecond, renewal.expiresAt⟩
          else .error .expired := by
  have kept := run.kept
  obtain ⟨answer, hrun, renews⟩ := service.run_renew token id held d.store
  refine ⟨answer, hrun, ?_, ?_⟩
  · rw [← kept.checks_iff refresh distinct]
    constructor
    · rintro ⟨renewal, hanswer⟩
      obtain ⟨payload, x, _, verified, found, admitted, _⟩ := (renews renewal).mp hanswer
      exact ⟨payload, x, verified, found, admitted⟩
    · rintro ⟨payload, x, verified, found, admitted⟩
      obtain ⟨accessToken, granted, issued⟩ :=
        service.key.exists_issue id payload.username .access held
      exact ⟨⟨accessToken, granted.expiresAt⟩, (renews _).mpr
        ⟨payload, x, granted, verified, found, admitted, issued, rfl⟩⟩
  · rintro renewal hanswer l hl rfl t
    obtain ⟨payload, _, granted, verified, _, _, issued, hexpires⟩ := (renews renewal).mp hanswer
    obtain ⟨_, _, backs⟩ := kept.exists_session hl
    rw [backs.username_of_verify refresh verified] at issued
    obtain ⟨_, hgranted, _⟩ := Key.issue_eq_ok_iff.mp issued
    rw [hexpires, Key.verify_issued issued later access, hgranted]

/-- `ada` registers, logs in and has her token renewed. -/
theorem Run.renews_iff_of_login : ∃ d l renewal, Run sampleService d ∧ l ∈ d.logins ∧
    Backend.memory.run .epoch (sampleService.renew l.refreshToken sampleFresh.accessId .epoch).run
      [] d.store = (d.store, .finished (.ok renewal)) ∧
    ∀ t, sampleService.key.verify renewal.accessToken .access t =
      if t.seconds ≤ renewal.expiresAt.seconds
      then .ok ⟨sampleFresh.accessId, "ada", .epoch, renewal.expiresAt⟩
      else .error .expired := by
  have later : Timestamp.epoch ≤ .epoch := by decide
  have valid : Registration.check ⟨"ada", "secret", "Ada", "ada@example.org"⟩ = .ok () := rfl
  obtain ⟨s, l, run, huser, hexpires⟩ := exists_login sampleService {} (List.replicate 16 0)
    sampleFresh valid (by decide) (by decide) later (by decide) (by decide)
  obtain ⟨answer, hrun, renews, verifies⟩ := Run.renews_iff run (by decide) (by decide)
    l.refreshToken sampleFresh.accessId later (by decide)
    (fun _ hl _ => by rw [List.mem_singleton.mp hl])
  have unexpired : Timestamp.epoch ≤ l.refreshExpiresAt := by
    rw [hexpires]
    decide
  obtain ⟨renewal, rfl⟩ := renews.mpr ⟨l, List.mem_singleton_self l, rfl, unexpired⟩
  refine ⟨_, l, renewal, run, List.mem_singleton_self l, hrun, fun t => ?_⟩
  rw [verifies renewal rfl l (List.mem_singleton_self l) rfl t, huser]
  rfl

end Desk
end Giro
