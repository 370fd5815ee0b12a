import Giro.Proofs.Credentials
import Giro.Proofs.Renewals

/-!
# Lifetimes of tokens

A configuration may ask for any lifetime that is a 64-bit number, and nothing compares it with the
calendar. The service starts if both lifetimes are spans. It then logs a user in, or renews a token,
as long as the new tokens expire within the calendar, and from then on it overflows:
`Config.overflows_iff`.
-/

namespace Giro

open Text

/-! ## Starting -/

theorem Config.start_eq {c : Config} {key : Key} (h : Key.ofText? c.tokenKey = .ok key) :
    Service.start c =
      if Span.InBounds (c.accessTokenMinutes.toInt * 60) then
        if Span.InBounds (c.refreshTokenHours.toInt * 3600) then
          .ok ⟨key, ⟨c.accessTokenMinutes.toInt * 60⟩, ⟨c.refreshTokenHours.toInt * 3600⟩,
            c.requestTimeoutSeconds⟩
        else .error (.overflow .hours)
      else .error (.overflow .minutes) := by
  unfold Service.start accessDuration refreshDuration Span.ofMinutes Span.ofHours
  rw [h]
  split_ifs <;> rfl

/-! ## Issuing -/

theorem Key.issue_eq_error {key : Key} {id : Uuid} {username : String} {kind : TokenKind}
    {duration : Span} {now : Timestamp}
    (beyond : ¬ Timestamp.Holds (now.seconds + duration.seconds)) :
    key.issue id username kind duration now = .error .date := by
  simp [issue, Timestamp.shift, beyond, bind, Except.bind]

/-- A call does not overflow. -/
theorem Backend.not_overflows_call {ε β : Type} {c : Call} {now : Timestamp} {s : Store}
    (g : StoreError → ε) (f : c.Reply → β) (opened : List Nat) :
    ¬ ∃ s' why,
      memory.run now (Attempt.mapError g (Attempt.call c) >>= fun a => pure (f a)).run opened s =
        (s', .overflow why) := by
  rintro ⟨s', why, overflow⟩
  rcases h : s.perform now c with ⟨s₁, answer | r⟩
  · rw [run_answered h] at overflow
    cases answer <;> cases overflow
  · have waits : memory.perform now c s = (s₁, .waiting r) := h
    change memory.run now (.ask c _) opened s = _ at overflow
    rw [run, waits] at overflow
    cases overflow

namespace Service

variable {service : Service} {client : Client} {fresh : Fresh} {now : Timestamp} {s : Store}
    {u : User}

/-- Whoever has been found right gets an answer exactly if both tokens expire within the
calendar. -/
theorem run_grant_overflows_iff :
    (∃ s' why, Backend.memory.run now (service.grant client u fresh now).run [] s =
      (s', .overflow why)) ↔
    ¬ (Timestamp.Holds (now.seconds + service.accessDuration.seconds) ∧
      Timestamp.Holds (now.seconds + service.refreshDuration.seconds)) := by
  unfold grant
  by_cases access : Timestamp.Holds (now.seconds + service.accessDuration.seconds)
  · obtain ⟨accessToken, accessPayload, accessIssued⟩ :=
      service.key.exists_issue fresh.accessId u.username .access access
    rw [accessIssued]
    by_cases refresh : Timestamp.Holds (now.seconds + service.refreshDuration.seconds)
    · obtain ⟨refreshToken, payload, refreshIssued⟩ :=
        service.key.exists_issue fresh.refreshId u.username .refresh refresh
      rw [refreshIssued]
      exact iff_of_false (Backend.not_overflows_call _ _ _) (not_not_intro ⟨access, refresh⟩)
    · rw [Key.issue_eq_error refresh]
      exact iff_of_true ⟨_, _, rfl⟩ fun h => refresh h.2
  · rw [Key.issue_eq_error access]
    exact iff_of_true ⟨_, _, rfl⟩ fun h => access h.1

/-- A renewal that is admitted gets an answer exactly if the new token expires within the
calendar. -/
theorem run_renew_overflows_iff {token : String} (id : Uuid) {payload : Payload} {x : Session}
    (verified : service.key.verify token .refresh now = .ok payload)
    (found : s.tables.session? payload.id = some x)
    (admitted : x.admits payload token now = .ok ()) :
    (∃ s' why, Backend.memory.run now (service.renew token id now).run [] s =
      (s', .overflow why)) ↔
    ¬ Timestamp.Holds (now.seconds + service.accessDuration.seconds) := by
  by_cases held : Timestamp.Holds (now.seconds + service.accessDuration.seconds)
  · obtain ⟨answer, hrun, _⟩ := service.run_renew token id held s
    refine iff_of_false ?_ (not_not_intro held)
    rintro ⟨s', why, overflow⟩
    cases hrun.symm.trans overflow
  · refine iff_of_true ?_ held
    unfold renew
    rw [verified]
    change ∃ s' why, Backend.memory.run now (Attempt.mapError
      (Refusal.ofLookup (.session payload.id)) (Attempt.call (.getSession payload.id)) >>= _).run []
        s = (s', .overflow why)
    rw [Backend.run_read rfl rfl]
    simp only [Store.getSession, found, admitted, Key.issue_eq_error held]
    exact ⟨_, _, rfl⟩

end Service

/-! ## Configurations -/

/-- Credentials of a user in the store. -/
structure Credentials.Right (c : Credentials) (s : Store) (u : User) : Prop where
  valid : c.check = .ok ()
  found : s.tables.user? c.username = some u
  verified : Password.check c.password u.hashedPassword = .ok (.ok ())

/-- A refresh token that is good for a session in the store. -/
structure Service.Honours (service : Service) (token : String) (now : Timestamp) (s : Store)
    (payload : Payload) (x : Session) : Prop where
  verified : service.key.verify token .refresh now = .ok payload
  found : s.tables.session? payload.id = some x
  admitted : x.admits payload token now = .ok ()

/-- The refresh token of a login is good at once. -/
theorem Service.exists_honours (service : Service) (client : Client) {c : Credentials}
    {fresh : Fresh} {now : Timestamp} {s : Store} {u : User} (right : c.Right s u)
    (unused : s.tables.session? fresh.refreshId = none) (later : Timestamp.epoch ≤ now)
    (ahead : now ≤ .ofSeconds (now.seconds + service.refreshDuration.seconds))
    (access : Timestamp.Holds (now.seconds + service.accessDuration.seconds))
    (refresh : Timestamp.Holds (now.seconds + service.refreshDuration.seconds)) :
    ∃ s' l payload x, Backend.memory.run now (service.login client c fresh now).run [] s =
        (s', .finished (.ok l)) ∧ service.Honours l.refreshToken now s' payload x := by
  obtain ⟨l, payload, login, user, id, expires, issued⟩ :=
    service.run_login client fresh right.valid right.found right.verified access refresh unused
  have unexpired : now.seconds ≤ now.seconds + service.refreshDuration.seconds := by
    simpa using Timestamp.seconds_le ahead
  have verify := Key.verify_issued issued later (by omega) now
  obtain ⟨_, rfl, _⟩ := Key.issue_eq_ok_iff.mp issued
  rw [if_pos (by simpa using unexpired)] at verify
  have opened : (s.tables.sessions ++ [l.session client now]).find?
      (fun x => x.id == fresh.refreshId) = some (l.session client now) :=
    Store.find?_append_cons unused (by simpa [Login.session] using id)
  refine ⟨_, l, _, _, login, verify, opened,
    Session.admits_eq_ok_iff.mpr ⟨rfl, congrArg User.username user, rfl, ?_⟩⟩
  rw [Login.session, expires]
  exact ahead

/-- When arithmetic with the lifetimes of a configuration overflows: at the start if one of them is
no span, and later if a new token would expire beyond the calendar. -/
theorem Config.overflows_iff {c : Config} {key : Key} (h : Key.ofText? c.tokenKey = .ok key) :
    ((∃ why, Service.start c = .error (.overflow why)) ↔
      ¬ (Span.InBounds (c.accessTokenMinutes.toInt * 60) ∧
        Span.InBounds (c.refreshTokenHours.toInt * 3600))) ∧
    ((¬ ∃ why, Service.start c = .error (.overflow why)) →
      ∃ service, Service.start c = .ok service) ∧
    ∀ service, Service.start c = .ok service → ∀ (now : Timestamp) (s : Store),
      (∀ client credentials fresh u, credentials.Right s u →
        ((∃ s' why, Backend.memory.run now (service.login client credentials fresh now).run [] s =
          (s', .overflow why)) ↔
        ¬ (Timestamp.Holds (now.seconds + c.accessTokenMinutes.toInt * 60) ∧
          Timestamp.Holds (now.seconds + c.refreshTokenHours.toInt * 3600)))) ∧
      ∀ token id payload x, service.Honours token now s payload x →
        ((∃ s' why, Backend.memory.run now (service.renew token id now).run [] s =
          (s', .overflow why)) ↔
        ¬ Timestamp.Holds (now.seconds + c.accessTokenMinutes.toInt * 60)) := by
  rw [start_eq h]
  by_cases access : Span.InBounds (c.accessTokenMinutes.toInt * 60)
  · by_cases refresh : Span.InBounds (c.refreshTokenHours.toInt * 3600)
    · simp only [if_pos access, if_pos refresh]
      refine ⟨iff_of_false (by simp) (not_not_intro ⟨access, refresh⟩), fun _ => ⟨_, rfl⟩, ?_⟩
      rintro service ⟨rfl⟩ now s
      constructor
      · rintro client credentials fresh u ⟨valid, found, verified⟩
        rw [Service.run_login_of_check valid found verified]
        exact Service.run_grant_overflows_iff
      · rintro token id payload x ⟨verified, found, admitted⟩
        exact Service.run_renew_overflows_iff id verified found admitted
    · simp only [if_pos access, if_neg refresh]
      exact ⟨iff_of_true ⟨_, rfl⟩ fun h => refresh h.2, fun h => absurd ⟨_, rfl⟩ h, nofun⟩
  · simp only [if_neg access]
    exact ⟨iff_of_true ⟨_, rfl⟩ fun h => access h.1, fun h => absurd ⟨_, rfl⟩ h, nofun⟩

/-! ## Every lifetime is accepted -/

/-- An environment that sets the lifetimes. -/
def lifetimes (minutes hours : Int) : List (String × String) :=
  [("DATABASE_URL", "postgres://"), ("TOKEN_SYMMETRIC_KEY", "01234567890123456789012345678901"),
    ("ACCESS_TOKEN_MINUTES", String.ofList (Integer.write minutes)),
    ("REFRESH_TOKEN_HOURS", String.ofList (Integer.write hours))]

theorem Config.exists_read_lifetimes (minutes hours : Int64) : ∃ c key,
    read (lifetimes minutes.toInt hours.toInt) = .ok c ∧ Key.ofText? c.tokenKey = .ok key ∧
      c.accessTokenMinutes = minutes ∧ c.refreshTokenHours = hours := by
  have url : fieldOf? "DATABASE_URL" = some .databaseUrl := by decide +kernel
  have text : fieldOf? "TOKEN_SYMMETRIC_KEY" = some .tokenKey := by decide +kernel
  have access : fieldOf? "ACCESS_TOKEN_MINUTES" = some .accessTokenMinutes := by decide +kernel
  have refresh : fieldOf? "REFRESH_TOKEN_HOURS" = some .refreshTokenHours := by decide +kernel
  have number (n : Int64) : Integer.Format.signed64.read (Integer.write n.toInt) = .ok n.toInt :=
    Integer.Format.read_write _ ⟨n.le_toInt, Int.le_of_lt_add_one n.toInt_lt⟩
  have settings : (lifetimes minutes.toInt hours.toInt).foldlM take [] =
      .ok [(.databaseUrl, .text "postgres://"),
        (.tokenKey, .text "01234567890123456789012345678901"),
        (.accessTokenMinutes, .integer minutes.toInt),
        (.refreshTokenHours, .integer hours.toInt)] := by
    simp only [lifetimes, List.foldlM_cons, List.foldlM_nil, take, url, text, access, refresh,
      readSetting, Field.format?, String.toList_ofList, number]
    rfl
  have long : 32 ≤ "01234567890123456789012345678901".length := by decide
  rw [read, settings]
  refine ⟨_, _, rfl, dif_pos long, ?_, ?_⟩
  · exact Int64.ofInt_toInt minutes
  · exact Int64.ofInt_toInt hours

def sampleMember : User := sampleUser.user (List.replicate 16 0) .epoch

theorem right_sampleMember : Credentials.Right ⟨"ada", "secret"⟩
    { Store.empty with tables.users := [sampleMember] } sampleMember where
  valid := by rfl
  found := rfl
  verified := Password.check_hash "secret" (by decide) (by decide)

/-- With lifetimes of 15 minutes and 24 hours, a login at the start of 1970 has an answer, and so
has the renewal that follows. A login in the last second of the calendar has none. -/
theorem Config.overflows_iff_of_defaults : ∃ c key service s u,
    Key.ofText? c.tokenKey = .ok key ∧ Service.start c = .ok service ∧
    Credentials.Right ⟨"ada", "secret"⟩ s u ∧
    (∃ s' l, Backend.memory.run .epoch
        (service.login {} ⟨"ada", "secret"⟩ sampleFresh .epoch).run [] s =
          (s', .finished (.ok l)) ∧
      ¬ ∃ s'' why, Backend.memory.run .epoch
        (service.renew l.refreshToken sampleFresh.accessId .epoch).run [] s' =
          (s'', .overflow why)) ∧
    ∃ s' why, Backend.memory.run (.ofSeconds Timestamp.lastSecond)
      (service.login {} ⟨"ada", "secret"⟩ sampleFresh (.ofSeconds Timestamp.lastSecond)).run [] s =
        (s', .overflow why) := by
  obtain ⟨c, key, _, long, minutes, hours⟩ := exists_read_lifetimes 15 24
  have access : c.accessTokenMinutes.toInt = 15 := by rw [minutes]; rfl
  have refresh : c.refreshTokenHours.toInt = 24 := by rw [hours]; rfl
  obtain ⟨_, _, later⟩ := overflows_iff long
  have started := start_eq long
  rw [access, refresh] at later started
  rw [if_pos (by decide), if_pos (by decide)] at started
  have ahead : Timestamp.epoch ≤ .ofSeconds (Timestamp.epoch.seconds + 24 * 3600) := by decide
  have accessHeld : Timestamp.Holds (Timestamp.epoch.seconds + 15 * 60) := by decide
  have refreshHeld : Timestamp.Holds (Timestamp.epoch.seconds + 24 * 3600) := by decide
  have unused : Store.empty.tables.session? sampleFresh.refreshId = none := rfl
  obtain ⟨s, l, payload, x, hlogin, honours⟩ := Service.exists_honours
    ⟨key, ⟨15 * 60⟩, ⟨24 * 3600⟩, c.requestTimeoutSeconds⟩ {} right_sampleMember unused
    (Int.le_refl _) ahead accessHeld refreshHeld
  refine ⟨c, key, _, _, _, long, started, right_sampleMember, ⟨s, l, hlogin, ?_⟩, ?_⟩
  · exact fun overflow => ((later _ started .epoch s).2 _ _ _ _ honours).mp overflow (by decide)
  · exact ((later _ started _ _).1 {} _ sampleFresh _ right_sampleMember).mpr (by decide)

/-- A lifetime that is accepted need not be a span. -/
theorem Config.exists_overflow : ¬ ∀ (env : List (String × String)) (c : Config) (key : Key),
    read env = .ok c → Key.ofText? c.tokenKey = .ok key →
      ∃ service, Service.start c = .ok service := by
  intro starts
  obtain ⟨c, key, hread, long, minutes, _⟩ := exists_read_lifetimes 9223372036854775807 24
  have access : c.accessTokenMinutes.toInt = 9223372036854775807 := by rw [minutes]; rfl
  obtain ⟨service, started⟩ := starts _ c key hread long
  rw [start_eq long, access, if_neg (by decide)] at started
  cases started

end Giro
