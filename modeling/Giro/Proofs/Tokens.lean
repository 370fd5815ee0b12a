import Giro.Proofs.ReadBack
import Giro.Token.Key

/-!
# Tokens that are issued are read back

Whoever has the key reads from a token the claims that were written into it, whatever the name of
the user.
-/

namespace Giro

open Codec Json Text

theorem guard_eq_some {p : Prop} [Decidable p] (h : p) :
    (guard p : Option Unit) = some () :=
  if_pos h

namespace Claims

/-- The members of written claims. -/
def fields (c : Claims) : List Field :=
  [⟨"jti", _, _, spells_text c.id.text⟩, ⟨"sub", _, _, spells_text c.subject⟩,
    ⟨"typ", _, _, spells_text c.kind.name⟩, ⟨"iat", _, _, spells_integer c.issuedAt⟩,
    ⟨"exp", _, _, spells_integer c.expiresAt⟩]

theorem write_eq (c : Claims) :
    c.write = 123 :: (joinBytes 44 (c.fields.map Field.write) ++ [125]) := by
  simp [write, fields, Json.write, Field.write]

theorem ofName?_name (k : TokenKind) : TokenKind.ofName? k.name = some k := by
  cases k <;> decide

theorem exists_members (c : Claims) :
    ∃ ms, List.Forall₂ Field.Shows c.fields ms ∧ members? c.write = some ms := by
  rw [write_eq]
  exact Field.members?_written _ _

/-- Claims with 64-bit dates are read as they are written. -/
theorem read_write (c : Claims) (issued : Integer.Format.signed64.Fits c.issuedAt)
    (expires : Integer.Format.signed64.Fits c.expiresAt) :
    read c.write = some { c with hasAudience := false } := by
  obtain ⟨ms, shows, hms⟩ := c.exists_members
  have jti : Member.only? "jti" ms = some (.text (.ok c.id.text)) :=
    Field.only?_of_filter shows _ rfl
  have sub : Member.only? "sub" ms = some (.text (.ok c.subject)) :=
    Field.only?_of_filter shows _ rfl
  have typ : Member.only? "typ" ms = some (.text (.ok c.kind.name)) :=
    Field.only?_of_filter shows _ rfl
  have iat : Member.only? "iat" ms = some (.number (numeralOf c.issuedAt)) :=
    Field.only?_of_filter shows _ rfl
  have exp : Member.only? "exp" ms = some (.number (numeralOf c.expiresAt)) :=
    Field.only?_of_filter shows _ rfl
  have aud : Member.slotsOf "aud" ms = [] := Field.slotsOf_eq_nil shows _ rfl
  have nothing {α : Type} (reader : List UInt8 → Except Stop (α × List UInt8)) {name : String}
      (h : Member.slotsOf name ms = []) : isTolerable reader name ms := by
    rw [isTolerable, h]
  have date {n : Int} (h : Integer.Format.signed64.Fits n) :
      Value.integer? (.number (numeralOf n)) = some n := integer?_numeralOf h
  rw [read, hms]
  dsimp only [Option.bind_eq_bind, Option.bind_some]
  rw [jti, sub, typ, iat, exp, guard_eq_some (nothing _ (Field.slotsOf_eq_nil shows "nbf" rfl)),
    guard_eq_some (nothing _ (Field.slotsOf_eq_nil shows "iss" rfl)),
    guard_eq_some (nothing _ aud), aud]
  dsimp only [Option.bind_some, Value.text?, Value.choice?]
  rw [Uuid.ofText?_text, ofName?_name, date issued, date expires]
  rfl

end Claims

namespace Timestamp

theorem seconds_eq_ediv (t : Timestamp) : t.seconds = t.nanos / 1000000000 :=
  Int.fdiv_eq_ediv_of_nonneg _ (by decide)

theorem seconds_le {a b : Timestamp} (h : a ≤ b) : a.seconds ≤ b.seconds := by
  have : a.nanos ≤ b.nanos := h
  rw [seconds_eq_ediv, seconds_eq_ediv]
  omega

theorem seconds_nonneg {t : Timestamp} (h : epoch ≤ t) : 0 ≤ t.seconds := seconds_le h

/-- Dates that are added without an overflow start in the calendar. -/
theorem holds_of_add {t : Timestamp} {duration : Span} (later : epoch ≤ t)
    (forward : 0 ≤ duration.seconds) (h : Holds (t.seconds + duration.seconds)) :
    Holds t.seconds := by
  have := seconds_nonneg later
  have := h.2
  simp only [Holds, firstSecond, lastSecond] at *
  omega

end Timestamp

namespace Key

variable (key : Key)

theorem not_mem_base64 (bytes : List UInt8) : '.' ∉ Base64.encode .url bytes :=
  Base64.not_mem_encode (by decide) bytes

theorem accepts_writeHeader : Token.Header.accepts Token.writeHeader = true := by
  rw [Token.writeHeader, Json.write]
  simp only [List.map, Json.write]
  decide +kernel

/-- Whoever has the key reads the claims back. -/
theorem decode?_encode (c : Claims) (issued : Integer.Format.signed64.Fits c.issuedAt)
    (expires : Integer.Format.signed64.Fits c.expiresAt) :
    key.decode? (key.encode c) = some { c with hasAudience := false } := by
  have header : (Base64.decode .url (Base64.encode .url Token.writeHeader)).any
      Token.Header.accepts := by
    rw [Base64.decode_encode Base64.Alphabet.proper_url]
    exact accepts_writeHeader
  have signature : '.' ∉ key.sign (Base64.encode .url Token.writeHeader ++
      '.' :: Base64.encode .url c.write) := not_mem_base64 _
  rw [decode?, encode, cutLast?_append _ signature]
  dsimp only [Option.bind_eq_bind, Option.bind_some]
  rw [cutLast?_append _ (not_mem_base64 _)]
  dsimp only [Option.bind_some]
  rw [guard_eq_some header, guard_eq_some rfl, Base64.decode_encode Base64.Alphabet.proper_url]
  exact c.read_write issued expires

/-! ## Issuing and verifying -/

variable {key} {id : Uuid} {username token : String} {kind : TokenKind} {duration : Span}
    {now : Timestamp} {payload : Payload}

theorem issue_eq_ok_iff : key.issue id username kind duration now = .ok (token, payload) ↔
    Timestamp.Holds (now.seconds + duration.seconds) ∧
    payload = ⟨id, username, now.wholeSecond, .ofSeconds (now.seconds + duration.seconds)⟩ ∧
    token = String.ofList (key.encode
      ⟨id, username, kind, now.seconds, now.seconds + duration.seconds, false⟩) := by
  have moved : (⟨now.wholeSecond.nanos + duration.seconds * 1000000000⟩ : Timestamp) =
      .ofSeconds (now.seconds + duration.seconds) := by
    simp only [Timestamp.wholeSecond, Timestamp.ofSeconds, Int.add_mul]
  by_cases held : Timestamp.Holds (now.seconds + duration.seconds)
  · simp [issue, Timestamp.shift, held, moved, bind, Except.bind, pure, Except.pure, and_comm,
      eq_comm]
  · simp [issue, Timestamp.shift, held, bind, Except.bind]

theorem exists_issue (key : Key) (id : Uuid) (username : String) (kind : TokenKind)
    (held : Timestamp.Holds (now.seconds + duration.seconds)) :
    ∃ token payload, key.issue id username kind duration now = .ok (token, payload) :=
  ⟨_, _, issue_eq_ok_iff.mpr ⟨held, rfl, rfl⟩⟩

theorem fits_of_holds {s : Int} (h : Timestamp.Holds s) : Integer.Format.signed64.Fits s := by
  obtain ⟨first, last⟩ := h
  simp only [Timestamp.firstSecond, Timestamp.lastSecond] at first last
  constructor <;> simp only [Integer.Format.signed64] <;> omega

/-- A whole second of the calendar is a date. -/
theorem ofSeconds?_of_holds {s : Int} (held : Timestamp.Holds s) :
    Timestamp.ofSeconds? s = some (.ofSeconds s) :=
  Timestamp.ofSeconds?_eq_some_iff.mpr ⟨held, rfl⟩

/-- What the token is worth that has been issued: an expiry before 1970 is noticed first, then that
the expiry has passed, then that another kind is wanted. -/
theorem verify_of_issue (h : key.issue id username kind duration now = .ok (token, payload))
    (held : Timestamp.Holds now.seconds) (wanted : TokenKind) (t : Timestamp) :
    key.verify token wanted t =
      if payload.expiresAt.seconds < 0 then .error .invalid
      else if payload.expiresAt.seconds < t.seconds then .error .expired
      else if wanted = kind then .ok payload
      else .error .invalid := by
  obtain ⟨expires, rfl, rfl⟩ := issue_eq_ok_iff.mp h
  have read := key.decode?_encode
    ⟨id, username, kind, now.seconds, now.seconds + duration.seconds, false⟩
    (fits_of_holds held) (fits_of_holds expires)
  rw [verify, String.toList_ofList, read]
  simp only [Claims.judge, Timestamp.seconds_ofSeconds, ofSeconds?_of_holds held,
    ofSeconds?_of_holds expires, Bool.false_eq_true, if_false, Timestamp.wholeSecond]
  by_cases same : wanted = kind
  · rw [if_pos same, if_neg (not_not_intro same.symm)]
  · rw [if_neg same, if_pos (Ne.symm same)]

/-- Until it expires, a token stands for its payload. -/
theorem verify_issued (h : key.issue id username kind duration now = .ok (token, payload))
    (later : Timestamp.epoch ≤ now) (forward : 0 ≤ duration.seconds) (t : Timestamp) :
    key.verify token kind t =
      if t.seconds ≤ payload.expiresAt.seconds then .ok payload else .error .expired := by
  obtain ⟨expires, rfl, _⟩ := issue_eq_ok_iff.mp h
  have future : ¬ now.seconds + duration.seconds < 0 := by
    have := Timestamp.seconds_nonneg later
    omega
  rw [verify_of_issue h (Timestamp.holds_of_add later forward expires)]
  simp only [Timestamp.seconds_ofSeconds, if_neg future, if_true]
  by_cases expired : now.seconds + duration.seconds < t.seconds
  · rw [if_pos expired, if_neg (by omega)]
  · rw [if_neg expired, if_pos (Int.not_lt.mp expired)]

/-- Whatever the name of the user and whenever it is issued, a token is given out if its expiry is
in the calendar, and then whoever has the key learns from it, at any time, exactly what has been
issued: a token that expires before 1970 is invalid, one that has expired is so for either kind, and
any other stands for its payload and for one kind only. -/
theorem round_trips (key : Key) (id : Uuid) (username : String) (kind : TokenKind)
    (duration : Span) (now : Timestamp) (held : Timestamp.Holds now.seconds)
    (expires : Timestamp.Holds (now.seconds + duration.seconds)) :
    ∃ token payload, key.issue id username kind duration now = .ok (token, payload) ∧
      payload = ⟨id, username, now.wholeSecond, .ofSeconds (now.seconds + duration.seconds)⟩ ∧
      ∀ wanted t, key.verify token wanted t =
        if payload.expiresAt.seconds < 0 then .error .invalid
        else if payload.expiresAt.seconds < t.seconds then .error .expired
        else if wanted = kind then .ok payload
        else .error .invalid := by
  obtain ⟨token, payload, issued⟩ := exists_issue key id username kind expires
  obtain ⟨_, hpayload, _⟩ := issue_eq_ok_iff.mp issued
  exact ⟨token, payload, issued, hpayload, verify_of_issue issued held⟩

def sampleKey : Key := ⟨"01234567890123456789012345678901", by decide⟩

/-- A quote, a backslash, a control character and a letter beyond the basic plane. -/
def oddName : String := "\"\\\u0001𝔸"

/-- An odd name is read back in the very second of the expiry, and no second later. -/
theorem round_trips_of_oddName : ∃ token payload,
    sampleKey.issue (.random (List.replicate 16 0) rfl) oddName .refresh ⟨90⟩ (.ofSeconds (-60)) =
      .ok (token, payload) ∧
    payload.username = oddName ∧
    sampleKey.verify token .refresh (.ofSeconds 30) = .ok payload ∧
    sampleKey.verify token .access (.ofSeconds 30) = .error .invalid ∧
    sampleKey.verify token .access (.ofSeconds 31) = .error .expired := by
  obtain ⟨token, payload, issued, hpayload, verify⟩ :=
    round_trips sampleKey (.random (List.replicate 16 0) rfl) oddName .refresh ⟨90⟩
      (.ofSeconds (-60)) (by decide) (by decide)
  have expiry : payload.expiresAt.seconds = 30 := by
    rw [hpayload]
    rfl
  have name : payload.username = oddName := by rw [hpayload]
  simp only [expiry] at verify
  refine ⟨token, payload, issued, name, ?_, ?_, ?_⟩
  · rw [verify]
    rfl
  · rw [verify]
    rfl
  · rw [verify]
    rfl

end Key
end Giro
