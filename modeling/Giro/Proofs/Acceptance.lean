import Giro.Proofs.Tokens
import Mathlib.Data.Option.Basic

/-!
# What an accepted token says

Nothing is known here of who has written a token. If it is accepted, it is three segments, of which
the last is what the key makes of the others, and its claims are what the payload says. Its claims
never change, so there is one kind and one expiry for all times: a token that is accepted has been
acceptable before, and one that has expired stays so.
-/

namespace Giro

open Codec Digest Json Text

/-! ## Segments -/

namespace Text

variable {separator : Char} {cs before after : List Char}

theorem cutLast?_eq_some (h : cutLast? separator cs = some (before, after)) :
    cs = before ++ separator :: after ∧ separator ∉ after := by
  have uncut : ∀ cs : List Char, cutLast? separator cs = none → separator ∉ cs := by
    intro cs
    induction cs with
    | nil => simp
    | cons c cs ih =>
      intro hnone
      unfold cutLast? at hnone
      cases hrest : cutLast? separator cs with
      | some parts => simp [hrest] at hnone
      | none =>
        have other : c ≠ separator := by
          rintro rfl
          simp [hrest] at hnone
        simp [other.symm, ih hrest]
  induction cs generalizing before with
  | nil => cases h
  | cons c cs ih =>
    unfold cutLast? at h
    cases hrest : cutLast? separator cs with
    | some parts =>
      obtain ⟨front, back⟩ := parts
      rw [hrest] at h
      cases h
      obtain ⟨heq, hback⟩ := ih hrest
      exact ⟨by rw [heq, List.cons_append], hback⟩
    | none =>
      by_cases hc : c = separator
      · simp only [hrest, if_pos hc, Option.some.injEq, Prod.mk.injEq] at h
        obtain ⟨rfl, rfl⟩ := h
        exact ⟨by rw [hc, List.nil_append], uncut _ hrest⟩
      · simp [hrest, hc] at h

end Text

/-- What can be decoded has no other symbols than those of the alphabet. -/
theorem Codec.Base64.not_mem_of_decode {a : Base64.Alphabet} {c : Char} {cs : List Char}
    {bytes : List UInt8} (h : Base64.decode a cs = some bytes) (stranger : a.value? c = none) :
    c ∉ cs := by
  have unread : ∀ {cs : List Char} {ns : List Nat}, cs.mapM a.value? = some ns → c ∉ cs := by
    intro cs
    induction cs with
    | nil => simp
    | cons d cs ih =>
      intro ns read
      rw [List.mapM_cons] at read
      obtain ⟨n, hn, more⟩ := Option.bind_eq_some_iff.mp read
      obtain ⟨ms, hms, _⟩ := Option.bind_eq_some_iff.mp more
      have other : c ≠ d := by
        rintro rfl
        rw [stranger] at hn
        cases hn
      simp [other, ih hms]
  obtain ⟨ns, read, _⟩ := Option.bind_eq_some_iff.mp h
  exact unread read

/-! ## Headers -/

namespace Token.Header

/-- The method that a header names. -/
def method? (input : List UInt8) : Option String :=
  match Outline.read input with
  | .object members _ => (Member.only? "alg" members).bind Value.choice?
  | .list (_ :: method :: _) _ => method.value.choice?
  | _ => none

theorem choice?_of_isMethod {s : Slot} (h : isMethod s) : s.value.choice? = some "HS256" :=
  beq_iff_eq.mp h

theorem choice?_of_acceptsMembers {members : List Member} (h : acceptsMembers members) :
    (Member.only? "alg" members).bind Value.choice? = some "HS256" := by
  obtain ⟨present, each⟩ := Bool.and_eq_true_iff.mp h
  have method := List.all_eq_true.mp each ("alg", isMethod) (by simp [fields])
  unfold Member.only? at present ⊢
  split at present
  · rename_i s hs
    dsimp only at method
    rw [hs] at method
    exact choice?_of_isMethod method
  · cases present

theorem method?_of_accepts {input : List UInt8} (h : accepts input) :
    method? input = some "HS256" := by
  unfold accepts at h
  unfold method?
  split at h
  · rename_i members rest hread
    rw [hread]
    exact choice?_of_acceptsMembers (Bool.and_eq_true_iff.mp h).2
  · rename_i items rest hread
    obtain ⟨sized, each⟩ := Bool.and_eq_true_iff.mp h
    have length : items.length = fields.length := by simpa using (Bool.and_eq_true_iff.mp sized).2
    obtain ⟨first, method, others, rfl⟩ :
        ∃ first method others, items = first :: method :: others := by
      match items, length with
      | first :: method :: others, _ => exact ⟨first, method, others, rfl⟩
    rw [hread]
    have second := List.all_eq_true.mp each (("alg", isMethod), method) (by simp [fields])
    exact choice?_of_isMethod second
  · cases h

end Token.Header

/-! ## Claims -/

/-- The members of a document say what is in a payload, and the kind. -/
structure Payload.StatedBy (p : Payload) (kind : TokenKind) (members : List Member) : Prop where
  id : ((Member.only? "jti" members).bind Value.text?).bind Uuid.ofText? = some p.id
  username : (Member.only? "sub" members).bind Value.text? = some p.username
  kind : ((Member.only? "typ" members).bind Value.choice?).bind TokenKind.ofName? = some kind
  issuedAt : ((Member.only? "iat" members).bind Value.integer?).bind Timestamp.ofSeconds? =
    some p.issuedAt
  expiresAt : ((Member.only? "exp" members).bind Value.integer?).bind Timestamp.ofSeconds? =
    some p.expiresAt

namespace Claims

variable {c : Claims} {kind : TokenKind} {t : Timestamp} {p : Payload}

/-- Claims that are read are the members of an object. -/
theorem read_eq_some {input : List UInt8} (h : read input = some c) :
    ∃ members, members? input = some members ∧
      ((Member.only? "jti" members).bind Value.text?).bind Uuid.ofText? = some c.id ∧
      (Member.only? "sub" members).bind Value.text? = some c.subject ∧
      ((Member.only? "typ" members).bind Value.choice?).bind TokenKind.ofName? = some c.kind ∧
      (Member.only? "iat" members).bind Value.integer? = some c.issuedAt ∧
      (Member.only? "exp" members).bind Value.integer? = some c.expiresAt := by
  unfold read at h
  obtain ⟨members, hmembers, h⟩ := Option.bind_eq_some_iff.mp h
  obtain ⟨jti, hjti, h⟩ := Option.bind_eq_some_iff.mp h
  obtain ⟨idText, hidText, h⟩ := Option.bind_eq_some_iff.mp h
  obtain ⟨id, hid, h⟩ := Option.bind_eq_some_iff.mp h
  obtain ⟨sub, hsub, h⟩ := Option.bind_eq_some_iff.mp h
  obtain ⟨subject, hsubject, h⟩ := Option.bind_eq_some_iff.mp h
  obtain ⟨typ, htyp, h⟩ := Option.bind_eq_some_iff.mp h
  obtain ⟨name, hname, h⟩ := Option.bind_eq_some_iff.mp h
  obtain ⟨kind, hkind, h⟩ := Option.bind_eq_some_iff.mp h
  obtain ⟨iat, hiat, h⟩ := Option.bind_eq_some_iff.mp h
  obtain ⟨issuedAt, hissued, h⟩ := Option.bind_eq_some_iff.mp h
  obtain ⟨exp, hexp, h⟩ := Option.bind_eq_some_iff.mp h
  obtain ⟨expiresAt, hexpires, h⟩ := Option.bind_eq_some_iff.mp h
  obtain ⟨_, _, h⟩ := Option.bind_eq_some_iff.mp h
  obtain ⟨_, _, h⟩ := Option.bind_eq_some_iff.mp h
  obtain ⟨_, _, hc⟩ := Option.bind_eq_some_iff.mp h
  cases hc
  refine ⟨members, hmembers, ?_, ?_, ?_, ?_, ?_⟩
  · rw [hjti, Option.bind_some, hidText]
    exact hid
  · rw [hsub]
    exact hsubject
  · rw [htyp, Option.bind_some, hname]
    exact hkind
  · rw [hiat]
    exact hissued
  · rw [hexp]
    exact hexpires

theorem judge_eq_expired_iff :
    c.judge kind t = .error .expired ↔ 0 ≤ c.expiresAt ∧ c.expiresAt < t.seconds := by
  by_cases early : c.expiresAt < 0
  · exact iff_of_false (by simp [judge, early]) fun h => by omega
  · by_cases late : c.expiresAt < t.seconds
    · simp [judge, early, late, Int.not_lt.mp early]
    · have verdict : c.judge kind t ≠ .error .expired := by
        rw [judge, if_neg early, if_neg late]
        split_ifs
        · simp
        · simp
        · split <;> simp
      exact iff_of_false verdict fun h => late h.2

theorem judge_eq_ok_iff : c.judge kind t = .ok p ↔
    0 ≤ c.expiresAt ∧ t.seconds ≤ c.expiresAt ∧ c.hasAudience = false ∧ c.kind = kind ∧
    p.id = c.id ∧ p.username = c.subject ∧ Timestamp.ofSeconds? c.issuedAt = some p.issuedAt ∧
    Timestamp.ofSeconds? c.expiresAt = some p.expiresAt := by
  obtain ⟨id, username, issuedAt, expiresAt⟩ := p
  unfold judge
  split_ifs with early late audience other
  · exact iff_of_false (by simp) fun h => by omega
  · exact iff_of_false (by simp) fun h => by omega
  · exact iff_of_false (by simp) fun h => by simp [audience] at h
  · exact iff_of_false (by simp) fun h => other h.2.2.2.1
  · split
    · rename_i hissued hexpires
      simp only [Except.ok.injEq, Payload.mk.injEq, hissued, hexpires, Option.some.injEq]
      constructor
      · rintro ⟨rfl, rfl, rfl, rfl⟩
        exact ⟨by omega, by omega, by simpa using audience, not_not.mp other, rfl, rfl, rfl, rfl⟩
      · rintro ⟨_, _, _, _, rfl, rfl, rfl, rfl⟩
        exact ⟨rfl, rfl, rfl, rfl⟩
    · rename_i beyond
      exact iff_of_false (by simp) fun h => beyond _ _ h.2.2.2.2.2.2.1 h.2.2.2.2.2.2.2

/-- What is accepted at some time was acceptable before. -/
theorem judge_of_earlier {t' : Timestamp} (h : c.judge kind t = .ok p) (earlier : t' ≤ t) :
    c.judge kind t' = .ok p := by
  obtain ⟨future, inTime, others⟩ := judge_eq_ok_iff.mp h
  exact judge_eq_ok_iff.mpr ⟨future, Int.le_trans (Timestamp.seconds_le earlier) inTime, others⟩

theorem judge_of_later {t' : Timestamp} (h : c.judge kind t = .error .expired) (later : t ≤ t')
    (other : TokenKind) : c.judge other t' = .error .expired := by
  obtain ⟨future, late⟩ := judge_eq_expired_iff.mp h
  exact judge_eq_expired_iff.mpr ⟨future, Int.lt_of_lt_of_le late (Timestamp.seconds_le later)⟩

end Claims

/-! ## Tokens -/

namespace Key

variable {key : Key} {token : String} {kind : TokenKind} {t : Timestamp} {payload : Payload}

theorem verify_eq_ok_iff : key.verify token kind t = .ok payload ↔
    ∃ c, key.decode? token.toList = some c ∧ c.judge kind t = .ok payload := by
  unfold verify
  cases key.decode? token.toList <;> simp

theorem verify_eq_expired_iff : key.verify token kind t = .error .expired ↔
    ∃ c, key.decode? token.toList = some c ∧ c.judge kind t = .error .expired := by
  unfold verify
  cases key.decode? token.toList <;> simp

theorem not_mem_of_decode {segment : List Char} {bytes : List UInt8}
    (h : Base64.decode .url segment = some bytes) : '.' ∉ segment :=
  Base64.not_mem_of_decode h (by decide)

/-- Claims are read from three segments only, the last of which the key makes of the others. -/
theorem exists_segments {cs : List Char} {c : Claims} (h : key.decode? cs = some c) :
    ∃ header claims, fields '.' cs = [header, claims, key.sign (header ++ '.' :: claims)] ∧
      (Base64.decode .url header).bind Token.Header.method? = some "HS256" ∧
      (Base64.decode .url claims).bind Claims.read = some c := by
  simp only [decode?, Option.bind_eq_bind, Option.bind_eq_some_iff] at h
  obtain ⟨⟨message, signature⟩, hmessage, ⟨header, claims⟩, hheader, _, accepted, _, signed, bytes,
    hclaims, hread⟩ := h
  obtain ⟨rfl, _⟩ := cutLast?_eq_some hmessage
  obtain ⟨rfl, _⟩ := cutLast?_eq_some hheader
  obtain rfl : signature = key.sign (header ++ '.' :: claims) := (Option.guard_eq_some' _).mp signed
  obtain ⟨headerBytes, hheader, allowed⟩ :=
    (Option.any_eq_true _ _).mp ((Option.guard_eq_some' _).mp accepted)
  dsimp only at hheader hclaims
  have unseparated : '.' ∉ key.sign (header ++ '.' :: claims) := not_mem_base64 _
  refine ⟨header, claims, ?_, ?_, ?_⟩
  · rw [List.append_assoc, List.cons_append, fields_append (not_mem_of_decode hheader),
      fields_append (not_mem_of_decode hclaims), fields_of_not_mem unseparated]
  · rw [hheader]
    exact Token.Header.method?_of_accepts allowed
  · rw [hclaims]
    exact hread

/-- Behind a header and claims in Base64, only one signature is accepted. -/
theorem signature_unique {header claims signature : List Char}
    (hheader : '.' ∉ header) (hclaims : '.' ∉ claims)
    (accepted : key.verify (String.ofList (header ++ '.' :: claims ++ '.' :: signature)) kind t =
      .ok payload) : signature = key.sign (header ++ '.' :: claims) := by
  obtain ⟨c, hc, _⟩ := verify_eq_ok_iff.mp accepted
  obtain ⟨header', claims', hfields, _, _⟩ := exists_segments hc
  rw [String.toList_ofList, List.append_assoc, List.cons_append, fields_append hheader,
    fields_append hclaims] at hfields
  obtain ⟨rfl, hrest⟩ := List.cons.inj hfields
  obtain ⟨rfl, hsignature⟩ := List.cons.inj hrest
  rw [← joinFields_fields '.' signature, hsignature]
  rfl

/-- What three segments are if they are accepted together, and what they are accepted for. -/
structure Vouches (key : Key) (header claims signature : List Char) (kind : TokenKind)
    (t : Timestamp) (p : Payload) : Prop where
  method : (Base64.decode .url header).bind Token.Header.method? = some "HS256"
  signed : signature = Base64.encode .url
    (Sha256.hmac (utf8 key.text) (utf8 (String.ofList (header ++ '.' :: claims))))
  /-- No other signature is ever accepted. -/
  unique : ∀ other wanted t' p',
    key.verify (String.ofList (header ++ '.' :: claims ++ '.' :: other)) wanted t' = .ok p' →
      other = signature
  stated : ∃ members, (Base64.decode .url claims).bind members? = some members ∧
    p.StatedBy kind members
  inTime : t.seconds ≤ p.expiresAt.seconds

theorem exists_vouches (h : key.verify token kind t = .ok payload) :
    ∃ header claims signature, fields '.' token.toList = [header, claims, signature] ∧
      key.Vouches header claims signature kind t payload := by
  obtain ⟨c, hc, judged⟩ := verify_eq_ok_iff.mp h
  obtain ⟨header, claims, hfields, method, claimed⟩ := exists_segments hc
  obtain ⟨_, inTime, _, rfl, hid, husername, hissued, hexpires⟩ := Claims.judge_eq_ok_iff.mp judged
  obtain ⟨headerBytes, hheader, _⟩ := Option.bind_eq_some_iff.mp method
  obtain ⟨bytes, hclaims, hread⟩ := Option.bind_eq_some_iff.mp claimed
  obtain ⟨members, hmembers, jti, sub, typ, iat, exp⟩ := Claims.read_eq_some hread
  refine ⟨header, claims, _, hfields, method, rfl, ?_, ⟨members, ?_, ?_⟩, ?_⟩
  · intro other wanted t' p' accepted
    exact signature_unique (not_mem_of_decode hheader) (not_mem_of_decode hclaims) accepted
  · rw [hclaims]
    exact hmembers
  · refine ⟨by rw [jti, hid], by rw [sub, husername], typ, ?_, ?_⟩
    · rw [iat]
      exact hissued
    · rw [exp]
      exact hexpires
  · obtain ⟨_, heq⟩ := Timestamp.ofSeconds?_eq_some_iff.mp hexpires
    rw [heq, Timestamp.seconds_ofSeconds]
    exact inTime

/-- Whoever has written it, a token that is accepted is three segments signed with the key, its
payload is what its claims state, it is accepted for one kind only, and it has been acceptable
before. A token that has expired has done so for either kind and for good. -/
theorem verify_guarantees (key : Key) (token : String) (kind : TokenKind) (t : Timestamp) :
    (∀ payload, key.verify token kind t = .ok payload →
      (∃ header claims signature, fields '.' token.toList = [header, claims, signature] ∧
        key.Vouches header claims signature kind t payload) ∧
      (∀ wanted t' p, key.verify token wanted t' = .ok p → wanted = kind) ∧
      ∀ t' ≤ t, key.verify token kind t' = .ok payload) ∧
    (key.verify token kind t = .error .expired →
      ∀ wanted t', t ≤ t' → key.verify token wanted t' = .error .expired) := by
  constructor
  · intro payload h
    obtain ⟨c, hc, judged⟩ := verify_eq_ok_iff.mp h
    obtain ⟨_, _, _, hkind, _⟩ := Claims.judge_eq_ok_iff.mp judged
    refine ⟨exists_vouches h, ?_, ?_⟩
    · intro wanted t' p accepted
      obtain ⟨c', hc', judged'⟩ := verify_eq_ok_iff.mp accepted
      obtain rfl := Option.some.inj (hc.symm.trans hc')
      obtain ⟨_, _, _, hwanted, _⟩ := Claims.judge_eq_ok_iff.mp judged'
      exact hwanted.symm.trans hkind
    · intro t' earlier
      exact verify_eq_ok_iff.mpr ⟨c, hc, Claims.judge_of_earlier judged earlier⟩
  · intro h wanted t' later
    obtain ⟨c, hc, expired⟩ := verify_eq_expired_iff.mp h
    exact verify_eq_expired_iff.mpr ⟨c, hc, Claims.judge_of_later expired later wanted⟩

/-- A token of the first minute is what it should be in its last second and has been since the
start, and a second later it has expired for good. -/
theorem verify_guarantees_of_issued : ∃ token payload,
    sampleKey.issue (.random (List.replicate 16 0) rfl) "ada" .access ⟨60⟩ .epoch =
      .ok (token, payload) ∧
    (∃ header claims signature, fields '.' token.toList = [header, claims, signature] ∧
      sampleKey.Vouches header claims signature .access (.ofSeconds 60) payload) ∧
    (∀ t ≤ .ofSeconds 60, sampleKey.verify token .access t = .ok payload) ∧
    ∀ wanted t, .ofSeconds 61 ≤ t → sampleKey.verify token wanted t = .error .expired := by
  have expires : Timestamp.Holds (Timestamp.epoch.seconds + Span.seconds ⟨60⟩) := by decide
  obtain ⟨token, payload, issued⟩ :=
    exists_issue sampleKey (.random (List.replicate 16 0) rfl) "ada" .access expires
  have verify := verify_of_issue issued (by decide)
  obtain ⟨_, rfl, _⟩ := issue_eq_ok_iff.mp issued
  have accepted := verify .access (.ofSeconds 60)
  have expired := verify .access (.ofSeconds 61)
  obtain ⟨guarantees, _⟩ := verify_guarantees sampleKey token .access (.ofSeconds 60)
  obtain ⟨vouched, _, earlier⟩ := guarantees _ accepted
  obtain ⟨_, later⟩ := verify_guarantees sampleKey token .access (.ofSeconds 61)
  exact ⟨token, _, issued, vouched, earlier, later expired⟩

end Key
end Giro
