import Mathlib.Data.List.TakeWhile
import Giro.Proofs.Acceptance
import Giro.Proofs.Outage

/-!
# The gate before accounts and transfers

A request presents a token in its first authorization header: two words with blanks between and
around them, the scheme in any case and then the token. The gate opens exactly for a token that the
key accepts as an access token, and the endpoint then acts for the subject of that token. Whoever
is kept out gets one and the same refusal from every store, and no store is asked:
`Service.gate_exact`.
-/

namespace Giro

open Codec Http Json Text

namespace Http

/-! ## Words -/

def AllBlank (cs : List Char) : Prop := ∀ c ∈ cs, isBlank c

structure IsWord (w : List Char) : Prop where
  nonempty : w ≠ []
  unbroken : ∀ c ∈ w, ¬ isBlank c

/-- A word ends where this starts. -/
def Breaks (rest : List Char) : Prop := ∀ c ∈ rest.head?, isBlank c

theorem words_blanks {blanks : List Char} (h : AllBlank blanks) (cs : List Char) :
    words (blanks ++ cs) = words cs := by
  induction blanks with
  | nil => rfl
  | cons c blanks ih =>
    obtain ⟨hc, hblanks⟩ := List.forall_mem_cons.mp h
    rw [List.cons_append, words.eq_def]
    simp only [if_pos hc, ih hblanks]

theorem words_word {w rest : List Char} (h : IsWord w) (hrest : Breaks rest) :
    words (w ++ rest) = w :: words rest := by
  obtain ⟨nonempty, unbroken⟩ := h
  induction w with
  | nil => exact absurd rfl nonempty
  | cons c w ih =>
    obtain ⟨hc, hw⟩ := List.forall_mem_cons.mp unbroken
    cases w with
    | nil =>
      cases rest with
      | nil => simp [words, hc]
      | cons d rest => simp [words, hc, hrest d rfl]
    | cons d w =>
      have tail : words (d :: (w ++ rest)) = (d :: w) :: words rest := ih (by simp) hw
      have hd := (List.forall_mem_cons.mp hw).1
      rw [List.cons_append, List.cons_append, words, if_neg hc]
      simp only [if_neg hd, tail]

theorem exists_span (p : Char → Bool) (cs : List Char) : ∃ front back, cs = front ++ back ∧
    (∀ c ∈ front, p c) ∧ ∀ c ∈ back.head?, p c = false := by
  refine ⟨cs.takeWhile p, cs.dropWhile p, List.takeWhile_append_dropWhile.symm,
    fun c => List.mem_takeWhile_imp, fun c hc => ?_⟩
  have head := List.head?_dropWhile_not p cs
  rw [hc] at head
  simpa using head

/-- A text is blank, or its first word can be told. -/
theorem allBlank_or_exists_word (cs : List Char) : AllBlank cs ∨
    ∃ lead w rest, cs = lead ++ (w ++ rest) ∧ AllBlank lead ∧ IsWord w ∧ Breaks rest := by
  obtain ⟨lead, tail, rfl, hlead, htail⟩ := exists_span isBlank cs
  obtain ⟨w, rest, rfl, hw, hrest⟩ := exists_span (! isBlank ·) tail
  simp only [Bool.not_eq_true', Bool.not_eq_false'] at hw hrest
  cases w with
  | nil =>
    cases rest with
    | nil => exact Or.inl (by rwa [List.append_nil, List.append_nil])
    | cons c rest => exact absurd (hrest c rfl) (by simp [htail c rfl])
  | cons c w =>
    exact Or.inr ⟨lead, c :: w, rest, rfl, hlead, ⟨by simp, fun c hc => by simp [hw c hc]⟩,
      hrest⟩

theorem words_eq_nil_iff {cs : List Char} : words cs = [] ↔ AllBlank cs := by
  constructor
  · intro h
    rcases allBlank_or_exists_word cs with hblank | ⟨lead, w, rest, rfl, hlead, hw, hrest⟩
    · exact hblank
    · rw [words_blanks hlead, words_word hw hrest] at h
      cases h
  · intro h
    rw [← List.append_nil cs, words_blanks h]
    rfl

theorem words_eq_cons_iff {cs w : List Char} {ws : List (List Char)} : words cs = w :: ws ↔
    ∃ lead rest, cs = lead ++ (w ++ rest) ∧ AllBlank lead ∧ IsWord w ∧ Breaks rest ∧
      words rest = ws := by
  constructor
  · intro h
    rcases allBlank_or_exists_word cs with hblank | ⟨lead, w', rest, rfl, hlead, hw, hrest⟩
    · rw [words_eq_nil_iff.mpr hblank] at h
      cases h
    · rw [words_blanks hlead, words_word hw hrest] at h
      cases h
      exact ⟨lead, rest, rfl, hlead, hw, hrest, rfl⟩
  · rintro ⟨lead, rest, rfl, hlead, hw, hrest, rfl⟩
    rw [words_blanks hlead, words_word hw hrest]

theorem words_eq_pair_iff {cs scheme token : List Char} : words cs = [scheme, token] ↔
    ∃ lead gap trail, cs = lead ++ (scheme ++ (gap ++ (token ++ trail))) ∧ AllBlank lead ∧
      AllBlank gap ∧ AllBlank trail ∧ gap ≠ [] ∧ IsWord scheme ∧ IsWord token := by
  constructor
  · intro h
    obtain ⟨lead, tail, rfl, hlead, hscheme, breaks, htail⟩ := words_eq_cons_iff.mp h
    obtain ⟨gap, trail, rfl, hgap, htoken, _, htrail⟩ := words_eq_cons_iff.mp htail
    refine ⟨lead, gap, trail, rfl, hlead, hgap, words_eq_nil_iff.mp htrail, ?_, hscheme, htoken⟩
    rintro rfl
    -- the token would go on where the scheme ends
    cases token with
    | nil => exact htoken.nonempty rfl
    | cons c token => exact htoken.unbroken c (by simp) (breaks c rfl)
  · rintro ⟨lead, gap, trail, rfl, hlead, hgap, htrail, apart, hscheme, htoken⟩
    have gapBreaks : Breaks (gap ++ (token ++ trail)) := by
      cases gap with
      | nil => exact absurd rfl apart
      | cons d gap =>
        intro c hc
        cases hc
        exact hgap d (by simp)
    have trailBreaks : Breaks trail := fun c hc => htrail c (List.mem_of_mem_head? hc)
    refine words_eq_cons_iff.mpr ⟨lead, _, rfl, hlead, hscheme, gapBreaks, ?_⟩
    exact words_eq_cons_iff.mpr ⟨gap, trail, rfl, hgap, htoken, trailBreaks,
      words_eq_nil_iff.mpr htrail⟩

/-! ## Headers -/

def ascii (bytes : List UInt8) : List Char := bytes.map fun b => Char.ofNat b.toNat

def IsGap (b : UInt8) : Prop := b = 32 ∨ b = 9

def IsGraphic (b : UInt8) : Prop := 32 < b ∧ b < 127

/-- A header value that is two words, the scheme of bearers in any case and then the token, with
blanks and tabs between them and around them. -/
inductive Bears : List UInt8 → String → Prop where
  | mk {lead scheme gap word trail : List UInt8}
      (gaps : ∀ b ∈ lead ++ (gap ++ trail), IsGap b) (graphic : ∀ b ∈ scheme ++ word, IsGraphic b)
      (apart : gap ≠ []) (nonempty : word ≠ [])
      (bearer : (ascii scheme).map Char.toLower = "bearer".toList) :
      Bears (lead ++ (scheme ++ (gap ++ (word ++ trail)))) (String.ofList (ascii word))

/-- The first authorization header, whatever the case of its name, bears the token. -/
inductive Request.Presents (r : Request) (token : String) : Prop where
  | mk {before after : List (String × List UInt8)} {name : String} {value : List UInt8}
      (headers : r.headers = before ++ (name, value) :: after)
      (named : lowerAscii name = "authorization")
      (first : ∀ h ∈ before, lowerAscii h.1 ≠ "authorization") (bears : Bears value token)

theorem isBlank_iff {b : UInt8} (visible : isVisible b) :
    isBlank (Char.ofNat b.toNat) ↔ IsGap b := by
  have each : ∀ n < 127, isVisible (UInt8.ofNat n) →
      (isBlank (Char.ofNat n) ↔ UInt8.ofNat n = 32 ∨ UInt8.ofNat n = 9) := by decide
  have bound : b.toNat < 127 := by
    simp only [isVisible, Bool.or_eq_true, Bool.and_eq_true, decide_eq_true_eq, beq_iff_eq,
      UInt8.lt_iff_toNat_lt, ← UInt8.toNat_inj, UInt8.toNat_ofNat] at visible
    omega
  simpa [IsGap] using each b.toNat bound (by simpa using visible)

theorem isVisible_iff {b : UInt8} : isVisible b ↔ IsGap b ∨ IsGraphic b := by
  simp only [isVisible, IsGap, IsGraphic, Bool.or_eq_true, Bool.and_eq_true, decide_eq_true_eq,
    beq_iff_eq, UInt8.lt_iff_toNat_lt, UInt8.le_iff_toNat_le, ← UInt8.toNat_inj]
  simp only [UInt8.toNat_ofNat]
  omega

theorem IsGap.isVisible {b : UInt8} (h : IsGap b) : isVisible b := isVisible_iff.mpr (Or.inl h)

theorem IsGraphic.isVisible {b : UInt8} (h : IsGraphic b) : isVisible b :=
  isVisible_iff.mpr (Or.inr h)

theorem isGraphic_iff {b : UInt8} (visible : isVisible b) :
    IsGraphic b ↔ ¬ isBlank (Char.ofNat b.toNat) := by
  rw [isBlank_iff visible]
  refine ⟨?_, (isVisible_iff.mp visible).resolve_left⟩
  rintro ⟨lower, _⟩ (rfl | rfl)
  · exact absurd lower (by decide)
  · exact absurd lower (by decide)

theorem allBlank_ascii_iff {bytes : List UInt8} (visible : ∀ b ∈ bytes, isVisible b) :
    AllBlank (ascii bytes) ↔ ∀ b ∈ bytes, IsGap b := by
  simp only [AllBlank, ascii, List.forall_mem_map]
  exact forall₂_congr fun b hb => isBlank_iff (visible b hb)

theorem isWord_ascii_iff {bytes : List UInt8} (visible : ∀ b ∈ bytes, isVisible b) :
    IsWord (ascii bytes) ↔ bytes ≠ [] ∧ ∀ b ∈ bytes, IsGraphic b := by
  have unbroken : (∀ c ∈ ascii bytes, ¬ isBlank c) ↔ ∀ b ∈ bytes, IsGraphic b := by
    simp only [ascii, List.forall_mem_map]
    exact forall₂_congr fun b hb => (isGraphic_iff (visible b hb)).symm
  constructor
  · rintro ⟨nonempty, h⟩
    exact ⟨fun hnil => nonempty (by rw [hnil]; rfl), unbroken.mp h⟩
  · rintro ⟨nonempty, h⟩
    exact ⟨by simpa [ascii] using nonempty, unbroken.mpr h⟩

theorem bears_iff {value : List UInt8} {token : String} : Bears value token ↔
    (∀ b ∈ value, isVisible b) ∧ ∃ scheme, words (ascii value) = [scheme, token.toList] ∧
      scheme.map Char.toLower = "bearer".toList := by
  constructor
  · rintro ⟨gaps, graphic, apart, nonempty, bearer⟩
    rename_i lead scheme gap word trail
    simp only [List.forall_mem_append] at gaps graphic
    have blank {bytes : List UInt8} (h : ∀ b ∈ bytes, IsGap b) : AllBlank (ascii bytes) :=
      (allBlank_ascii_iff fun b hb => (h b hb).isVisible).mpr h
    have isWord {bytes : List UInt8} (hne : bytes ≠ []) (h : ∀ b ∈ bytes, IsGraphic b) :
        IsWord (ascii bytes) :=
      (isWord_ascii_iff fun b hb => (h b hb).isVisible).mpr ⟨hne, h⟩
    obtain ⟨hlead, hgap, htrail⟩ := gaps
    obtain ⟨hscheme, hword⟩ := graphic
    have schemed : scheme ≠ [] := by
      rintro rfl
      cases bearer
    refine ⟨?_, ascii scheme, ?_, bearer⟩
    · simp only [List.forall_mem_append]
      exact ⟨fun b hb => (hlead b hb).isVisible, fun b hb => (hscheme b hb).isVisible,
        fun b hb => (hgap b hb).isVisible, fun b hb => (hword b hb).isVisible,
        fun b hb => (htrail b hb).isVisible⟩
    · rw [String.toList_ofList]
      refine words_eq_pair_iff.mpr ⟨ascii lead, ascii gap, ascii trail, by simp [ascii],
        blank hlead, blank hgap, blank htrail, by simpa [ascii] using apart, isWord schemed hscheme,
        isWord nonempty hword⟩
  · rintro ⟨visible, scheme, hwords, bearer⟩
    obtain ⟨lead, gap, trail, split, hlead, hgap, htrail, apart, hscheme, htoken⟩ :=
      words_eq_pair_iff.mp hwords
    obtain ⟨leadBytes, _, rfl, rfl, split₁⟩ := List.map_eq_append_iff.mp split
    obtain ⟨schemeBytes, _, rfl, rfl, split₂⟩ := List.map_eq_append_iff.mp split₁
    obtain ⟨gapBytes, _, rfl, rfl, split₃⟩ := List.map_eq_append_iff.mp split₂
    obtain ⟨wordBytes, trailBytes, rfl, hword, rfl⟩ := List.map_eq_append_iff.mp split₃
    simp only [List.forall_mem_append] at visible
    obtain ⟨vlead, vscheme, vgap, vword, vtrail⟩ := visible
    obtain ⟨_, schemeGraphic⟩ := (isWord_ascii_iff vscheme).mp hscheme
    rw [← hword] at htoken
    obtain ⟨nonempty, graphic⟩ := (isWord_ascii_iff vword).mp htoken
    have htext : token = String.ofList (ascii wordBytes) := by
      rw [ascii, hword, String.ofList_toList]
    rw [htext]
    refine .mk ?_ ?_ (by simpa using apart) nonempty bearer
    · simp only [List.forall_mem_append]
      exact ⟨(allBlank_ascii_iff vlead).mp hlead, (allBlank_ascii_iff vgap).mp hgap,
        (allBlank_ascii_iff vtrail).mp htrail⟩
    · rw [List.forall_mem_append]
      exact ⟨schemeGraphic, graphic⟩

/-! ## Presented tokens -/

theorem Request.header?_eq_some_iff {r : Request} {name : String} {value : List UInt8} :
    r.header? name = some value ↔ ∃ before after written,
      r.headers = before ++ (written, value) :: after ∧ lowerAscii written = name ∧
        ∀ h ∈ before, lowerAscii h.1 ≠ name := by
  simp only [header?, Option.map_eq_some_iff, List.find?_eq_some_iff_append]
  constructor
  · rintro ⟨⟨written, value⟩, ⟨named, before, after, headers, first⟩, rfl⟩
    exact ⟨before, after, written, headers, by simpa using named, by simpa using first⟩
  · rintro ⟨before, after, written, headers, named, first⟩
    exact ⟨(written, value), ⟨by simpa using named, before, after, headers, by simpa using first⟩,
      rfl⟩

theorem Request.presents_iff {r : Request} {token : String} : r.Presents token ↔
    ∃ value, r.header? "authorization" = some value ∧ Bears value token := by
  constructor
  · rintro ⟨headers, named, first, bears⟩
    exact ⟨_, header?_eq_some_iff.mpr ⟨_, _, _, headers, named, first⟩, bears⟩
  · rintro ⟨value, hvalue, bears⟩
    obtain ⟨before, after, written, headers, named, first⟩ := header?_eq_some_iff.mp hvalue
    exact ⟨headers, named, first, bears⟩

theorem Bears.unique {value : List UInt8} {token token' : String} (h : Bears value token)
    (h' : Bears value token') : token = token' := by
  obtain ⟨_, scheme, hwords, _⟩ := bears_iff.mp h
  obtain ⟨_, scheme', hwords', _⟩ := bears_iff.mp h'
  have same := hwords.symm.trans hwords'
  simp only [List.cons.injEq, String.toList_inj, and_true] at same
  exact same.2

/-- A request presents one token at most. -/
theorem Request.Presents.unique {r : Request} {token token' : String} (h : r.Presents token)
    (h' : r.Presents token') : token = token' := by
  obtain ⟨value, hvalue, bears⟩ := presents_iff.mp h
  obtain ⟨value', hvalue', bears'⟩ := presents_iff.mp h'
  obtain rfl : value = value' := Option.some.inj (hvalue.symm.trans hvalue')
  exact bears.unique bears'

theorem authenticate_eq_ok_iff {key : Key} {r : Request} {now : Timestamp} {payload : Payload} :
    authenticate key r now = .ok payload ↔
      ∃ token, r.Presents token ∧ key.verify token .access now = .ok payload := by
  have headerText : r.headerText? "authorization" = (r.header? "authorization").bind fun value =>
      if value.all isVisible then some (String.ofList (ascii value)) else none := rfl
  simp only [Request.presents_iff, bears_iff]
  constructor
  · intro h
    unfold authenticate at h
    split at h
    · cases h
    rename_i text htext
    split at h
    · rename_i scheme token hwords
      split_ifs at h with bearer
      rw [headerText] at htext
      obtain ⟨value, hvalue, htext⟩ := Option.bind_eq_some_iff.mp htext
      split_ifs at htext with visible
      cases htext
      refine ⟨String.ofList token, ⟨value, hvalue, List.all_eq_true.mp visible, scheme, ?_, bearer⟩,
        ?_⟩
      · simpa using hwords
      · cases hverify : key.verify (String.ofList token) .access now with
        | error why => rw [hverify] at h; cases h
        | ok p => rw [hverify] at h; cases h; rfl
    · cases h
  · rintro ⟨token, ⟨value, hvalue, visible, scheme, hwords, bearer⟩, hverify⟩
    have htext : r.headerText? "authorization" = some (String.ofList (ascii value)) := by
      rw [headerText, hvalue, Option.bind_some, if_pos (List.all_eq_true.mpr visible)]
    unfold authenticate
    simp only [htext, String.toList_ofList, hwords, if_pos bearer, String.ofList_toList, hverify]
    rfl

end Http

/-! ## What an endpoint refuses before it asks -/

/-- A refusal for the form of a request. -/
def Refusal.IsFormal : Refusal → Prop
  | .invalid _ => True
  | .unauthorized _ | .notFound _ | .store _ | .internal _ => False

def Http.Failure.IsFormal : Failure → Prop
  | .rejected _ => True
  | .refused why => why.IsFormal

theorem Http.Failure.IsFormal.status_ne {failure : Failure} (h : failure.IsFormal) :
    failure.response.status ≠ 401 := by
  cases failure with
  | rejected why =>
    cases why with
    | body why =>
      cases hfault : why.fault <;>
        simp [Failure.response, Rejection.response, hfault, Response.ofText]
    | _ => simp [Failure.response, Rejection.response, Response.ofText]
  | refused why =>
    cases why with
    | invalid => simp [Failure.response, Refusal.notice, Response.ofNotice, Response.ofJson]
    | _ => exact h.elim

/-- Before the store is asked, only the form of the request is judged. -/
abbrev Http.JudgesForm {α : Type} (a : Attempt Failure α) : Prop :=
  Giro.GivesUp Failure.IsFormal (fun reason => .refused (.store (.aborted reason))) a.run

namespace Http

variable {caller segment : String} {r : Request}

theorem JudgesForm.reads {α β : Type} {part : Except Rejection α} {f : α → Attempt Failure β}
    (h : ∀ a, JudgesForm (f a)) : JudgesForm (reads part >>= f) :=
  .demand (fun _ => trivial) h

theorem JudgesForm.checks {α β : Type} {check : Except Invalid α} {f : α → Attempt Failure β}
    (h : ∀ a, JudgesForm (f a)) : JudgesForm (checks check >>= f) :=
  .demand (fun _ => trivial) h

theorem ownedAccount_judgesForm {β : Type} {id : Int} {f : Account → Attempt Failure β} :
    JudgesForm (ownedAccount caller id >>= f) := by
  unfold ownedAccount
  simp only [apply_ite (· >>= f), bind_assoc]
  exact .guard trivial (.call rfl fun _ => rfl)

theorem createTransfer_judgesForm : JudgesForm (createTransfer caller r) := by
  refine .reads fun fields => ?_
  have execute : Giro.GivesUp Refusal.IsFormal (fun reason => .store (.aborted reason))
      ((paymentOf fields).execute caller).run := by
    refine .demand (fun _ => trivial) fun currency => ?_
    unfold Payment.accountIn
    simp only [bind_assoc]
    exact .call rfl fun _ => rfl
  have refused : JudgesForm (Attempt.mapError .refused ((paymentOf fields).execute caller)) :=
    execute.mapError (fun _ he => he) fun _ => rfl
  exact refused.map_run _

theorem perform_judgesForm (service : Service) {resource : Resource} {endpoint : Endpoint}
    (isProtected : resource.isProtected) (method : resource.endpoint? r.method = some endpoint)
    (fresh : Fresh) (now : Timestamp) :
    JudgesForm (perform service endpoint caller segment r fresh now) := by
  obtain ⟨m, _, method⟩ := Option.bind_eq_some_iff.mp method
  obtain ⟨⟨m', e⟩, hfind, rfl⟩ := Option.map_eq_some_iff.mp method
  have listed := List.mem_of_find?_eq_some hfind
  cases e with
  | health | register | login | renew =>
    cases resource <;> simp [Resource.methods, Resource.isProtected] at listed isProtected
  | createAccount => exact .reads fun _ => .checks fun _ => .call rfl fun _ => rfl
  | listAccounts => exact .reads fun _ => .checks fun _ => .call rfl fun _ => rfl
  | getAccount => exact .reads fun _ => ownedAccount_judgesForm
  | deleteAccount => exact .reads fun _ => ownedAccount_judgesForm
  | listEntries => exact .reads fun _ => .reads fun _ => .checks fun _ => ownedAccount_judgesForm
  | createTransfer => exact createTransfer_judgesForm
  | getTransfer => exact .reads fun _ => .call rfl fun _ => rfl

end Http

/-! ## The gate -/

/-- The request gets to the endpoint, which acts for the caller. -/
def Service.Handles (service : Service) (endpoint : Endpoint) (caller segment : String)
    (r : Request) (fresh : Fresh) (now : Timestamp) : Prop :=
  service.respond r fresh now =
    (settled (perform service endpoint caller segment r fresh now)).bind fun response =>
      .done (response.headOnly r.method)

/-- The request presents a token that is accepted for access. -/
def Service.Accepts (service : Service) (r : Request) (now : Timestamp) : Prop :=
  ∃ token payload, r.Presents token ∧ service.key.verify token .access now = .ok payload

/-- Whom a token is about, as its claims state it. -/
def Token.subject? (token : String) : Option String :=
  match fields '.' token.toList with
  | [_, claims, _] =>
    ((Base64.decode .url claims).bind members?).bind fun members =>
      (Member.only? "sub" members).bind Value.text?
  | _ => none

theorem Key.subject?_of_verify {key : Key} {token : String} {kind : TokenKind} {t : Timestamp}
    {payload : Payload} (h : key.verify token kind t = .ok payload) :
    Token.subject? token = some payload.username := by
  obtain ⟨header, claims, signature, parts, vouches⟩ := exists_vouches h
  obtain ⟨members, hmembers, stated⟩ := vouches.stated
  simp only [Token.subject?, parts, hmembers, Option.bind_some]
  exact stated.username

/-- The answer to a request that is kept out. -/
def Http.Response.unauthorized (r : Request) (why : Unauthorized) : Response :=
  (Response.ofNotice (Refusal.unauthorized why).notice).headOnly r.method

namespace Service

variable {service : Service} {r : Request} {resource : Resource} {endpoint : Endpoint}
    {fresh : Fresh} {now : Timestamp}

theorem handles_of_verify (path : Resource.ofPath? r.path = some resource)
    (isProtected : resource.isProtected) (method : resource.endpoint? r.method = some endpoint)
    (fresh : Fresh) {token : String} {payload : Payload} (presents : r.Presents token)
    (h : service.key.verify token .access now = .ok payload) :
    service.Handles endpoint payload.username resource.segment r fresh now := by
  have caller : service.caller resource r now = .ok payload.username := by
    rw [Service.caller, if_pos isProtected, authenticate_eq_ok_iff.mpr ⟨token, presents, h⟩]
    rfl
  rw [Handles, respond_of_caller fresh path caller method]
  simp only [naming_of_endpoint? method]

theorem respond_of_not_accepts (path : Resource.ofPath? r.path = some resource)
    (isProtected : resource.isProtected) (method : resource.endpoint? r.method = some endpoint)
    (fresh : Fresh) (h : ¬ service.Accepts r now) :
    ∃ why, service.respond r fresh now = .done (Response.unauthorized r why) := by
  cases judged : authenticate service.key r now with
  | ok payload => exact absurd ⟨_, _, (authenticate_eq_ok_iff.mp judged).choose_spec⟩ h
  | error why =>
    have caller : service.caller resource r now = .error why := by
      rw [Service.caller, if_pos isProtected, judged]
      rfl
    refine ⟨why, ?_⟩
    simp only [respond, path, respondAt, caller, Program.bind, naming_of_endpoint? method]
    rfl

/-- An endpoint behind the gate refuses nobody for want of a token. -/
theorem not_handles_of_unauthorized (isProtected : resource.isProtected)
    (method : resource.endpoint? r.method = some endpoint) {caller segment : String}
    {why : Unauthorized} (h : service.respond r fresh now = .done (Response.unauthorized r why)) :
    ¬ service.Handles endpoint caller segment r fresh now := by
  intro handles
  have form : JudgesForm (perform service endpoint caller segment r fresh now) :=
    perform_judgesForm service isProtected method fresh now
  rw [Handles, h, settled_eq] at handles
  unfold JudgesForm at form
  generalize (perform service endpoint caller segment r fresh now).run = p at form handles
  cases form with
  | ask ticketless stops => cases handles
  | early formal =>
    simp only [Program.bind, settlement, Program.done.injEq] at handles
    have status := congrArg Response.status handles
    rw [Response.unauthorized, status_headOnly, status_headOnly] at status
    exact formal.status_ne status.symm

/-- A token keeps its kind, so a refresh token is accepted for access at no time. -/
theorem not_accepts_of_refresh {token : String} {c : Claims} (presents : r.Presents token)
    (decoded : service.key.decode? token.toList = some c) (refresh : c.kind = .refresh) :
    ¬ service.Accepts r now := by
  rintro ⟨token', payload, presents', accepted⟩
  obtain rfl := presents.unique presents'
  obtain ⟨c', decoded', judged⟩ := Key.verify_eq_ok_iff.mp accepted
  obtain rfl : c = c' := Option.some.inj (decoded.symm.trans decoded')
  obtain ⟨_, _, _, kind, _⟩ := Claims.judge_eq_ok_iff.mp judged
  cases refresh.symm.trans kind

/-- A request to an account or a transfer gets to its endpoint exactly if it presents a token that
is accepted for access, and then the endpoint acts for the subject of that token. Any other request
is refused for want of one, without a question to the store, with one answer for all stores. A
refresh token never opens the gate. -/
theorem gate_exact (path : Resource.ofPath? r.path = some resource)
    (isProtected : resource.isProtected) (method : resource.endpoint? r.method = some endpoint)
    (time : service.timeoutSeconds ≠ 0) (fresh : Fresh) (now : Timestamp) :
    ((∃ caller, service.Handles endpoint caller resource.segment r fresh now) ↔
      service.Accepts r now) ∧
    (∀ token payload, r.Presents token → service.key.verify token .access now = .ok payload →
      service.Handles endpoint payload.username resource.segment r fresh now ∧
        Token.subject? token = some payload.username) ∧
    (¬ service.Accepts r now → ∃ why,
      service.respond r fresh now = .done (Response.unauthorized r why) ∧
      ∀ {σ : Type} (b : Backend σ) (s : σ),
        b.serve service r fresh now s = (s, .ok (Response.unauthorized r why))) ∧
    ∀ token c, r.Presents token → service.key.decode? token.toList = some c → c.kind = .refresh →
      ¬ ∃ caller, service.Handles endpoint caller resource.segment r fresh now := by
  have handled : (∃ caller, service.Handles endpoint caller resource.segment r fresh now) ↔
      service.Accepts r now := by
    constructor
    · rintro ⟨caller, handles⟩
      by_contra kept
      obtain ⟨why, refused⟩ := respond_of_not_accepts path isProtected method fresh kept
      exact not_handles_of_unauthorized isProtected method refused handles
    · rintro ⟨token, payload, presents, accepted⟩
      exact ⟨_, handles_of_verify path isProtected method fresh presents accepted⟩
  refine ⟨handled, ?_, ?_, ?_⟩
  · intro token payload presents accepted
    exact ⟨handles_of_verify path isProtected method fresh presents accepted,
      Key.subject?_of_verify accepted⟩
  · intro kept
    obtain ⟨why, refused⟩ := respond_of_not_accepts path isProtected method fresh kept
    exact ⟨why, refused, fun b s => b.serve_of_done s time refused⟩
  · intro token c presents decoded refresh
    rw [handled]
    exact not_accepts_of_refresh presents decoded refresh

theorem exists_token_of_user? {u : String} (h : service.user? r now = some u) :
    ∃ token payload, r.Presents token ∧ service.key.verify token .access now = .ok payload ∧
      payload.username = u := by
  unfold user? at h
  cases judged : authenticate service.key r now with
  | error why =>
    rw [judged] at h
    cases h
  | ok payload =>
    rw [judged] at h
    obtain ⟨token, presents, accepted⟩ := authenticate_eq_ok_iff.mp judged
    exact ⟨token, payload, presents, accepted, Option.some.inj h⟩

/-- A request for account 1 without a token. -/
def tokenless (method : String) : Request :=
  { sampleRequest method "/accounts/1" "" with headers := [] }

theorem not_accepts_tokenless (method : String) :
    ¬ sampleService.Accepts (tokenless method) .epoch := by
  rintro ⟨token, payload, ⟨headers, _, _, _⟩, _⟩
  simp [tokenless] at headers

theorem gate_exact_of_getAccount :
    sampleService.Handles .getAccount "ada" "1" (sampleRequest "GET" "/accounts/1" "") sampleFresh
      .epoch ∧
    ∃ why, ∀ s, Backend.memory.serve sampleService (tokenless "GET") sampleFresh .epoch s =
      (s, .ok (.ofNotice (Refusal.unauthorized why).notice)) := by
  have path : Resource.ofPath? "/accounts/1" = some (.account "1") := by decide +kernel
  have method : (Resource.account "1").endpoint? "GET" = some .getAccount := rfl
  have time : sampleService.timeoutSeconds ≠ 0 := by decide
  constructor
  · obtain ⟨token, payload, presents, accepted, hada⟩ :=
      exists_token_of_user? (user?_sampleRequest "GET" "/accounts/1" "")
    obtain ⟨_, handles, _⟩ := gate_exact (r := sampleRequest "GET" "/accounts/1" "") path rfl
      method time sampleFresh .epoch
    rw [← hada]
    exact (handles token payload presents accepted).1
  · obtain ⟨_, _, kept, _⟩ := gate_exact (r := tokenless "GET") path rfl method time
      sampleFresh .epoch
    obtain ⟨why, _, served⟩ := kept (not_accepts_tokenless "GET")
    exact ⟨why, served Backend.memory⟩

/-- Who asks with `HEAD` and is kept out is told no code. -/
theorem exists_wordless_refusal : ¬ ∀ (service : Service) (r : Request) (resource : Resource)
    (endpoint : Endpoint) (fresh : Fresh) (now : Timestamp) (s : Store),
    Resource.ofPath? r.path = some resource → resource.isProtected →
    resource.endpoint? r.method = some endpoint → ¬ service.Accepts r now →
    ∃ why, (Backend.memory.serve service r fresh now s).2 =
      .ok (.ofNotice (Refusal.unauthorized why).notice) := by
  intro told
  have path : Resource.ofPath? (tokenless "HEAD").path = some (.account "1") := by decide +kernel
  have method : (Resource.account "1").endpoint? "HEAD" = some .getAccount := rfl
  have kept := not_accepts_tokenless "HEAD"
  obtain ⟨why, coded⟩ := told sampleService (tokenless "HEAD") (.account "1") .getAccount
    sampleFresh .epoch .empty path rfl method kept
  obtain ⟨_, refused⟩ := respond_of_not_accepts path rfl method sampleFresh kept
  rw [Backend.serve_of_done _ _ (by decide) refused] at coded
  cases congrArg Response.body (Except.ok.inj coded)

end Service

end Giro
