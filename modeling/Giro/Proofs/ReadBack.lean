import Giro.Token.Claims
import Mathlib.Data.List.Forall2
import Mathlib.Tactic.SplitIfs

/-!
# JSON that is written is read back

Texts are read byte by byte, escapes included, and integers figure by figure. An object of texts and
integers is read member by member: `Field.members?_written`, where a field carries the value that
its bytes spell. What somebody finds under a name is then what the fields of that name hold.
-/

namespace Giro.Json

open Text

/-! ## Texts -/

theorem unescape?_of_shortEscape? {b letter : UInt8} (h : shortEscape? b = some letter) :
    unescape? letter = some b := by
  unfold shortEscape? at h
  split_ifs at h with _ _ _ _ _ self
  · cases h; subst b; rfl
  · cases h; subst b; rfl
  · cases h; subst b; rfl
  · cases h; subst b; rfl
  · cases h; subst b; rfl
  · cases h
    rcases self with rfl | rfl <;> rfl

theorem not_special_of_shortEscape? {b : UInt8} (h : shortEscape? b = none) : b ≠ 34 ∧ b ≠ 92 := by
  grind [shortEscape?]

theorem hexValue?_lowerHex {n : Nat} (h : n < 16) : hexValue? (lowerHex n) = some n := by
  have : ∀ n : Fin 16, hexValue? (lowerHex n) = some n.val := by decide
  exact this ⟨n, h⟩

theorem length_le_cons_four (p q r t : UInt8) (more : List UInt8) :
    more.length ≤ (p :: q :: r :: t :: more).length := by
  simp only [List.length_cons]
  omega

theorem readUnit_control (b : UInt8) (more : List UInt8) :
    readUnit (48 :: 48 :: lowerHex (b.toNat / 16) :: lowerHex (b.toNat % 16) :: more) =
      .ok (b.toNat, ⟨more, length_le_cons_four _ _ _ _ more⟩) := by
  have := b.toNat_lt
  have zero : hexValue? 48 = some 0 := rfl
  simp only [readUnit, zero, hexValue?_lowerHex (show b.toNat / 16 < 16 by omega),
    hexValue?_lowerHex (show b.toNat % 16 < 16 by omega)]
  congr 2
  omega

theorem readPoint_control {b : UInt8} (control : b < 32) (more : List UInt8) :
    readPoint (48 :: 48 :: lowerHex (b.toNat / 16) :: lowerHex (b.toNat % 16) :: more) =
      .ok ([b], ⟨more, length_le_cons_four _ _ _ _ more⟩) := by
  have small : b.toNat < 32 := control
  have point : encodePoint b.toNat = [b] := by
    rw [encodePoint, if_pos (by omega), UInt8.ofNat_toNat]
  rw [readPoint, readUnit_control]
  dsimp only
  rw [if_neg (by omega), if_pos (by omega), point]

/-- An escaped byte is read as the byte. -/
theorem readBytes_escapeByte (done : List UInt8) (b : UInt8) (more : List UInt8) :
    readBytes done (escapeByte b ++ more) = readBytes (b :: done) more := by
  unfold escapeByte
  cases h : shortEscape? b with
  | some letter =>
    have escape : readEscape (letter :: more) = .ok ([b], ⟨more, by simp⟩) := by
      simp only [readEscape, unescape?_of_shortEscape? h]
    simp only [List.cons_append, List.nil_append]
    rw [readBytes, if_neg (by decide), if_pos rfl, escape]
    rfl
  | none =>
    obtain ⟨quote, backslash⟩ := not_special_of_shortEscape? h
    by_cases control : b < 32
    · have escape : readEscape (117 :: 48 :: 48 :: lowerHex (b.toNat / 16) ::
          lowerHex (b.toNat % 16) :: more) = .ok ([b], ⟨more, by simp; omega⟩) := by
        have unescape : unescape? 117 = none := rfl
        rw [readEscape, unescape]
        dsimp only
        rw [if_pos rfl, readPoint_control control]
      simp only [if_pos control, List.cons_append, List.nil_append]
      rw [readBytes, if_neg (by decide), if_pos rfl, escape]
      rfl
    · simp only [if_neg control, List.cons_append, List.nil_append]
      rw [readBytes, if_neg quote, if_neg backslash, if_neg control]

theorem readBytes_escaped (done bytes rest : List UInt8) :
    readBytes done (bytes.flatMap escapeByte ++ 34 :: rest) =
      .ok (done.reverse ++ bytes, rest) := by
  induction bytes generalizing done with
  | nil => simp [readBytes]
  | cons b bytes ih =>
    rw [List.flatMap_cons, List.append_assoc, readBytes_escapeByte, ih]
    simp

/-- A text that is written is read back. -/
theorem readText_written (s : String) (rest : List UInt8) :
    readText ((utf8 s).flatMap escapeByte ++ 34 :: rest) = .ok (s, rest) := by
  simp [readText, readBytes_escaped]

theorem skipText_escapeByte (b : UInt8) (more : List UInt8) :
    skipText (escapeByte b ++ more) = skipText more := by
  unfold escapeByte
  cases h : shortEscape? b with
  | some letter =>
    have escape : skipEscape (letter :: more) = .ok ⟨more, by simp⟩ := by
      simp [skipEscape, unescape?_of_shortEscape? h]
    simp only [List.cons_append, List.nil_append]
    rw [skipText, if_neg (by decide), if_pos rfl, escape]
  | none =>
    obtain ⟨quote, backslash⟩ := not_special_of_shortEscape? h
    by_cases control : b < 32
    · have escape : skipEscape (117 :: 48 :: 48 :: lowerHex (b.toNat / 16) ::
          lowerHex (b.toNat % 16) :: more) = .ok ⟨more, by simp; omega⟩ := by
        have unescape : unescape? 117 = none := rfl
        simp [skipEscape, unescape, readUnit_control]
      simp only [if_pos control, List.cons_append, List.nil_append]
      rw [skipText, if_neg (by decide), if_pos rfl, escape]
    · simp only [if_neg control, List.cons_append, List.nil_append]
      rw [skipText, if_neg quote, if_neg backslash, if_neg control]

theorem skipText_written (bytes rest : List UInt8) :
    skipText (bytes.flatMap escapeByte ++ 34 :: rest) = .ok rest := by
  induction bytes with
  | nil => simp [skipText]
  | cons b bytes ih => rw [List.flatMap_cons, List.append_assoc, skipText_escapeByte, ih]

/-! ## Numbers -/

/-- What may follow a member of an object. -/
inductive Follows : List UInt8 → Prop where
  | comma (rest : List UInt8) : Follows (44 :: rest)
  | brace (rest : List UInt8) : Follows (125 :: rest)

/-- The values of the digits of a number, most significant first. -/
def figures (n : Nat) : List Nat := if n < 10 then [n] else figures (n / 10) ++ [n % 10]

def figureByte (d : Nat) : UInt8 := UInt8.ofNat (Nat.digitChar d).toNat

theorem digits_eq_map (n : Nat) : Integer.digits n = (figures n).map Nat.digitChar := by
  fun_induction figures n with
  | case1 n h => rw [Integer.digits, if_pos h]; rfl
  | case2 n h ih => rw [Integer.digits, if_neg h, ih, List.map_append]; rfl

theorem writeInteger_eq (n : Int) : writeInteger n =
    (if n < 0 then [45] else []) ++ (figures n.natAbs).map figureByte := by
  unfold writeInteger Integer.write
  split
  · simp [digits_eq_map, figureByte, Function.comp_def]
  · simp [digits_eq_map, figureByte, Function.comp_def]

theorem lt_of_mem_figures {n d : Nat} (h : d ∈ figures n) : d < 10 := by
  fun_induction figures n with
  | case1 n hn =>
    rw [List.mem_singleton.mp h]
    exact hn
  | case2 n hn ih =>
    rcases List.mem_append.mp h with h | h
    · exact ih h
    · rw [List.mem_singleton.mp h]
      exact Nat.mod_lt n (by omega)

/-- No number but zero starts with a zero. -/
theorem exists_figures_eq_cons {n : Nat} (h : 0 < n) : ∃ d ds, figures n = d :: ds ∧ d ≠ 0 := by
  fun_induction figures n with
  | case1 n hn => exact ⟨n, [], rfl, by omega⟩
  | case2 n hn ih =>
    obtain ⟨d, ds, heq, hd⟩ := ih (by omega)
    exact ⟨d, ds ++ [n % 10], by rw [heq]; rfl, hd⟩

theorem figures_ne_nil (n : Nat) : figures n ≠ [] := by
  unfold figures
  split <;> simp

theorem foldl_figures (n : Nat) : (figures n).foldl (fun acc d => acc * 10 + d) 0 = n := by
  fun_induction figures n with
  | case1 n h => simp
  | case2 n h ih =>
    rw [List.foldl_append, ih]
    simp
    omega

theorem isDigitByte_figureByte {d : Nat} (h : d < 10) : isDigitByte (figureByte d) := by
  have : ∀ d : Fin 10, isDigitByte (figureByte d) := by decide
  exact this ⟨d, h⟩

theorem toNat_figureByte {d : Nat} (h : d < 10) : (figureByte d).toNat = 48 + d := by
  have : ∀ d : Fin 10, (figureByte d).toNat = 48 + d := by decide
  exact this ⟨d, h⟩

theorem spanDigits_figures {ds : List Nat} {rest : List UInt8} (h : ∀ d ∈ ds, d < 10)
    (follows : Follows rest) : spanDigits (ds.map figureByte ++ rest) = (ds, rest) := by
  induction ds with
  | nil => cases follows <;> rfl
  | cons d ds ih =>
    have hd := h d List.mem_cons_self
    rw [List.map_cons, List.cons_append, spanDigits, if_pos (isDigitByte_figureByte hd),
      ih fun d hd => h d (List.mem_cons_of_mem _ hd), toNat_figureByte hd, Nat.add_sub_cancel_left]

theorem readWhole_figures (n : Nat) {rest : List UInt8} (follows : Follows rest) :
    readWhole ((figures n).map figureByte ++ rest) = .ok (figures n, rest) := by
  by_cases hn : n = 0
  · subst hn
    have zero : figures 0 = [0] := by simp [figures]
    rw [zero]
    cases follows <;> rfl
  · obtain ⟨d, ds, heq, hd⟩ := exists_figures_eq_cons (Nat.pos_of_ne_zero hn)
    have span := spanDigits_figures (fun _ => lt_of_mem_figures (n := n)) follows
    rw [heq] at span ⊢
    have hlt := lt_of_mem_figures (heq ▸ List.mem_cons_self)
    rw [List.map_cons, List.cons_append] at span ⊢
    unfold readWhole
    split
    · rename_i hnil
      cases hnil
    · rename_i hcons
      have := congrArg UInt8.toNat (List.cons.inj hcons).1
      rw [toNat_figureByte hlt] at this
      exact absurd (Nat.add_left_cancel this) hd
    · rename_i hcons
      cases hcons
      rw [if_pos (isDigitByte_figureByte hlt), span]

theorem readFraction_of_follows {rest : List UInt8} (follows : Follows rest) :
    readFraction rest = .ok ([], rest) := by
  cases follows <;> rfl

theorem readExponent_of_follows {rest : List UInt8} (follows : Follows rest) :
    readExponent rest = .ok (none, rest) := by
  cases follows <;> rfl

/-- The numeral that an integer is written as. -/
def numeralOf (n : Int) : Numeral := ⟨decide (n < 0), figures n.natAbs, [], none⟩

theorem readNumeral_written (n : Int) {rest : List UInt8} (follows : Follows rest) :
    readNumeral (writeInteger n ++ rest) = .ok (numeralOf n, rest) := by
  have whole := readWhole_figures n.natAbs follows
  rw [writeInteger_eq]
  by_cases hn : n < 0
  · simp only [if_pos hn, List.cons_append, List.nil_append, readNumeral]
    rw [whole]
    simp only [bind, Except.bind, readFraction_of_follows follows,
      readExponent_of_follows follows, numeralOf, hn, decide_true]
    rfl
  · obtain ⟨d, ds, heq⟩ := List.exists_cons_of_ne_nil (figures_ne_nil n.natAbs)
    have hlt := lt_of_mem_figures (heq ▸ List.mem_cons_self)
    simp only [if_neg hn, List.nil_append, readNumeral]
    rw [heq, List.map_cons, List.cons_append] at whole ⊢
    split
    · rename_i more hminus
      have digit := isDigitByte_figureByte hlt
      rw [(List.cons.inj hminus).1] at digit
      cases digit
    · simp only [whole, bind, Except.bind, readFraction_of_follows follows,
        readExponent_of_follows follows, numeralOf, hn, decide_false, heq]
      rfl

theorem take_of_le {acc : Nat} {ds : List Nat}
    (h : ds.foldl (fun acc d => acc * 10 + d) acc ≤ Numeral.limit) :
    Numeral.take acc ds = (ds.foldl (fun acc d => acc * 10 + d) acc, []) := by
  have grows : ∀ (ds : List Nat) (acc : Nat), acc ≤ ds.foldl (fun acc d => acc * 10 + d) acc := by
    intro ds
    induction ds with
    | nil => exact fun _ => Nat.le_refl _
    | cons d ds ih => exact fun acc => Nat.le_trans (by omega) (ih (acc * 10 + d))
  induction ds generalizing acc with
  | nil => rfl
  | cons d ds ih =>
    rw [Numeral.take, if_pos (Nat.le_trans (grows ds _) h), ih h]
    rfl

theorem integer?_numeralOf {n : Int} (fits : Integer.Format.signed64.Fits n) :
    (numeralOf n).integer? = some n := by
  obtain ⟨lower, upper⟩ : -9223372036854775808 ≤ n ∧ n ≤ 9223372036854775807 := fits
  have taken : Numeral.take 0 (figures n.natAbs) = (n.natAbs, []) := by
    have h := foldl_figures n.natAbs
    rw [take_of_le (by rw [h, Numeral.limit]; omega), h]
  unfold Numeral.integer? Numeral.value numeralOf
  simp only [taken]
  by_cases hn : n < 0
  · have small : ¬ (n.natAbs = 0 ∨ 9223372036854775808 < n.natAbs) := by omega
    simp only [hn, decide_true, Bool.not_true, List.isEmpty_nil, Option.isNone_none, and_self,
      if_true, if_neg small, Bool.false_eq_true, if_false]
    exact congrArg some (by omega)
  · simp [hn]
    omega

/-! ## Members -/

/-- Bytes that a reader takes for a value, and that can be passed over. -/
structure Spells (bytes : List UInt8) (v : Value) : Prop where
  skip : ∀ (bound : Nat) {rest : List UInt8}, Follows rest →
    skipValue bound (bytes ++ rest) = .ok rest
  read : ∀ {rest : List UInt8}, Follows rest → Value.read (bytes ++ rest) = v

/-- What a text or a number starts with. -/
def isScalarStart (b : UInt8) : Bool := b == 34 || b == 45 || isDigitByte b

theorem skipBlanks_of_isScalarStart {b : UInt8} (rest : List UInt8) (start : isScalarStart b) :
    skipBlanks (b :: rest) = b :: rest := by
  have blank : ¬ isBlankByte b := by
    intro h
    simp only [isBlankByte, Bool.or_eq_true, beq_iff_eq] at h
    rcases h with ((rfl | rfl) | rfl) | rfl <;> cases start
  rw [skipBlanks, if_neg blank]

theorem skipValue_of_skipScalar {b : UInt8} {rest more : List UInt8} (bound : Nat)
    (start : isScalarStart b) (h : skipScalar b rest = .ok more) :
    skipValue bound (b :: rest) = .ok more := by
  unfold skipValue skipWithin
  rw [skipBlanks_of_isScalarStart rest start]
  split
  · rename_i hnil
    cases hnil
  · rename_i hlist
    cases (List.cons.inj hlist).1
    cases start
  · rename_i hobject
    cases (List.cons.inj hobject).1
    cases start
  · rename_i hscalar
    cases hscalar
    rw [h]
    rfl

theorem spells_text (s : String) : Spells (writeText s) (.text (.ok s)) where
  skip bound rest follows := by
    have skip : skipScalar 34 ((utf8 s).flatMap escapeByte ++ 34 :: rest) = .ok rest := by
      rw [skipScalar, if_pos rfl, skipText_written]
    simp only [writeText, List.cons_append, List.append_assoc, List.nil_append]
    exact skipValue_of_skipScalar bound rfl skip
  read {rest} follows := by
    simp only [writeText, List.cons_append, List.append_assoc, List.nil_append]
    simp [Value.read, skipBlanks_of_isScalarStart _ (show isScalarStart 34 from rfl),
      readText_written, Except.map, Except.mapError]

theorem exists_writeInteger_eq_cons (n : Int) :
    ∃ b bs, writeInteger n = b :: bs ∧ (b = 45 ∨ isDigitByte b) := by
  rw [writeInteger_eq]
  by_cases hn : n < 0
  · exact ⟨45, _, by rw [if_pos hn]; rfl, Or.inl rfl⟩
  · obtain ⟨d, ds, heq⟩ := List.exists_cons_of_ne_nil (figures_ne_nil n.natAbs)
    refine ⟨figureByte d, ds.map figureByte, by rw [if_neg hn, heq]; rfl, Or.inr ?_⟩
    exact isDigitByte_figureByte (lt_of_mem_figures (heq ▸ List.mem_cons_self))

theorem spells_integer (n : Int) : Spells (writeInteger n) (.number (numeralOf n)) := by
  obtain ⟨b, bs, heq, hb⟩ := exists_writeInteger_eq_cons n
  have start : isScalarStart b := by
    rcases hb with rfl | digit
    · rfl
    · simp [isScalarStart, digit]
  have not_text : b ≠ 34 := by
    rintro rfl
    rcases hb with h | h <;> cases h
  have not_word (c : UInt8) (hc : isScalarStart c = false) : b ≠ c := by
    rintro rfl
    rw [start] at hc
    cases hc
  refine ⟨fun bound rest follows => ?_, fun {rest} follows => ?_⟩
  · have numeral := readNumeral_written n follows
    rw [heq, List.cons_append] at numeral ⊢
    refine skipValue_of_skipScalar bound start ?_
    rw [skipScalar, if_neg not_text, if_neg (not_word 110 rfl), if_neg (not_word 116 rfl),
      if_neg (not_word 102 rfl), if_pos hb, numeral]
  · have numeral := readNumeral_written n follows
    rw [heq, List.cons_append] at numeral ⊢
    unfold Value.read
    rw [skipBlanks_of_isScalarStart _ start]
    simp only [if_neg not_text, if_neg (not_word 91 rfl), if_neg (not_word 123 rfl),
      if_neg (not_word 110 rfl), if_neg (not_word 116 rfl), if_neg (not_word 102 rfl), if_pos hb,
      Value.ofNumeral, numeral]

/-- A member with a value that is neither a list nor an object. -/
structure Field where
  key : String
  bytes : List UInt8
  value : Value
  spells : Spells bytes value

namespace Field

def write (f : Field) : List UInt8 := writeText f.key ++ 58 :: f.bytes

/-- What follows a member. -/
def follow (rest : List UInt8) : List Field → List UInt8
  | [] => 125 :: rest
  | f :: fs => 44 :: (joinBytes 44 ((f :: fs).map write) ++ 125 :: rest)

theorem follows_follow (rest : List UInt8) (fs : List Field) : Follows (follow rest fs) := by
  cases fs with
  | nil => exact .brace _
  | cons f fs => exact .comma _

theorem joinBytes_append (f : Field) (fs : List Field) (rest : List UInt8) :
    joinBytes 44 ((f :: fs).map write) ++ 125 :: rest = f.write ++ follow rest fs := by
  cases fs with
  | nil => rfl
  | cons g fs => simp [joinBytes, follow]

/-- The member that is read where a field is written. -/
def Shows (f : Field) (m : Member) : Prop :=
  m.key = f.key ∧ ∃ slot, m.slot = .ok slot ∧ slot.value = f.value

theorem readMembers_written (isFirst : Bool) (f : Field) (rest : List UInt8) (fs : List Field)
    (fuel : Nat) : ∃ m, f.Shows m ∧
      readMembers (fuel + 1) isFirst
          ((if isFirst then [] else [44]) ++ (f.write ++ follow rest fs)) =
        (m :: (readMembers fuel false (follow rest fs)).1,
          (readMembers fuel false (follow rest fs)).2) := by
  have key := readText_written f.key (58 :: (f.bytes ++ follow rest fs))
  have skip := f.spells.skip fuel (follows_follow rest fs)
  have text : f.write ++ follow rest fs =
      34 :: ((utf8 f.key).flatMap escapeByte ++ 34 :: 58 :: (f.bytes ++ follow rest fs)) := by
    simp [write, writeText]
  refine ⟨⟨f.key, .ok ⟨f.bytes ++ follow rest fs, none⟩⟩, ⟨rfl, _, rfl, ?_⟩, ?_⟩
  · exact f.spells.read (follows_follow rest fs)
  · rw [text]
    cases isFirst
    all_goals
      simp [readMembers, skipBlanks, isBlankByte, memberStart, readKey, key, Except.mapError,
        readColon, skip]

/-- What is written is read, member by member. -/
theorem readMembers_follow (rest : List UInt8) {fs : List Field} {fuel : Nat}
    (h : fs.length < fuel) : ∃ ms, List.Forall₂ Shows fs ms ∧
      readMembers fuel false (follow rest fs) = (ms, .closed rest) := by
  induction fs generalizing fuel with
  | nil =>
    obtain ⟨fuel, rfl⟩ := Nat.exists_eq_add_one_of_ne_zero (Nat.ne_of_gt (Nat.zero_lt_of_lt h))
    exact ⟨[], .nil, rfl⟩
  | cons f fs ih =>
    obtain ⟨fuel, rfl⟩ := Nat.exists_eq_add_one_of_ne_zero (Nat.ne_of_gt (Nat.zero_lt_of_lt h))
    obtain ⟨ms, shows, hms⟩ := ih (Nat.lt_of_succ_lt_succ h)
    obtain ⟨m, hm, hread⟩ := readMembers_written false f rest fs fuel
    refine ⟨m :: ms, .cons hm shows, ?_⟩
    rw [hms] at hread
    rw [follow, joinBytes_append]
    exact hread

theorem length_lt_follow (rest : List UInt8) (fs : List Field) :
    fs.length < (follow rest fs).length := by
  induction fs with
  | nil => simp [follow]
  | cons f fs ih =>
    rw [follow, joinBytes_append]
    simp only [List.length_cons, List.length_append]
    omega

/-- The members of an object are read as they are written. -/
theorem members?_written (f : Field) (fs : List Field) : ∃ ms, List.Forall₂ Shows (f :: fs) ms ∧
    members? (123 :: (joinBytes 44 ((f :: fs).map write) ++ [125])) = some ms := by
  obtain ⟨m, hm, hread⟩ :=
    f.readMembers_written true [] fs (f.write ++ follow [] fs).length
  have long : fs.length < (f.write ++ follow [] fs).length := by
    have := length_lt_follow [] fs
    simp only [List.length_append]
    omega
  obtain ⟨ms, shows, hms⟩ := readMembers_follow [] long
  refine ⟨m :: ms, .cons hm shows, ?_⟩
  rw [hms] at hread
  have hobject :
      Value.read (123 :: (f.write ++ follow [] fs)) = .object (f.write ++ follow [] fs) :=
    rfl
  rw [joinBytes_append]
  simp only [if_true, List.nil_append] at hread
  simp only [members?, Outline.read, hobject, hread]
  rfl

theorem slotsOf_written {fs : List Field} {ms : List Member} (shows : List.Forall₂ Shows fs ms)
    (name : String) : (Member.slotsOf name ms).map Slot.value =
      (fs.filter fun f => f.key == name).map value := by
  induction shows with
  | nil => rfl
  | @cons f m fs ms hm shows ih =>
    obtain ⟨hkey, slot, hslot, hvalue⟩ := hm
    unfold Member.slotsOf at ih ⊢
    by_cases h : f.key == name
    · have hm : (m.key == name) = true := by rw [hkey, h]
      have hs : m.slot? = some slot := by rw [Member.slot?, hslot]; rfl
      simp only [List.filter_cons, hm, h, if_true, List.filterMap_cons_some hs, List.map_cons,
        hvalue, ih]
    · have hm : ¬ (m.key == name) = true := by rwa [hkey]
      simp only [List.filter_cons, if_neg h, if_neg hm, ih]

variable {fs : List Field} {ms : List Member} (shows : List.Forall₂ Shows fs ms) (name : String)
include shows

theorem only?_of_filter {v : Value} (h : (fs.filter fun f => f.key == name).map value = [v]) :
    Member.only? name ms = some v := by
  have slots := slotsOf_written shows name
  rw [h] at slots
  obtain ⟨slot, hslots, hv⟩ := List.map_eq_singleton_iff.mp slots
  rw [Member.only?, hslots]
  exact congrArg some hv

theorem slotsOf_eq_nil (h : (fs.filter fun f => f.key == name) = []) :
    Member.slotsOf name ms = [] := by
  have slots := slotsOf_written shows name
  rw [h] at slots
  exact List.map_eq_nil_iff.mp slots

end Field
end Giro.Json
