import Giro.Amount
import Giro.Config
import Giro.Proofs.Numerals

/-!
# Environments that spell a configuration

A variable names a field with its letters in either case. An environment spells a configuration if
every field either has one variable, whose value spells the setting, or has none and is left at its
default. Variables are taken in one after another, and what has been taken in is told field by
field, so their order does not matter: `exists_foldlM_take_iff`. Whatever spells a configuration is
read as that configuration, and a field with two variables, without its only one, or with a number
that it cannot hold is refused: `Config.reads_back`.
-/

namespace Giro.Config

open Text

/-! ## Names -/

/-- A letter of a name in either case. The Kelvin sign is a capital k as well. -/
inductive Cased : Char → Char → Prop where
  | same (c : Char) : Cased c c
  | capital (c : Char) : Cased c.toUpper c
  | kelvin : Cased '\u212a' 'k'

/-- The name of a variable is the field's, in any mixture of cases. -/
def Field.NamedBy (f : Field) (source : String) : Prop :=
  List.Forall₂ Cased source.toList f.name.toList

theorem cased_lowerChar (c : Char) : Cased c (lowerChar c) := by
  unfold lowerChar
  split_ifs with capital kelvin
  · have upper : ∀ k : Fin 26, (Char.ofNat (65 + k + 32)).toUpper = Char.ofNat (65 + k) := by decide
    obtain ⟨low, high⟩ : 65 ≤ c.toNat ∧ c.toNat ≤ 90 := capital
    have h := upper ⟨c.toNat - 65, by omega⟩
    rw [show 65 + (c.toNat - 65) = c.toNat by omega, Char.ofNat_toNat] at h
    have cased := Cased.capital (Char.ofNat (c.toNat + 32))
    rwa [h] at cased
  · have : c = '\u212a' := Char.toNat_inj.mp kelvin
    subst this
    exact .kelvin
  · exact .same c

/-- The letters of names are those that lower case leaves alone. -/
theorem lowerChar_of_cased {f : Field} {c d : Char} (hd : d ∈ f.name.toList) (h : Cased c d) :
    lowerChar c = d := by
  have small : f.name.toList.all fun d => lowerChar d == d && lowerChar d.toUpper == d := by
    cases f <;> decide +kernel
  have letter := List.all_eq_true.mp small d hd
  simp only [Bool.and_eq_true, beq_iff_eq] at letter
  cases h with
  | same => exact letter.1
  | capital => exact letter.2
  | kelvin => rfl

theorem Field.namedBy_iff {f : Field} {source : String} :
    f.NamedBy source ↔ f.name.toList = source.toList.map lowerChar := by
  constructor
  · intro h
    have lower : List.Forall₂ (fun c d => lowerChar c = d) source.toList f.name.toList := by
      unfold NamedBy at h
      rw [List.forall₂_iff_get] at h ⊢
      exact ⟨h.1, fun i hc hd => lowerChar_of_cased (List.get_mem _ _) (h.2 i hc hd)⟩
    rw [← List.forall₂_map_left_iff, List.forall₂_eq_eq_eq] at lower
    exact lower.symm
  · intro h
    unfold NamedBy
    rw [h, List.forall₂_map_right_iff]
    exact List.forall₂_same.mpr fun c _ => cased_lowerChar c

theorem Field.name_injective {f g : Field} (h : f.name.toList = g.name.toList) : f = g := by
  revert h
  cases f <;> cases g <;> decide

theorem namedBy_of_fieldOf? {f : Field} {source : String} (h : fieldOf? source = some f) :
    f.NamedBy source := by
  have same := List.find?_some (p := fun f : Field => f.name.toList == _) h
  exact Field.namedBy_iff.mpr (eq_of_beq same)

theorem Field.NamedBy.unique {f g : Field} {source : String} (hf : f.NamedBy source)
    (hg : g.NamedBy source) : f = g :=
  Field.name_injective ((Field.namedBy_iff.mp hf).trans (Field.namedBy_iff.mp hg).symm)

theorem fieldOf?_eq_some_iff {f : Field} {source : String} :
    fieldOf? source = some f ↔ f.NamedBy source := by
  constructor
  · exact namedBy_of_fieldOf?
  · intro h
    cases found : fieldOf? source with
    | none =>
      have mem : f ∈ Field.all := by cases f <;> decide
      have unnamed := List.find?_eq_none.mp found f mem
      exact absurd (beq_iff_eq.mpr (Field.namedBy_iff.mp h)) unnamed
    | some g => rw [(namedBy_of_fieldOf? found).unique h]

theorem fieldOf?_eq_none_iff {source : String} :
    fieldOf? source = none ↔ ∀ f : Field, ¬ f.NamedBy source := by
  simp only [Option.eq_none_iff_forall_ne_some, ne_eq, fieldOf?_eq_some_iff]

instance (f : Field) (source : String) : Decidable (f.NamedBy source) :=
  decidable_of_iff _ fieldOf?_eq_some_iff

/-- The variables of an environment that are for the field. -/
def Field.variables (f : Field) (env : List (String × String)) : List (String × String) :=
  env.filter fun v => f.NamedBy v.1

theorem Field.variables_cons_of_namedBy {f : Field} {v : String × String} (h : f.NamedBy v.1)
    (env : List (String × String)) : f.variables (v :: env) = v :: f.variables env :=
  List.filter_cons_of_pos (decide_eq_true h)

theorem Field.variables_cons_of_not_namedBy {f : Field} {v : String × String}
    (h : ¬ f.NamedBy v.1) (env : List (String × String)) :
    f.variables (v :: env) = f.variables env :=
  List.filter_cons_of_neg (by simpa using h)

/-! ## Taking in variables -/

theorem Settings.find?_concat_self {s : Settings} {f : Field} {x : Setting} (h : s.find? f = none) :
    Settings.find? (s ++ [(f, x)]) f = some x := by
  unfold find? at h ⊢
  rw [List.find?_append, Option.map_eq_none_iff.mp h]
  simp

theorem Settings.find?_concat_of_ne {s : Settings} {f g : Field} {x : Setting} (h : f ≠ g) :
    Settings.find? (s ++ [(f, x)]) g = s.find? g := by
  simp [find?, List.find?_append, h]

/-- What was known of a field before the variables were taken in, and what is known after. -/
inductive Field.Learns (f : Field) (env : List (String × String)) :
    Option Setting → Option Setting → Prop where
  | nothing {known : Option Setting} (unnamed : f.variables env = []) : Learns f env known known
  | setting {v : String × String} {x : Setting} (single : f.variables env = [v])
      (read : readSetting f v.1 v.2 = .ok x) : Learns f env none (some x)

theorem Field.learns_nil_iff {f : Field} {before after : Option Setting} :
    f.Learns [] before after ↔ after = before := by
  constructor
  · rintro (_ | ⟨single, _⟩)
    · rfl
    · cases single
  · rintro rfl
    exact .nothing rfl

theorem Field.learns_cons_of_not_namedBy {f : Field} {v : String × String}
    (h : ¬ f.NamedBy v.1) {env : List (String × String)} {before after : Option Setting} :
    f.Learns (v :: env) before after ↔ f.Learns env before after := by
  have same := variables_cons_of_not_namedBy h env
  constructor
  · rintro (unnamed | ⟨single, read⟩)
    · exact .nothing (same.symm.trans unnamed)
    · exact .setting (same.symm.trans single) read
  · rintro (unnamed | ⟨single, read⟩)
    · exact .nothing (same.trans unnamed)
    · exact .setting (same.trans single) read

theorem Field.learns_cons_of_namedBy {f : Field} {v : String × String} (h : f.NamedBy v.1)
    {env : List (String × String)} {before after : Option Setting} :
    f.Learns (v :: env) before after ↔
      before = none ∧ ∃ x, readSetting f v.1 v.2 = .ok x ∧ f.Learns env (some x) after := by
  have more := variables_cons_of_namedBy h env
  constructor
  · rintro (unnamed | ⟨single, read⟩)
    · cases more.symm.trans unnamed
    · obtain ⟨rfl, rest⟩ := List.cons.inj (more.symm.trans single)
      exact ⟨rfl, _, read, .nothing rest⟩
  · rintro ⟨rfl, x, read, ⟨rest⟩⟩
    exact .setting (more.trans (congrArg _ rest)) read

namespace Field.Learns

variable {f : Field} {env : List (String × String)} {known : Option Setting}

theorem exists_readSetting (h : f.Learns env none known) {v : String × String}
    (mem : v ∈ f.variables env) : ∃ x, readSetting f v.1 v.2 = .ok x := by
  cases h with
  | nothing unnamed =>
    rw [unnamed] at mem
    cases mem
  | setting single read =>
    rw [single, List.mem_singleton] at mem
    exact ⟨_, mem ▸ read⟩

theorem eq_none (h : f.Learns env none known) (unnamed : f.variables env = []) : known = none := by
  cases h with
  | nothing => rfl
  | setting single => cases unnamed.symm.trans single

theorem length_le (h : f.Learns env none known) : (f.variables env).length ≤ 1 := by
  cases h with
  | nothing unnamed => simp [unnamed]
  | setting single => simp [single]

end Field.Learns

theorem take_of_unnamed {v : String × String} (h : ∀ f : Field, ¬ f.NamedBy v.1) (s : Settings) :
    take s v = .ok s := by
  rw [take, fieldOf?_eq_none_iff.mpr h]

/-- A variable is for one field, of which nothing may be known yet. -/
theorem take_eq_ok_iff {v : String × String} {f : Field} (h : f.NamedBy v.1) {s s' : Settings} :
    take s v = .ok s' ↔
      s.find? f = none ∧ ∃ x, readSetting f v.1 v.2 = .ok x ∧ s ++ [(f, x)] = s' := by
  simp only [take, fieldOf?_eq_some_iff.mpr h]
  cases known : s.find? f with
  | some y => simp
  | none => cases hread : readSetting f v.1 v.2 <;> simp [Except.map]

/-- Variables are taken in exactly if each field learns something definite, whatever their order. -/
theorem exists_foldlM_take_iff {env : List (String × String)} {s : Settings}
    {known : Field → Option Setting} :
    (∃ s', env.foldlM take s = .ok s' ∧ ∀ f, s'.find? f = known f) ↔
      ∀ f : Field, f.Learns env (s.find? f) (known f) := by
  induction env generalizing s with
  | nil =>
    simp only [Field.learns_nil_iff]
    constructor
    · rintro ⟨_, ⟨rfl⟩, same⟩ f
      exact (same f).symm
    · exact fun same => ⟨s, rfl, fun f => (same f).symm⟩
  | cons v env ih =>
    have step : (∃ s', (v :: env).foldlM take s = .ok s' ∧ ∀ f, s'.find? f = known f) ↔
        ∃ s₁, take s v = .ok s₁ ∧ ∀ f : Field, f.Learns env (s₁.find? f) (known f) := by
      rw [List.foldlM_cons]
      cases take s v with
      | error why => simp [bind, Except.bind]
      | ok s₁ => simpa [bind, Except.bind] using ih
    rw [step]
    by_cases named : ∃ f : Field, f.NamedBy v.1
    · obtain ⟨f, hf⟩ := named
      have others (g : Field) (hg : f ≠ g) : ¬ g.NamedBy v.1 := fun h => hg (hf.unique h)
      simp only [take_eq_ok_iff hf]
      constructor
      · rintro ⟨_, ⟨hnone, x, read, rfl⟩, learns⟩ g
        have learns := learns g
        by_cases hg : f = g
        · subst hg
          rw [Settings.find?_concat_self hnone] at learns
          exact (Field.learns_cons_of_namedBy hf).mpr ⟨hnone, x, read, learns⟩
        · rw [Settings.find?_concat_of_ne hg] at learns
          exact (Field.learns_cons_of_not_namedBy (others g hg)).mpr learns
      · intro learns
        obtain ⟨hnone, x, read, rest⟩ := (Field.learns_cons_of_namedBy hf).mp (learns f)
        refine ⟨_, ⟨hnone, x, read, rfl⟩, fun g => ?_⟩
        by_cases hg : f = g
        · subst hg
          rwa [Settings.find?_concat_self hnone]
        · rw [Settings.find?_concat_of_ne hg]
          exact (Field.learns_cons_of_not_namedBy (others g hg)).mp (learns g)
    · have unnamed (f : Field) : ¬ f.NamedBy v.1 := fun h => named ⟨f, h⟩
      simp [take_of_unnamed unnamed, Field.learns_cons_of_not_namedBy (unnamed _)]

/-! ## Settings -/

/-- The value of a variable says what the setting is. -/
inductive Setting.SaidBy : Setting → String → Prop where
  | text (s : String) : SaidBy (.text s) s
  | integer {n : Int} {value : String} (numeral : Integer.Numeral value.toList n) :
      SaidBy (.integer n) value

/-- The field can hold the setting. -/
inductive Field.Holds (f : Field) : Setting → Prop where
  | text (s : String) (isText : f.format? = none) : Holds f (.text s)
  | integer {format : Integer.Format} {n : Int} (hformat : f.format? = some format)
      (fits : format.Fits n) : Holds f (.integer n)

theorem readSetting_of_saidBy {f : Field} {x : Setting} {value : String} (holds : f.Holds x)
    (said : x.SaidBy value) (source : String) : readSetting f source value = .ok x := by
  unfold readSetting
  cases said with
  | text =>
    cases holds with
    | text _ isText => rw [isText]
  | integer numeral =>
    cases holds with
    | @integer format _ hformat fits =>
      rw [hformat]
      simp only [format.read_numeral numeral, if_pos fits]

theorem holds_of_readSetting {f : Field} {source value : String} {x : Setting}
    (h : readSetting f source value = .ok x) : f.Holds x := by
  unfold readSetting at h
  split at h
  · cases h
    exact .text _ ‹_›
  · rename_i format hformat
    split at h
    · cases h
      exact .integer hformat (format.fits_of_read ‹_›)
    · cases h

theorem Field.Learns.holds {f : Field} {env : List (String × String)} {x : Setting}
    (h : f.Learns env none (some x)) : f.Holds x := by
  cases h with
  | setting single read => exact holds_of_readSetting read

theorem readSetting_of_not_fits {f : Field} {format : Integer.Format}
    (hformat : f.format? = some format) {value : String} {n : Int}
    (numeral : Integer.Numeral value.toList n) (beyond : ¬ format.Fits n) (source : String) :
    readSetting f source value = .error (.unreadable (format.complaint n) value source) := by
  unfold readSetting
  rw [hformat]
  simp only [format.read_numeral numeral, if_neg beyond]

/-- The setting of a field that no variable is for, unless it needs one. -/
def Field.default? : Field → Option Setting
  | .databaseUrl | .tokenKey => none
  | .serverPort => some (.integer 3000)
  | .accessTokenMinutes => some (.integer 15)
  | .refreshTokenHours => some (.integer 24)
  | .requestTimeoutSeconds => some (.integer 30)
  | .maxConnections => some (.integer 10)

def setting (c : Config) : Field → Setting
  | .databaseUrl => .text c.databaseUrl
  | .tokenKey => .text c.tokenKey
  | .serverPort => .integer c.serverPort.toNat
  | .accessTokenMinutes => .integer c.accessTokenMinutes.toInt
  | .refreshTokenHours => .integer c.refreshTokenHours.toInt
  | .requestTimeoutSeconds => .integer c.requestTimeoutSeconds.toNat
  | .maxConnections => .integer c.maxConnections.toNat

theorem holds_setting (c : Config) (f : Field) : f.Holds (c.setting f) := by
  have signed (n : Int64) : Integer.Format.signed64.Fits n.toInt :=
    ⟨n.le_toInt, Int.le_of_lt_add_one n.toInt_lt⟩
  have unsigned {n bound : Nat} (h : n < bound + 1) : (0 : Int) ≤ n ∧ (n : Int) ≤ bound :=
    ⟨Int.natCast_nonneg n, Int.ofNat_le.mpr (Nat.le_of_lt_succ h)⟩
  cases f with
  | databaseUrl | tokenKey => exact .text _ rfl
  | accessTokenMinutes | refreshTokenHours => exact .integer rfl (signed _)
  | serverPort => exact .integer rfl (unsigned c.serverPort.toNat_lt)
  | requestTimeoutSeconds => exact .integer rfl (unsigned c.requestTimeoutSeconds.toNat_lt)
  | maxConnections => exact .integer rfl (unsigned c.maxConnections.toNat_lt)

/-! ## Completing -/

section Complete

variable {s : Settings} {f : Field}

theorem Settings.text?_eq_some_iff {t : String} :
    s.text? f = some t ↔ (s.find? f).or none = some (.text t) := by
  unfold text?
  rw [Option.or_none]
  constructor
  · intro h
    split at h
    · cases h
      assumption
    · cases h
  · intro h
    rw [h]

/-- A number that the field can hold keeps its value in the configuration. -/
theorem Settings.integer?_getD_iff {α : Type} {format : Integer.Format}
    (hformat : f.format? = some format) (of : Int → α) (value : α → Int)
    (of_value : ∀ a, of (value a) = a) (value_of : ∀ n, format.Fits n → value (of n) = n)
    (standard : α) {a : α} (holds : ∀ x, s.find? f = some x → f.Holds x) :
    ((s.integer? f).map of).getD standard = a ↔
      (s.find? f).or (some (.integer (value standard))) = some (.integer (value a)) := by
  have injective {a a' : α} : value a = value a' ↔ a = a' := by
    constructor
    · intro h
      rw [← of_value a, h, of_value]
    · rintro rfl
      rfl
  unfold integer?
  cases found : s.find? f with
  | none => simp [injective]
  | some x =>
    cases holds x found with
    | text t isText => cases isText.symm.trans hformat
    | integer hformat' fits =>
      cases hformat'.symm.trans hformat
      simp [← injective, value_of _ fits]

/-- Settings that the fields can hold are completed to the configuration that they tell, with the
defaults where they tell nothing. -/
theorem complete_eq_ok_iff {c : Config} (holds : ∀ f x, s.find? f = some x → f.Holds x) :
    complete s = .ok c ↔ ∀ f, (s.find? f).or f.default? = some (c.setting f) := by
  have port (a : UInt16) := Settings.integer?_getD_iff (f := .serverPort) rfl
    (fun n => UInt16.ofNat n.toNat) (fun n => n.toNat) (fun n => by simp)
    (fun n ⟨(low : 0 ≤ n), (high : n ≤ 65535)⟩ => by simp; omega) 3000 (a := a) (holds _)
  have minutes (a : Int64) := Settings.integer?_getD_iff (f := .accessTokenMinutes) rfl Int64.ofInt
    Int64.toInt Int64.ofInt_toInt (fun n => Amount.toInt_ofInt) 15 (a := a) (holds _)
  have hours (a : Int64) := Settings.integer?_getD_iff (f := .refreshTokenHours) rfl Int64.ofInt
    Int64.toInt Int64.ofInt_toInt (fun n => Amount.toInt_ofInt) 24 (a := a) (holds _)
  have timeout (a : UInt64) := Settings.integer?_getD_iff (f := .requestTimeoutSeconds) rfl
    (fun n => UInt64.ofNat n.toNat) (fun n => n.toNat) (fun n => by simp)
    (fun n ⟨(low : 0 ≤ n), (high : n ≤ 18446744073709551615)⟩ => by simp; omega) 30
    (a := a) (holds _)
  have connections (a : UInt32) := Settings.integer?_getD_iff (f := .maxConnections) rfl
    (fun n => UInt32.ofNat n.toNat) (fun n => n.toNat) (fun n => by simp)
    (fun n ⟨(low : 0 ≤ n), (high : n ≤ 4294967295)⟩ => by simp; omega) 10 (a := a) (holds _)
  constructor
  · intro h
    unfold complete at h
    split at h
    · cases h
    · cases h
    · rename_i url key
      cases h
      intro f
      cases f with
      | databaseUrl => exact Settings.text?_eq_some_iff.mp url
      | tokenKey => exact Settings.text?_eq_some_iff.mp key
      | serverPort => exact (port _).mp rfl
      | accessTokenMinutes => exact (minutes _).mp rfl
      | refreshTokenHours => exact (hours _).mp rfl
      | requestTimeoutSeconds => exact (timeout _).mp rfl
      | maxConnections => exact (connections _).mp rfl
  · intro h
    unfold complete
    rw [Settings.text?_eq_some_iff.mpr (h .databaseUrl),
      Settings.text?_eq_some_iff.mpr (h .tokenKey)]
    simp only [(port _).mpr (h .serverPort), (minutes _).mpr (h .accessTokenMinutes),
      (hours _).mpr (h .refreshTokenHours), (timeout _).mpr (h .requestTimeoutSeconds),
      (connections _).mpr (h .maxConnections)]

end Complete

/-! ## Reading -/

/-- An environment is read as a configuration exactly if each field learns its setting, or learns
nothing and is at its default. -/
theorem read_eq_ok_iff {env : List (String × String)} {c : Config} :
    read env = .ok c ↔
      ∀ f : Field, ∃ known, f.Learns env none known ∧ known.or f.default? = some (c.setting f) := by
  have holds {known : Field → Option Setting} (learns : ∀ f : Field, f.Learns env none (known f))
      (f : Field) (x : Setting) (told : known f = some x) : f.Holds x :=
    (told ▸ learns f).holds
  constructor
  · intro h
    cases taken : env.foldlM take [] with
    | error why =>
      rw [read, taken] at h
      cases h
    | ok s =>
      rw [read, taken] at h
      have learns := exists_foldlM_take_iff.mp ⟨s, taken, fun _ => rfl⟩
      have full := (complete_eq_ok_iff (holds learns)).mp h
      exact fun f => ⟨s.find? f, learns f, full f⟩
  · intro told
    choose known learns full using told
    obtain ⟨s, taken, same⟩ := exists_foldlM_take_iff (s := []).mpr learns
    obtain rfl : s.find? = known := funext same
    rw [read, taken]
    exact (complete_eq_ok_iff (holds learns)).mpr full

/-- The environment spells the configuration. -/
def Spelled (c : Config) (env : List (String × String)) : Prop :=
  ∀ f : Field, (∃ v, f.variables env = [v] ∧ (c.setting f).SaidBy v.2) ∨
    f.variables env = [] ∧ f.default? = some (c.setting f)

/-- The environment spells no configuration. -/
inductive Unfit (env : List (String × String)) : Prop where
  | beyond {f : Field} {format : Integer.Format} {v : String × String} {n : Int}
      (mem : v ∈ f.variables env) (hformat : f.format? = some format)
      (numeral : Integer.Numeral v.2.toList n) (beyond : ¬ format.Fits n)
  | absent {f : Field} (required : f.default? = none) (unnamed : f.variables env = [])
  | repeated {f : Field} (twice : 1 < (f.variables env).length)

/-! ## Every configuration is spelled -/

def Setting.write : Setting → String
  | .text s => s
  | .integer n => String.ofList (Integer.write n)

/-- One variable for each field. -/
def write (c : Config) : List (String × String) :=
  Field.all.map fun f => (f.name, (c.setting f).write)

theorem Setting.saidBy_write (x : Setting) : x.SaidBy x.write := by
  cases x with
  | text s => exact .text s
  | integer n =>
    refine .integer ?_
    rw [write, String.toList_ofList]
    exact Integer.numeral_write n

theorem Field.namedBy_name_iff {f g : Field} : f.NamedBy g.name ↔ g = f := by
  have own (f : Field) : f.NamedBy f.name := List.forall₂_same.mpr fun c _ => .same c
  constructor
  · exact fun h => (own g).unique h
  · rintro rfl
    exact own g

theorem spelled_write (c : Config) : c.Spelled c.write := by
  intro f
  refine Or.inl ⟨(f.name, (c.setting f).write), ?_, Setting.saidBy_write _⟩
  simp only [Field.variables, write, List.filter_map, Function.comp_def, Field.namedBy_name_iff]
  cases f <;> rfl

/-- Whatever spells a configuration is read as that configuration, in particular what `write` gives.
What spells none is refused. -/
theorem reads_back (env : List (String × String)) :
    (∀ c : Config, c.Spelled env → read env = .ok c) ∧
    (Unfit env → ∃ why, read env = .error why) := by
  constructor
  · intro c spelled
    refine read_eq_ok_iff.mpr fun f => ?_
    rcases spelled f with ⟨v, single, said⟩ | ⟨unnamed, standard⟩
    · have read := readSetting_of_saidBy (holds_setting c f) said v.1
      exact ⟨_, .setting single read, rfl⟩
    · exact ⟨none, .nothing unnamed, standard⟩
  · intro unfit
    cases result : read env with
    | error why => exact ⟨why, rfl⟩
    | ok c =>
      -- a field that is at fault would have learnt something definite
      have told := read_eq_ok_iff.mp result
      exfalso
      cases unfit with
      | @beyond f format v n mem hformat numeral beyond =>
        obtain ⟨known, learns, _⟩ := told f
        obtain ⟨x, read⟩ := learns.exists_readSetting mem
        cases (readSetting_of_not_fits hformat numeral beyond v.1).symm.trans read
      | @absent f required unnamed =>
        obtain ⟨known, learns, full⟩ := told f
        rw [learns.eq_none unnamed, required] at full
        cases full
      | @repeated f twice =>
        obtain ⟨known, learns, _⟩ := told f
        exact absurd learns.length_le (Nat.not_le.mpr twice)

def sampleConfig : Config where
  databaseUrl := ""
  tokenKey := "k=v"
  serverPort := 65535
  accessTokenMinutes := -9223372036854775808

def sampleEnvironment : List (String × String) :=
  [("Server_Port", "65535"), ("PATH", "/bin"), ("DATABASE_URL", ""), ("path", "/"),
    ("access_TOKEN_minutes", "-9223372036854775808"), ("TO\u212aEN_SYMMETRIC_KEY", "k=v")]

theorem reads_back_of_mixed_case :
    sampleConfig.Spelled sampleEnvironment ∧ read sampleEnvironment = .ok sampleConfig ∧
    Unfit (("SERVER_PORT", "65536") :: sampleEnvironment) ∧
    ∃ why, read (("SERVER_PORT", "65536") :: sampleEnvironment) = .error why := by
  have numeral (n : Int) (value : String) (h : Integer.write n = value.toList) :
      (Setting.integer n).SaidBy value := .integer (h ▸ Integer.numeral_write n)
  have spelled : sampleConfig.Spelled sampleEnvironment := by
    intro f
    cases f with
    | databaseUrl => exact Or.inl ⟨("DATABASE_URL", ""), by decide +kernel, .text _⟩
    | tokenKey => exact Or.inl ⟨("TO\u212aEN_SYMMETRIC_KEY", "k=v"), by decide +kernel, .text _⟩
    | serverPort =>
      exact Or.inl ⟨("Server_Port", "65535"), by decide +kernel, numeral _ _ (by decide +kernel)⟩
    | accessTokenMinutes =>
      exact Or.inl ⟨("access_TOKEN_minutes", "-9223372036854775808"), by decide +kernel,
        numeral _ _ (by decide +kernel)⟩
    | refreshTokenHours | requestTimeoutSeconds | maxConnections =>
      exact Or.inr ⟨by decide +kernel, rfl⟩
  have twice : Unfit (("SERVER_PORT", "65536") :: sampleEnvironment) :=
    .repeated (f := .serverPort) (by decide +kernel)
  exact ⟨spelled, (reads_back _).1 _ spelled, twice, (reads_back _).2 twice⟩

end Giro.Config
