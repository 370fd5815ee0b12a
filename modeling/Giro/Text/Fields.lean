/-!
# Fields between separators

`fields` cuts a text at every separator, so a text without one is a single field, and joining the
fields gives the text back.
-/

namespace Giro.Text

def fields (separator : Char) : List Char → List (List Char)
  | [] => [[]]
  | c :: cs =>
    if c = separator then [] :: fields separator cs
    else
      match fields separator cs with
      | [] => [[c]]
      | first :: rest => (c :: first) :: rest

def joinFields (separator : Char) : List (List Char) → List Char
  | [] => []
  | [field] => field
  | field :: rest => field ++ separator :: joinFields separator rest

/-- Cuts at the first separator. -/
def cut? (separator : Char) : List Char → Option (List Char × List Char)
  | [] => none
  | c :: cs =>
    if c = separator then some ([], cs)
    else (cut? separator cs).map fun (before, after) => (c :: before, after)

/-- Cuts at the last separator. -/
def cutLast? (separator : Char) : List Char → Option (List Char × List Char)
  | [] => none
  | c :: cs =>
    match cutLast? separator cs with
    | some (before, after) => some (c :: before, after)
    | none => if c = separator then some ([], cs) else none

theorem fields_ne_nil (separator : Char) (cs : List Char) : fields separator cs ≠ [] := by
  cases cs with
  | nil => simp [fields]
  | cons c cs =>
    unfold fields
    split
    · simp
    · split <;> simp

theorem fields_of_not_mem {separator : Char} {cs : List Char} (h : separator ∉ cs) :
    fields separator cs = [cs] := by
  induction cs with
  | nil => rfl
  | cons c cs ih =>
    simp only [List.mem_cons, not_or] at h
    simp [fields, Ne.symm h.1, ih h.2]

theorem fields_append {separator : Char} {field : List Char} (h : separator ∉ field)
    (cs : List Char) :
    fields separator (field ++ separator :: cs) = field :: fields separator cs := by
  induction field with
  | nil => simp [fields]
  | cons c field ih =>
    simp only [List.mem_cons, not_or] at h
    simp [fields, Ne.symm h.1, ih h.2]

theorem joinFields_fields (separator : Char) (cs : List Char) :
    joinFields separator (fields separator cs) = cs := by
  induction cs with
  | nil => rfl
  | cons c cs ih =>
    have hne := fields_ne_nil separator cs
    unfold fields
    split
    · rename_i hc
      cases hf : fields separator cs with
      | nil => exact absurd hf hne
      | cons first rest => rw [hf] at ih; simp [joinFields, ih, hc]
    · cases hf : fields separator cs with
      | nil => exact absurd hf hne
      | cons first rest =>
        rw [hf] at ih
        cases rest with
        | nil => simpa [joinFields] using ih
        | cons second rest => simpa [joinFields] using ih

theorem cutLast?_append {separator : Char} (before : List Char) {after : List Char}
    (h : separator ∉ after) :
    cutLast? separator (before ++ separator :: after) = some (before, after) := by
  have hnone : ∀ cs : List Char, separator ∉ cs → cutLast? separator cs = none := by
    intro cs
    induction cs with
    | nil => intro; rfl
    | cons c cs ih =>
      intro hc
      simp only [List.mem_cons, not_or] at hc
      simp [cutLast?, ih hc.2, Ne.symm hc.1]
  induction before with
  | nil => simp [cutLast?, hnone after h]
  | cons c before ih => simp [cutLast?, ih]

end Giro.Text
