/-!
# Tables of rows with numbers

A table is a list of rows that carry their own id. Rows are found by id, and a row is put where the
order of ids wants it.
-/

namespace Giro.Store.Table

variable {ρ : Type} (id : ρ → Int)

def find? (n : Int) (rows : List ρ) : Option ρ := rows.find? fun r => id r == n

/-- Puts a row in front of the first row with a larger id. -/
def insert (row : ρ) : List ρ → List ρ
  | [] => [row]
  | r :: rows => if id row < id r then row :: r :: rows else r :: insert row rows

def insertAll (new rows : List ρ) : List ρ := new.foldl (fun rows row => insert id row rows) rows

variable {id}

theorem id_of_find? {n : Int} {rows : List ρ} {row : ρ} (h : find? id n rows = some row) :
    id row = n := by
  simpa using List.find?_some h

theorem mem_of_find? {n : Int} {rows : List ρ} {row : ρ} (h : find? id n rows = some row) :
    row ∈ rows :=
  List.mem_of_find?_eq_some h

theorem find?_eq_none_iff {n : Int} {rows : List ρ} :
    find? id n rows = none ↔ ∀ row ∈ rows, id row ≠ n := by
  simp [find?]

theorem perm_insert (row : ρ) (rows : List ρ) : (insert id row rows).Perm (row :: rows) := by
  induction rows with
  | nil => exact .refl _
  | cons r rows ih =>
    unfold insert
    split
    · exact .refl _
    · exact (ih.cons r).trans (.swap row r rows)

theorem perm_insertAll (new rows : List ρ) : (insertAll id new rows).Perm (new ++ rows) := by
  induction new generalizing rows with
  | nil => exact .refl _
  | cons row new ih =>
    exact (ih _).trans (((perm_insert row rows).append_left new).trans List.perm_middle)

theorem mem_insertAll {row : ρ} {new rows : List ρ} :
    row ∈ insertAll id new rows ↔ row ∈ new ∨ row ∈ rows := by
  rw [(perm_insertAll new rows).mem_iff, List.mem_append]

end Giro.Store.Table
