/-! # Tables

Entries under keys, in the order in which the keys were first set. Setting a key again
changes its value and leaves it in its place.
-/

namespace Wireframe

/-- Entries in the order in which their keys were first set. -/
abbrev Table (κ : Type) (α : Type) := List (κ × α)

namespace Table

variable {κ α : Type} [BEq κ]

/-- The value under a key. -/
def get? (table : Table κ α) (key : κ) : Option α := List.lookup key table

/-- The keys, in order. -/
def keys (table : Table κ α) : List κ := table.map Prod.fst

/-- Sets the value under a key. -/
def put (table : Table κ α) (key : κ) (value : α) : Table κ α :=
  match table with
  | [] => [(key, value)]
  | (k, v) :: rest => if key == k then (k, value) :: rest else (k, v) :: put rest key value

/-- Sets the values of several keys one after the other. -/
def putAll (table entries : Table κ α) : Table κ α :=
  entries.foldl (fun acc e => put acc e.1 e.2) table

/-- The table without the entries under a key. -/
def erase (table : Table κ α) (key : κ) : Table κ α := table.filter fun e => !(key == e.1)

/-- Taking out a key that is there makes a table shorter. -/
theorem length_erase_lt {table : Table κ α} {key : κ} {value : α}
    (found : table.get? key = some value) : (table.erase key).length < table.length := by
  unfold get? at found
  unfold erase
  induction table with
  | nil => cases found
  | cons e rest ih =>
    obtain ⟨k, v⟩ := e
    rw [List.lookup_cons] at found
    rw [List.filter_cons]
    cases same : key == k with
    | true =>
      have := List.length_filter_le (fun e : κ × α => !(key == e.1)) rest
      simp
      omega
    | false =>
      simp only [same] at found
      simpa using ih found

/-- Changes the value under a key, where a key that is not there counts as having a default. -/
def alter (table : Table κ α) (key : κ) (default : α) (change : α → α) : Table κ α :=
  put table key (change ((get? table key).getD default))

end Table

end Wireframe
