import Mathlib.Data.List.Basic
import Wireframe.Value

/-! # Values that cannot be written

A value cannot be written where it is or holds a whole number of too many digits. What is held
by a value that can be written can be written too.
-/

namespace Wireframe.Value

theorem anyOverlongEntry_cons {key v : Value} {rest : List (Value × Value)} :
    anyOverlongEntry ((key, v) :: rest) = true ↔
      key.isOverlong = true ∨ v.isOverlong = true ∨ anyOverlongEntry rest = true := by
  rw [anyOverlongEntry, Bool.or_eq_true, Bool.or_eq_true, or_assoc]

theorem isOverlong_of_mem {items : List Value} {w : Value} (member : w ∈ items)
    (overlong : w.isOverlong = true) : anyOverlong items = true := by
  induction items with
  | nil => cases member
  | cons v items ih =>
      rw [anyOverlong, Bool.or_eq_true]
      obtain rfl | member := List.mem_cons.mp member
      · exact .inl overlong
      · exact .inr (ih member)

theorem isOverlong_of_mem_entries {entries : List (Value × Value)} {e : Value × Value}
    (member : e ∈ entries) (overlong : e.2.isOverlong = true) :
    (map entries).isOverlong = true := by
  rw [isOverlong]
  induction entries with
  | nil => cases member
  | cons entry entries ih =>
      rw [anyOverlongEntry, Bool.or_eq_true, Bool.or_eq_true]
      obtain rfl | member := List.mem_cons.mp member
      · exact .inl (.inr overlong)
      · exact .inr (ih member)

theorem isOverlong_of_field? {entries : List (Value × Value)} {name : String} {w : Value}
    (found : field? name entries = some w) (overlong : w.isOverlong = true) :
    (map entries).isOverlong = true := by
  obtain ⟨e, first, rfl⟩ := Option.map_eq_some_iff.mp found
  exact isOverlong_of_mem_entries (List.mem_of_find?_eq_some first) overlong

theorem anyOverlongEntry_of_perm {entries others : List (Value × Value)}
    (order : entries.Perm others) : anyOverlongEntry entries = anyOverlongEntry others := by
  induction order with
  | nil => rfl
  | cons e _ ih => rw [anyOverlongEntry, anyOverlongEntry, ih]
  | swap e f rest =>
      simp only [anyOverlongEntry]
      exact Bool.or_left_comm _ _ _
  | trans _ _ first second => exact first.trans second

/-- An entry that is put into a mapping brings in what it holds, and nothing else. -/
theorem overlong_of_put {key v : Value} {entries : List (Value × Value)}
    (overlong : anyOverlongEntry (put key v entries) = true) :
    key.isOverlong = true ∨ v.isOverlong = true ∨ anyOverlongEntry entries = true := by
  induction entries with
  | nil => exact anyOverlongEntry_cons.mp overlong
  | cons e rest ih =>
      obtain ⟨k, u⟩ := e
      rw [put] at overlong
      rw [anyOverlongEntry_cons]
      split at overlong
      · obtain found | found | found := anyOverlongEntry_cons.mp overlong <;> simp [found]
      · obtain found | found | found := anyOverlongEntry_cons.mp overlong
        · simp [found]
        · simp [found]
        · obtain found | found | found := ih found <;> simp [found]

theorem overlong_of_putAll {entries into : List (Value × Value)}
    (overlong : anyOverlongEntry (putAll entries into) = true) :
    anyOverlongEntry entries = true ∨ anyOverlongEntry into = true := by
  induction entries generalizing into with
  | nil => exact .inr overlong
  | cons e rest ih =>
      rw [anyOverlongEntry_cons]
      obtain found | found := ih overlong
      · exact .inl (.inr (.inr found))
      · obtain found | found | found := overlong_of_put found
        · exact .inl (.inl found)
        · exact .inl (.inr (.inl found))
        · exact .inr found

end Wireframe.Value
