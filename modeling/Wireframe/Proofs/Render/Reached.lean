import Wireframe.Proofs.Table
import Wireframe.Render.Fragment

/-! # Variables that are reached

Following references takes a variable out of the table when it reaches it. So a variable
that something refers to is among those that a document depends on
(`Wireframe.Render.mem_variables`, `Wireframe.Render.variables_closed`), one that nothing
refers to is not (`Wireframe.Render.not_mem_variables`), and a document whose classes refer to
no variable of a theme depends on none (`Wireframe.Render.variables_eq_nil`).
-/

namespace Wireframe

namespace Table

variable {κ α : Type} [BEq κ] [LawfulBEq κ]

theorem get?_erase (table : Table κ α) (key other : κ) :
    (table.erase key).get? other = if other == key then none else table.get? other := by
  induction table with
  | nil => simp [erase, get?]
  | cons e rest ih =>
      obtain ⟨first, value⟩ := e
      have step : erase ((first, value) :: rest) key =
          if key == first then erase rest key else (first, value) :: erase rest key := by
        rw [erase, List.filter_cons]
        cases key == first <;> rfl
      rw [step, get?_cons]
      by_cases same : key = first
      · subst same
        by_cases found : other = key
        · subst found
          simp [ih]
        · simp [found, ih]
      · by_cases found : other = key
        · subst found
          simp [same, ih, get?_cons]
        · simp [same, found, ih, get?_cons]

/-- A key that is there has a value. -/
theorem not_mem_keys {table : Table κ α} {key : κ} (missing : table.get? key = none) :
    key ∉ table.keys := by
  intro member
  obtain ⟨e, inside, rfl⟩ := List.mem_map.mp member
  have differs := List.lookup_eq_none_iff.mp missing e inside
  simp at differs

end Table

namespace Render

/-- What is not in the table does not get into it. -/
theorem get?_unreached {table : Table String String} {pending : List String} {name : String}
    (missing : table.get? name = none) : (unreached table pending).get? name = none := by
  fun_induction unreached table pending with
  | case1 table => exact missing
  | case2 table first rest unknown ih => exact ih missing
  | case3 table first rest value found _ ih =>
      refine ih ?_
      rw [Table.get?_erase, missing]
      exact ite_self none

/-- A name to be followed is reached. -/
theorem get?_unreached_of_mem {table : Table String String} {pending : List String} {name : String}
    (member : name ∈ pending) : (unreached table pending).get? name = none := by
  fun_induction unreached table pending with
  | case1 table => cases member
  | case2 table first rest unknown ih =>
      rcases List.mem_cons.mp member with rfl | later
      · exact get?_unreached unknown
      · exact ih later
  | case3 table first rest value found _ ih =>
      rcases List.mem_cons.mp member with rfl | later
      · refine get?_unreached ?_
        rw [Table.get?_erase]
        simp
      · exact ih (List.mem_append_right _ later)

/-- What the value of a variable refers to is reached if the variable is. -/
theorem get?_unreached_of_references {table : Table String String} {pending : List String}
    {name value other : String} (found : table.get? name = some value)
    (reached : (unreached table pending).get? name = none) (refers : other ∈ references value) :
    (unreached table pending).get? other = none := by
  fun_induction unreached table pending with
  | case1 table => cases found.symm.trans reached
  | case2 table first rest unknown ih => exact ih found reached
  | case3 table first rest held here _ ih =>
      by_cases same : name = first
      · subst same
        cases found.symm.trans here
        exact get?_unreached_of_mem (List.mem_append_left rest refers)
      · refine ih ?_ reached
        rw [Table.get?_erase, if_neg (by simpa using same), found]

/-- A name that is not to be followed, and that no value refers to, is not reached. -/
theorem get?_unreached_of_unread {table : Table String String} {pending : List String}
    {name : String} (unasked : name ∉ pending) (unread : ∀ e ∈ table, name ∉ references e.2) :
    (unreached table pending).get? name = table.get? name := by
  fun_induction unreached table pending with
  | case1 table => rfl
  | case2 table first rest unknown ih =>
      exact ih (fun later => unasked (List.mem_cons_of_mem first later)) unread
  | case3 table first rest held here _ ih =>
      have other : name ≠ first := List.ne_of_not_mem_cons unasked
      have later : name ∉ rest := List.not_mem_of_not_mem_cons unasked
      have value : name ∉ references held := unread _ (Table.mem_of_get? here)
      have fewer : ∀ e ∈ table.erase first, name ∉ references e.2 :=
        fun e inside => unread e (List.mem_of_mem_filter inside)
      rw [ih (fun member => (List.mem_append.mp member).elim value later) fewer,
        Table.get?_erase, if_neg (by simpa using other)]

/-- Names of no variables lead nowhere. -/
theorem unreached_of_missing {table : Table String String} {pending : List String}
    (missing : ∀ name ∈ pending, table.get? name = none) : unreached table pending = table := by
  induction pending with
  | nil => rw [unreached]
  | cons first rest ih =>
      obtain ⟨here, others⟩ := List.forall_mem_cons.mp missing
      rw [unreached]
      split
      · exact ih others
      · rename_i value found
        cases here.symm.trans found

/-- The names that the classes of a document refer to. -/
def referred (d : Document) (theme : Theme.Resolved) : List String :=
  (styled d).flatMap fun (kind, variant) => styleReferences theme kind variant

/-- A variable that a class in use refers to is one that the document depends on. -/
theorem mem_variables {d : Document} {theme : Theme.Resolved} {name : String}
    (declared : name ∈ (named theme).keys) (refers : name ∈ referred d theme) :
    name ∈ Render.variables d theme := by
  rw [Render.variables, List.mem_filter]
  refine ⟨declared, ?_⟩
  rw [Option.isNone_iff_eq_none]
  exact get?_unreached_of_mem refers

/-- A document depends on a variable of the theme exactly if following the references of its classes
reaches it. -/
theorem mem_variables_iff {d : Document} {theme : Theme.Resolved} {name : String} :
    name ∈ Render.variables d theme ↔ name ∈ (named theme).keys ∧
      (unreached (named theme) (referred d theme)).get? name = none := by
  rw [Render.variables, List.mem_filter, Option.isNone_iff_eq_none]
  rfl

/-- A variable that the value of another one refers to is one that the document depends on if it
depends on the other one. -/
theorem variables_closed {d : Document} {theme : Theme.Resolved} {name value other : String}
    (member : name ∈ Render.variables d theme) (found : (named theme).get? name = some value)
    (refers : other ∈ references value) (declared : other ∈ (named theme).keys) :
    other ∈ Render.variables d theme :=
  mem_variables_iff.mpr
    ⟨declared, get?_unreached_of_references found (mem_variables_iff.mp member).2 refers⟩

/-- A document does not depend on a variable that neither its classes nor a value refer to. -/
theorem not_mem_variables {d : Document} {theme : Theme.Resolved} {name : String}
    (unasked : name ∉ referred d theme) (unread : ∀ e ∈ named theme, name ∉ references e.2) :
    name ∉ Render.variables d theme := by
  rw [mem_variables_iff, get?_unreached_of_unread unasked unread]
  rintro ⟨declared, missing⟩
  exact Table.not_mem_keys missing declared

/-- A document whose classes refer to no variable of the theme depends on none. -/
theorem variables_eq_nil {d : Document} {theme : Theme.Resolved}
    (missing : ∀ name ∈ referred d theme, (named theme).get? name = none) :
    Render.variables d theme = [] := by
  have all : unreached (named theme) (referred d theme) = named theme :=
    unreached_of_missing missing
  rw [Render.variables, List.filter_eq_nil_iff]
  intro name declared left
  refine Table.not_mem_keys ?_ declared
  rw [← all]
  exact Option.isNone_iff_eq_none.mp left

end Render

end Wireframe
