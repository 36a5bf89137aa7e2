import Wireframe.Proofs.Markup.Contents
import Wireframe.Proofs.Render.Outline

/-! # The elements in trees

The elements in some trees, each before what it holds, and the values that they give to one of
their attributes. Blank texts may be left out of the trees before or after the elements are
listed (`Wireframe.Markup.elements_dropBlanks`).
-/

namespace Wireframe.Markup

/-- The elements in trees, in order: an element comes before those that it holds. -/
def elements : List Markup → List Markup
  | [] => []
  | .text _ :: rest => elements rest
  | .element tag attributes children :: rest =>
    .element tag attributes children :: (elements children ++ elements rest)

/-- The tag of an element. -/
def tag? : Markup → Option String
  | .text _ => none
  | .element tag _ _ => some tag

/-- The value that an element gives to an attribute. -/
def value? (name : String) : Markup → Option String
  | .text _ => none
  | .element _ attributes _ => (attributes.lookup name).join

/-- The values of an attribute in trees, in order. -/
def values (name : String) (ms : List Markup) : List String := (elements ms).filterMap (value? name)

@[simp] theorem elements_nil : elements [] = [] := by rw [elements]

@[simp] theorem elements_text (s : String) (rest : List Markup) :
    elements (.text s :: rest) = elements rest := by rw [elements]

theorem elements_cons (m : Markup) (rest : List Markup) :
    elements (m :: rest) = elements [m] ++ elements rest := by
  cases m with
  | text s => simp
  | element tag attributes children => simp [elements]

theorem elements_append (ms more : List Markup) :
    elements (ms ++ more) = elements ms ++ elements more := by
  induction ms with
  | nil => simp
  | cons m ms ih =>
      rw [List.cons_append, elements_cons, ih, elements_cons m ms, List.append_assoc]

theorem mem_elements {m : Markup} {ms : List Markup} :
    m ∈ elements ms ↔ ∃ n ∈ ms, m ∈ elements [n] := by
  induction ms with
  | nil => simp
  | cons n ms ih =>
      rw [elements_cons, List.mem_append, ih]
      simp

theorem mem_elements_self (tag : String) (attributes : List Attribute)
    (children rest : List Markup) :
    .element tag attributes children ∈ elements (.element tag attributes children :: rest) := by
  rw [elements]
  exact List.mem_cons_self

theorem mem_elements_inside {m : Markup} {children : List Markup} (inside : m ∈ elements children)
    (tag : String) (attributes : List Attribute) (rest : List Markup) :
    m ∈ elements (.element tag attributes children :: rest) := by
  rw [elements]
  exact List.mem_cons_of_mem _ (List.mem_append_left _ inside)

theorem mem_elements_behind {m : Markup} {rest : List Markup} (behind : m ∈ elements rest)
    (first : Markup) : m ∈ elements (first :: rest) := by
  rw [elements_cons]
  exact List.mem_append_right _ behind

/-- What an element holds is held by whatever holds the element. -/
theorem elements_subset {m : Markup} {ms : List Markup} (inside : m ∈ elements ms) :
    elements [m] ⊆ elements ms := by
  induction ms using elements.induct with
  | case1 => simp at inside
  | case2 s rest ih =>
      rw [elements_text] at inside ⊢
      exact ih inside
  | case3 tag attributes children rest ihChildren ihRest =>
      rw [elements] at inside ⊢
      rcases List.mem_cons.mp inside with rfl | inside
      · rw [elements, elements_nil, List.append_nil]
        exact List.cons_subset_cons _ (List.subset_append_left _ _)
      · refine List.subset_cons_of_subset _ ?_
        rcases List.mem_append.mp inside with inside | behind
        · exact List.subset_append_of_subset_left _ (ihChildren inside)
        · exact List.subset_append_of_subset_right _ (ihRest behind)

/-- An element without the blank texts in it. -/
def withoutBlanks : Markup → Markup
  | .text s => .text s
  | .element tag attributes children => .element tag attributes (dropBlanks children)

theorem elements_dropBlanks (ms : List Markup) :
    elements (dropBlanks ms) = (elements ms).map withoutBlanks := by
  induction ms using dropBlanks.induct with
  | case1 => simp
  | case2 s rest ih =>
      rw [dropBlanks, run, elements_text]
      split_ifs
      · exact ih
      · rw [List.singleton_append, elements_text, ih]
  | case3 tag attributes children rest ihChildren ihRest =>
      rw [dropBlanks, elements, elements, ihChildren, ihRest, List.map_cons, List.map_append,
        withoutBlanks]

@[simp] theorem value?_withoutBlanks (name : String) (m : Markup) :
    m.withoutBlanks.value? name = m.value? name := by
  cases m <;> rfl

@[simp] theorem tag?_withoutBlanks (m : Markup) : m.withoutBlanks.tag? = m.tag? := by
  cases m <;> rfl

section

variable (name : String)

@[simp] theorem values_nil : values name [] = [] := by rw [values, elements_nil, List.filterMap_nil]

@[simp] theorem values_append (ms more : List Markup) :
    values name (ms ++ more) = values name ms ++ values name more := by
  rw [values, elements_append, List.filterMap_append]
  rfl

@[simp] theorem values_text (s : String) (rest : List Markup) :
    values name (.text s :: rest) = values name rest := by
  rw [values, elements_text, values]

@[simp] theorem values_element (tag : String) (attributes : List Attribute)
    (children rest : List Markup) :
    values name (.element tag attributes children :: rest) =
      (attributes.lookup name).join.toList ++ (values name children ++ values name rest) := by
  rw [values, elements, List.filterMap_cons, List.filterMap_append, value?]
  cases (attributes.lookup name).join <;> rfl

theorem values_dropBlanks (ms : List Markup) : values name (dropBlanks ms) = values name ms := by
  rw [values, elements_dropBlanks, List.filterMap_map, values]
  congr 1
  funext m
  exact value?_withoutBlanks name m

theorem values_cons (m : Markup) (rest : List Markup) :
    values name (m :: rest) = values name [m] ++ values name rest := values_append name [m] rest

/-- Trees in which each one has the values of some item have the values of all of the items. -/
theorem values_map {α : Type} (show_ : α → Markup) (given : α → Option String) {items : List α}
    (each : ∀ item ∈ items, values name [show_ item] = (given item).toList) :
    values name (items.map show_) = items.filterMap given := by
  induction items with
  | nil => simp
  | cons item items ih =>
      rw [List.forall_mem_cons] at each
      rw [List.map_cons, values_cons, each.1, ih each.2, List.filterMap_cons]
      cases given item <;> rfl

theorem mem_values {v : String} {m : Markup} {ms : List Markup} (member : m ∈ elements ms)
    (gives : m.value? name = some v) : v ∈ values name ms :=
  List.mem_filterMap.mpr ⟨m, member, gives⟩

end

end Wireframe.Markup
