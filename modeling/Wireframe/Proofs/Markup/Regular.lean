import Wireframe.Proofs.Render.Outline

/-! # Regular trees

Trees whose tags and names of attributes come from a vocabulary, with no attribute twice
in an element and no two texts side by side. What reading makes of markup is regular if
what was written is, since blank texts leave no neighbours behind that were apart
(`Wireframe.Markup.regular_dropBlanks`).
-/

namespace Wireframe.Markup

/-- Names that all come from a vocabulary, none of them twice. -/
def Distinct (vocabulary names : List String) : Prop :=
  names.Nodup ∧ ∀ name ∈ names, name ∈ vocabulary

instance (vocabulary names : List String) : Decidable (Distinct vocabulary names) :=
  inferInstanceAs (Decidable (_ ∧ _))

/-- Trees with tags and names of attributes from a vocabulary, no attribute twice in an element, and
an element or nothing behind each text. -/
def Regular (tags names : List String) : List Markup → Prop
  | [] => True
  | .text _ :: rest => (∀ m ∈ rest.head?, m.isElement = true) ∧ Regular tags names rest
  | .element tag attributes children :: rest =>
    (tag ∈ tags ∧ Distinct names (attributes.map Prod.fst) ∧ Regular tags names children) ∧
      Regular tags names rest

/-- The texts in trees, in order. -/
def texts : List Markup → List String
  | [] => []
  | .text s :: rest => s :: texts rest
  | .element _ _ children :: rest => texts children ++ texts rest

/-- The attributes in trees, in order. -/
def allAttributes : List Markup → List Attribute
  | [] => []
  | .text _ :: rest => allAttributes rest
  | .element _ attributes children :: rest =>
    attributes ++ (allAttributes children ++ allAttributes rest)

/-- The tags in trees, in order. -/
def allTags : List Markup → List String
  | [] => []
  | .text _ :: rest => allTags rest
  | .element tag _ children :: rest => tag :: (allTags children ++ allTags rest)

theorem allTags_append (ms more : List Markup) :
    allTags (ms ++ more) = allTags ms ++ allTags more := by
  induction ms with
  | nil => simp [allTags]
  | cons m ms ih =>
      cases m <;> simp [allTags, ih]

theorem allAttributes_append (ms more : List Markup) :
    allAttributes (ms ++ more) = allAttributes ms ++ allAttributes more := by
  induction ms with
  | nil => simp [allAttributes]
  | cons m ms ih =>
      cases m <;> simp [allAttributes, ih]

theorem allTags_dropBlanks (ms : List Markup) : allTags (dropBlanks ms) = allTags ms := by
  induction ms using dropBlanks.induct with
  | case1 => rw [dropBlanks]
  | case2 s rest ih =>
      rw [dropBlanks, run, allTags]
      split_ifs
      · exact ih
      · rw [List.singleton_append, allTags, ih]
  | case3 tag attributes children rest ihChildren ihRest =>
      rw [dropBlanks, allTags, allTags, ihChildren, ihRest]

theorem allAttributes_dropBlanks (ms : List Markup) :
    allAttributes (dropBlanks ms) = allAttributes ms := by
  induction ms using dropBlanks.induct with
  | case1 => rw [dropBlanks]
  | case2 s rest ih =>
      rw [dropBlanks, run, allAttributes]
      split_ifs
      · exact ih
      · rw [List.singleton_append, allAttributes, ih]
  | case3 tag attributes children rest ihChildren ihRest =>
      rw [dropBlanks, allAttributes, allAttributes, ihChildren, ihRest]

section

variable {tags names : List String}

theorem regular_append {ms more : List Markup} (first : Regular tags names ms)
    (second : Regular tags names more) (apart : ∀ m ∈ more.head?, m.isElement = true) :
    Regular tags names (ms ++ more) := by
  induction ms with
  | nil => exact second
  | cons m ms ih =>
      cases m with
      | text s =>
          rw [Regular] at first
          rw [List.cons_append, Regular]
          refine ⟨?_, ih first.2⟩
          cases ms with
          | nil => exact apart
          | cons n ms => exact first.1
      | element tag attributes children =>
          rw [Regular] at first
          rw [List.cons_append, Regular]
          exact ⟨first.1, ih first.2⟩

theorem regular_elements {ms : List Markup}
    (each : ∀ m ∈ ms, m.isElement = true ∧ Regular tags names [m]) : Regular tags names ms := by
  induction ms with
  | nil => rw [Regular]; trivial
  | cons m ms ih =>
      rw [List.forall_mem_cons] at each
      obtain ⟨⟨isElement, first⟩, others⟩ := each
      cases m with
      | text s => cases isElement
      | element tag attributes children =>
          rw [Regular] at first ⊢
          exact ⟨first.1, ih others⟩

theorem head_dropBlanks {ms : List Markup} (apart : ∀ m ∈ ms.head?, m.isElement = true) :
    ∀ m ∈ (dropBlanks ms).head?, m.isElement = true := by
  cases ms with
  | nil => simp
  | cons m ms =>
      cases m with
      | text s => cases apart _ rfl
      | element tag attributes children => simp [isElement]

/-- Trees stay regular when blank texts are left out. -/
theorem regular_dropBlanks {ms : List Markup} (regular : Regular tags names ms) :
    Regular tags names (dropBlanks ms) := by
  induction ms using dropBlanks.induct with
  | case1 => rwa [dropBlanks]
  | case2 s rest ih =>
      rw [Regular] at regular
      obtain ⟨next, others⟩ := regular
      rw [dropBlanks, run]
      split_ifs
      · exact ih others
      · rw [List.singleton_append, Regular]
        exact ⟨head_dropBlanks next, ih others⟩
  | case3 tag attributes children rest ihChildren ihRest =>
      rw [Regular] at regular
      obtain ⟨⟨known, distinct, inside⟩, others⟩ := regular
      rw [dropBlanks, Regular]
      exact ⟨⟨known, distinct, ihChildren inside⟩, ihRest others⟩

theorem mem_allTags {ms : List Markup} (regular : Regular tags names ms) :
    ∀ tag ∈ allTags ms, tag ∈ tags := by
  induction ms using allTags.induct with
  | case1 => simp [allTags]
  | case2 s rest ih =>
      rw [Regular] at regular
      rw [allTags]
      exact ih regular.2
  | case3 tag attributes children rest ihChildren ihRest =>
      rw [Regular] at regular
      obtain ⟨⟨known, _, inside⟩, others⟩ := regular
      simp only [allTags, List.forall_mem_cons, List.forall_mem_append]
      exact ⟨known, ihChildren inside, ihRest others⟩

theorem mem_allAttributes {ms : List Markup} (regular : Regular tags names ms) :
    ∀ a ∈ allAttributes ms, a.1 ∈ names := by
  induction ms using allAttributes.induct with
  | case1 => simp [allAttributes]
  | case2 s rest ih =>
      rw [Regular] at regular
      rw [allAttributes]
      exact ih regular.2
  | case3 tag attributes children rest ihChildren ihRest =>
      rw [Regular] at regular
      obtain ⟨⟨_, distinct, inside⟩, others⟩ := regular
      simp only [allAttributes, List.forall_mem_append]
      exact ⟨fun a member => distinct.2 _ (List.mem_map_of_mem member), ihChildren inside,
        ihRest others⟩

end

end Wireframe.Markup
