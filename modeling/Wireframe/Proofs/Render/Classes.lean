import Wireframe.Proofs.Document.Walk
import Wireframe.Proofs.Named
import Wireframe.Proofs.Render.Reading
import Wireframe.Proofs.Render.Vocabulary
import Wireframe.Proofs.Text.Words

/-! # Classes of elements

Which classes the elements of a rendered document carry, and which of them the selectors of
rules name. An element carries the classes of a node of the document, or one of a few classes
that stand inside such an element (`Wireframe.Render.carried_page`).
-/

namespace Wireframe.Render

open Document Markup

/-! ## Selectors and elements -/

/-- The classes that a selector names: what stands behind its points. -/
def selectorClasses (selector : String) : List String :=
  ((selector.toList.splitOnP (· == '.')).drop 1).map fun part =>
    String.ofList (part.takeWhile isIdentChar)

/-- The classes that the selectors of a rule name. -/
def Rule.classNames (rule : Rule) : List String := rule.selectors.flatMap selectorClasses

/-- The classes in an attribute, which are apart by blanks. -/
def attributeClasses : Attribute → List String
  | ("class", some value) => (Text.words value.toList).map String.ofList
  | _ => []

/-- The classes that the elements of trees carry. -/
def carried (trees : List Markup) : List String := (allAttributes trees).flatMap attributeClasses

@[simp] theorem carried_nil : carried [] = [] := by
  rw [carried, allAttributes, List.flatMap_nil]

@[simp] theorem carried_append (ms more : List Markup) :
    carried (ms ++ more) = carried ms ++ carried more := by
  rw [carried, allAttributes_append, List.flatMap_append]
  rfl

theorem carried_dropBlanks (ms : List Markup) : carried (dropBlanks ms) = carried ms := by
  rw [carried, allAttributes_dropBlanks, carried]

@[simp] theorem carried_text (s : String) (rest : List Markup) :
    carried (.text s :: rest) = carried rest := by
  rw [carried, allAttributes, carried]

@[simp] theorem carried_element (tag : String) (attributes : List Attribute)
    (children rest : List Markup) :
    carried (.element tag attributes children :: rest) =
      attributes.flatMap attributeClasses ++ (carried children ++ carried rest) := by
  simp only [carried, allAttributes, List.flatMap_append]

@[simp] theorem attributeClasses_other {name : String} (other : name ≠ "class")
    (value : Option String) : attributeClasses (name, value) = [] := by
  unfold attributeClasses
  split
  · rename_i same
    exact absurd (congrArg Prod.fst same) other
  · rfl

@[simp] theorem classes_idAttribute (id : Option String) :
    (idAttribute id).flatMap attributeClasses = [] := by
  unfold idAttribute
  split <;> simp

@[simp] theorem classes_flag {name : String} (other : name ≠ "class") (holds : Bool) :
    (flag name holds).flatMap attributeClasses = [] := by
  cases holds <;> simp [flag, other]

@[simp] theorem classes_optionalAttribute {name : String} (other : name ≠ "class")
    (value : Option String) : (optionalAttribute name value).flatMap attributeClasses = [] := by
  unfold optionalAttribute
  split <;> simp [other]

/-! ## Looks of nodes -/

/-- The words for the variants of a kind. -/
def variants : Kind → List (Option String)
  | .page | .container => Named.all.map fun (a : Layout) => some (Named.name a)
  | .text => Named.all.map fun (a : TextVariant) => some (Named.name a)
  | .button => Named.all.map fun (a : ButtonKind) => some (Named.name a)
  | .input => Named.all.map fun (a : InputType) => some (Named.name a)
  | .divider => Named.all.map fun (a : Orientation) => some (Named.name a)
  | .alert => Named.all.map fun (a : Severity) => some (Named.name a)
  | .checkbox | .radio | .select | .form => [none]

theorem mem_variants (node : Node) : node.variant? ∈ variants node.kind := by
  have listed {α : Type} [Named α] [LawfulNamed α] (a : α) :
      some (Named.name a) ∈ Named.all.map fun (a : α) => some (Named.name a) :=
    List.mem_map_of_mem (LawfulNamed.complete a)
  cases node with
  | page p => exact listed p.layout
  | component c =>
      cases c with
      | text c => exact listed c.variant
      | button c => exact listed c.kind
      | divider c => exact listed c.orientation
      | alert c => exact listed c.variant
      | form c => exact List.mem_singleton.mpr rfl
      | container id layout items => exact listed layout
      | control c =>
          cases c with
          | input c => exact listed c.type
          | checkbox c => exact List.mem_singleton.mpr rfl
          | radio c => exact List.mem_singleton.mpr rfl
          | select c => exact List.mem_singleton.mpr rfl

/-- The words that the classes of nodes are joined from are plain and have no hyphens. -/
def IsWord (word : String) : Prop := ∀ c ∈ word.toList, isNameChar c = true ∧ c ≠ '-'

-- Deciding a statement on all characters would run through all of them, not only the listed ones.
instance (word : String) : Decidable (IsWord word) :=
  decidable_of_iff (word.toList.all fun c => isNameChar c && c != '-') (by simp [IsWord])

theorem isWord_kind (kind : Kind) : IsWord (Text.lower kind.name) := by
  cases kind <;> decide +kernel

theorem isWord_variant (kind : Kind) :
    ∀ variant ∈ variants kind, ∀ word ∈ variant, IsWord word := by
  cases kind <;> decide +kernel

theorem not_blank_of_nameChar {c : Char} (plain : isNameChar c = true) :
    Text.isBlank c = false := by
  have range : 45 ≤ c.toNat ∧ c.toNat ≤ 122 := by
    simp only [isNameChar, Text.isAsciiLetter, Text.isAsciiDigit, Bool.or_eq_true,
      Bool.and_eq_true, decide_eq_true_eq, beq_iff_eq, Char.le_def, UInt32.le_iff_toNat_le] at plain
    rcases plain with (((⟨low, high⟩ | ⟨low, high⟩) | ⟨low, high⟩) | rfl) | rfl
    · exact ⟨Nat.le_trans (by decide) low, Nat.le_trans high (by decide)⟩
    · exact ⟨Nat.le_trans (by decide) low, Nat.le_trans high (by decide)⟩
    · exact ⟨Nat.le_trans (by decide) low, Nat.le_trans high (by decide)⟩
    · decide
    · decide
  simp only [Text.isBlank, Text.isWhiteSpace, Bool.or_eq_false_iff, Bool.and_eq_false_iff,
    decide_eq_false_iff_not, beq_eq_false_iff_ne]
  omega

/-- The classes of a look are words, joined by hyphens. -/
theorem plain_of_classes {kind : Kind} {variant : Option String}
    (member : variant ∈ variants kind) :
    ∀ name ∈ classes kind variant, name.toList ≠ [] ∧ ∀ c ∈ name.toList, isNameChar c = true := by
  have letters : ∀ c ∈ "textui-".toList, isNameChar c = true :=
    List.all_eq_true.mp (by decide)
  have stem : ∀ c ∈ ("textui-" ++ Text.lower kind.name).toList, isNameChar c = true := by
    intro c inside
    rw [String.toList_append] at inside
    rcases List.mem_append.mp inside with first | word
    · exact letters c first
    · exact (isWord_kind kind c word).1
  intro name named
  rcases List.mem_cons.mp named with rfl | named
  · exact ⟨by simp [String.toList_append], stem⟩
  · cases variant with
    | none => cases named
    | some word =>
        obtain rfl : name = Theme.componentClass kind.name word := List.mem_singleton.mp named
        refine ⟨by simp [Theme.componentClass, String.toList_append], fun c inside => ?_⟩
        rw [Theme.componentClass, String.toList_append, String.toList_append] at inside
        rcases List.mem_append.mp inside with first | last
        · rcases List.mem_append.mp first with first | hyphen
          · exact stem c first
          · obtain rfl : c = '-' := List.mem_singleton.mp hyphen
            decide
        · exact (isWord_variant kind (some word) member word rfl c last).1

/-- The classes of a look are read back from its attribute. -/
theorem attributeClasses_classAttribute {kind : Kind} {variant : Option String}
    (member : variant ∈ variants kind) :
    attributeClasses (classAttribute kind variant) = classes kind variant := by
  have word (name : String) (named : name ∈ classes kind variant) :
      name.toList ≠ [] ∧ ∀ c ∈ name.toList, Text.isBlank c = false := by
    obtain ⟨something, plain⟩ := plain_of_classes member name named
    exact ⟨something, fun c inside => not_blank_of_nameChar (plain c inside)⟩
  have read (value : String) : attributeClasses ("class", some value) =
      (Text.words value.toList).map String.ofList := rfl
  rw [classAttribute, read]
  cases variant with
  | none =>
      obtain ⟨something, filled⟩ := word _ List.mem_cons_self
      have alone : " ".intercalate (classes kind none) = "textui-" ++ Text.lower kind.name := rfl
      rw [alone, Text.words_of_word something filled, List.map_singleton, String.ofList_toList]
      rfl
  | some v =>
      obtain ⟨something, filled⟩ := word _ List.mem_cons_self
      obtain ⟨more, full⟩ := word _ (List.mem_cons_of_mem _ List.mem_cons_self)
      have joined : " ".intercalate (classes kind (some v)) =
          "textui-" ++ Text.lower kind.name ++ " " ++ Theme.componentClass kind.name v := rfl
      have spaced : (" " : String).toList = [' '] := rfl
      rw [joined, String.toList_append, String.toList_append, spaced, List.append_assoc,
        List.singleton_append, Text.words_spaced something filled, Text.words_of_word more full,
        List.map_cons, List.map_singleton, String.ofList_toList, String.ofList_toList]
      rfl

theorem carried_classed {kind : Kind} {variant : Option String} (member : variant ∈ variants kind)
    (tag : String) (id : Option String) (children : List Markup) :
    carried [.element tag (classAttribute kind variant :: idAttribute id) children] =
      classes kind variant ++ carried children := by
  rw [carried_element, List.flatMap_cons, attributeClasses_classAttribute member,
    classes_idAttribute, carried_nil, List.append_nil, List.append_nil]

/-- The classes that stand within the elements of a kind, besides those of further nodes. -/
def innerClasses : Kind → List String
  | .input => ["textui-control", "textui-required"]
  | .select => ["textui-control"]
  | .form => ["textui-form-fields", "textui-form-actions"]
  | _ => []

theorem attributeClasses_inner (kind : Kind) :
    ∀ name ∈ innerClasses kind, attributeClasses ("class", some name) = [name] := by
  cases kind <;> decide +kernel

/-- The classes that come with a kind and a variant. -/
def worn (kind : Kind) (variant : Option String) : List String :=
  classes kind variant ++ innerClasses kind

/-! ## Elements of nodes -/

/-- The trees carry no classes but those that come with a kind and a variant. -/
def Wears (ms : List Markup) (kind : Kind) (variant : Option String) : Prop :=
  carried ms ⊆ worn kind variant

/-- An element with the classes of a look wears it if what stands in it does. -/
theorem wears_element (before : List Attribute) {kind : Kind} {variant : Option String}
    {tag : String} {after : List Attribute} {children : List Markup}
    (member : variant ∈ variants kind) (first : before.flatMap attributeClasses = [])
    (last : after.flatMap attributeClasses = []) (inside : carried children ⊆ innerClasses kind) :
    Wears [.element tag (before ++ classAttribute kind variant :: after) children]
      kind variant := by
  rw [Wears, carried_element, carried_nil, List.append_nil, List.flatMap_append, first,
    List.flatMap_cons, last, attributeClasses_classAttribute member, List.append_nil,
    List.nil_append, worn]
  exact List.append_subset.mpr
    ⟨List.subset_append_left _ _, List.Subset.trans inside (List.subset_append_right _ _)⟩

theorem mem_carried {name : String} {ms : List Markup} :
    name ∈ carried ms ↔ ∃ m ∈ ms, name ∈ carried [m] := by
  induction ms with
  | nil => simp [carried_nil]
  | cons m ms ih =>
      rw [← List.singleton_append, carried_append, List.mem_append, ih]
      simp

theorem wears_textBlock (c : TextBlock) :
    Wears [Outline.textBlock c] .text (some (Named.name c.variant)) :=
  wears_element [] (mem_variants (.component (.text c))) rfl (by simp) (by simp)

theorem wears_button (c : Button) : Wears [Outline.button c] .button (some (Named.name c.kind)) :=
  wears_element [_] (mem_variants (.component (.button c))) (by simp) (by simp)
    (by simp)

theorem wears_divider (c : Divider) :
    Wears [Outline.divider c] .divider (some (Named.name c.orientation)) :=
  wears_element [] (mem_variants (.component (.divider c))) rfl (by simp) (by simp)

theorem wears_alert (c : Alert) :
    Wears [Outline.alert c] .alert (some (Named.name c.variant)) := by
  refine wears_element [] (mem_variants (.component (.alert c))) rfl (by simp) ?_
  have title : carried (Outline.alertTitle c.title) = [] := by
    unfold Outline.alertTitle
    split <;> simp
  simp [title]

theorem wears_checkbox (c : Checkbox) : Wears [Outline.checkbox c] .checkbox none :=
  wears_element [] (mem_variants (.component (.control (.checkbox c)))) rfl rfl
    (by simp)

theorem wears_radio (c : Radio) : Wears [Outline.radio c] .radio none := by
  refine wears_element [] (mem_variants (.component (.control (.radio c)))) rfl
    (by simp) ?_
  have choices : carried (c.options.map (Outline.radioChoice c.name)) = [] := by
    induction c.options with
    | nil => simp
    | cons choice rest ih => simpa [Outline.radioChoice] using ih
  simp [choices]

theorem wears_select (c : Select) : Wears [Outline.select c] .select none := by
  refine wears_element [] (mem_variants (.component (.control (.select c)))) rfl rfl ?_
  have first : carried (Outline.placeholderChoice c.placeholder) = [] := by
    unfold Outline.placeholderChoice
    split <;> simp
  have choices : carried (c.options.map Outline.selectChoice) = [] := by
    induction c.options with
    | nil => simp
    | cons choice rest ih => simpa [Outline.selectChoice] using ih
  have control := attributeClasses_inner .select "textui-control" (by simp [innerClasses])
  simp [first, choices, control, innerClasses]

theorem wears_input (c : Input) : Wears [Outline.input c] .input (some (Named.name c.type)) := by
  refine wears_element [] (mem_variants (.component (.control (.input c)))) rfl rfl ?_
  have control := attributeClasses_inner .input "textui-control" (by simp [innerClasses])
  have required := attributeClasses_inner .input "textui-required" (by simp [innerClasses])
  have field : carried [Outline.inputField c] = ["textui-control"] := by
    unfold Outline.inputField inputState
    split <;> simp [control]
  cases c.required <;> simp [field, required, innerClasses]

theorem wears_control (c : Control) : Wears [Outline.control c] c.kind c.variant? := by
  cases c with
  | input c => exact wears_input c
  | checkbox c => exact wears_checkbox c
  | radio c => exact wears_radio c
  | select c => exact wears_select c

/-- The classes that come with the looks of components. -/
def wornBy (cs : List Component) : List String := cs.flatMap fun c => worn c.kind c.variant?

theorem subset_of_wears {ms : List Markup} {c : Component} {rest : List Component}
    (wears : Wears ms c.kind c.variant?) : carried ms ⊆ wornBy (c :: rest) := by
  rw [wornBy, List.flatMap_cons]
  exact List.Subset.trans wears (List.subset_append_left _ _)

theorem carried_form (c : Form) :
    carried [Outline.form c] ⊆ wornBy (Component.form c).preorder := by
  have fields : carried (c.fields.map Outline.control) ⊆ wornBy (c.fields.map .control) := by
    intro name member
    obtain ⟨m, inside, carried⟩ := mem_carried.mp member
    obtain ⟨field, listed, rfl⟩ := List.mem_map.mp inside
    exact List.mem_flatMap.mpr
      ⟨.control field, List.mem_map_of_mem listed, wears_control field carried⟩
  have actions : carried (c.actions.map Outline.button) ⊆ wornBy (c.actions.map .button) := by
    intro name member
    obtain ⟨m, inside, carried⟩ := mem_carried.mp member
    obtain ⟨action, listed, rfl⟩ := List.mem_map.mp inside
    exact List.mem_flatMap.mpr
      ⟨.button action, List.mem_map_of_mem listed, wears_button action carried⟩
  have own : attributeClasses (classAttribute .form none) = classes .form none :=
    attributeClasses_classAttribute (mem_variants (.component (.form c)))
  have first := attributeClasses_inner .form "textui-form-fields" (by decide)
  have second := attributeClasses_inner .form "textui-form-actions" (by decide)
  have parts : carried [Outline.form c] =
      classes .form none ++ ("textui-form-fields" :: carried (c.fields.map Outline.control) ++
        ("textui-form-actions" :: carried (c.actions.map Outline.button))) := by
    simp [Outline.form, own, first, second]
  have whole : wornBy (Component.form c).preorder =
      classes .form none ++ innerClasses .form ++
        (wornBy (c.fields.map .control) ++ wornBy (c.actions.map .button)) := by
    rw [Component.preorder, wornBy, List.flatMap_cons, List.flatMap_append]
    rfl
  rw [parts, whole]
  intro name member
  simp only [List.mem_append, List.mem_cons] at member ⊢
  rcases member with class_ | (rfl | field) | (rfl | action)
  · exact .inl (.inl class_)
  · exact .inl (.inr (by decide))
  · exact .inr (.inl (fields field))
  · exact .inl (.inr (by decide))
  · exact .inr (.inr (actions action))

mutual

/-- The elements that a component shows carry the classes that come with it and with all that it
holds. -/
theorem carried_component (c : Component) :
    carried [Outline.component c] ⊆ wornBy c.preorder := by
  cases c with
  | text c => exact subset_of_wears (wears_textBlock c)
  | button c => exact subset_of_wears (wears_button c)
  | control c => exact subset_of_wears (wears_control c)
  | divider c => exact subset_of_wears (wears_divider c)
  | alert c => exact subset_of_wears (wears_alert c)
  | form c => exact carried_form c
  | container id layout items =>
      have own : some (Named.name layout) ∈ variants .container :=
        mem_variants (.component (.container id layout items))
      rw [Outline.component, carried_classed own, Component.preorder, wornBy, List.flatMap_cons]
      exact List.append_subset.mpr
        ⟨List.subset_append_of_subset_left _ (List.subset_append_left _ _),
          List.subset_append_of_subset_right _ (carried_components items)⟩

theorem carried_components (cs : List Component) :
    carried (Outline.components cs) ⊆ wornBy (preorderAll cs) := by
  cases cs with
  | nil => simp [Outline.components]
  | cons c rest =>
      rw [Outline.components, ← List.singleton_append, carried_append, preorderAll, wornBy,
        List.flatMap_append]
      exact List.append_subset.mpr
        ⟨List.Subset.trans (carried_component c) (List.subset_append_left _ _),
          List.Subset.trans (carried_components rest) (List.subset_append_right _ _)⟩

end

/-- **Classes in use.** The elements of a rendered document carry no classes but those that come
with its nodes. -/
theorem carried_page (d : Document) {name : String}
    (member : name ∈ carried [Outline.page d.page]) :
    ∃ look ∈ styled d, look.2 ∈ variants look.1 ∧ name ∈ worn look.1 look.2 := by
  have look (node : Node) (visited : node ∈ d.walk) (wears : name ∈ worn node.kind node.variant?) :
      ∃ look ∈ styled d, look.2 ∈ variants look.1 ∧ name ∈ worn look.1 look.2 :=
    ⟨(node.kind, node.variant?), List.mem_map_of_mem visited, mem_variants node, wears⟩
  have visited : d.walk = .page d.page :: (preorderAll d.page.items).map .component :=
    walk_eq_preorder d
  have own : some (Named.name d.page.layout) ∈ variants .page := mem_variants (.page d.page)
  rw [Outline.page, carried_classed own] at member
  rcases List.mem_append.mp member with here | inside
  · refine look (.page d.page) (visited ▸ List.mem_cons_self) ?_
    exact List.mem_append_left _ here
  · obtain ⟨c, listed, wears⟩ := List.mem_flatMap.mp (carried_components d.page.items inside)
    refine look (.component c) ?_ wears
    rw [visited]
    exact List.mem_cons_of_mem _ (List.mem_map_of_mem listed)

/-! ## Rules that name a class -/

/-- Whatever class a rule names, the rule is owned by a class of each look that the class comes
with. -/
def Rule.OwnedByLooks (rule : Rule) : Prop :=
  ∀ name ∈ rule.classNames, ∀ kind ∈ Kind.page :: Kind.components,
    ∀ variant ∈ variants kind, name ∈ worn kind variant →
      ∃ owner ∈ classes kind variant, rule.ownedBy owner = true

instance (rule : Rule) : Decidable rule.OwnedByLooks :=
  inferInstanceAs (Decidable (∀ name ∈ rule.classNames, ∀ kind ∈ Kind.page :: Kind.components,
    ∀ variant ∈ variants kind, name ∈ worn kind variant →
      ∃ owner ∈ classes kind variant, rule.ownedBy owner = true))

theorem owned_of_worn : ∀ rule ∈ structuralRules, rule.OwnedByLooks := by
  -- some rules at a time, as each takes all looks
  have first : ∀ rule ∈ structuralRules.take 8, rule.OwnedByLooks := by decide +kernel
  have second : ∀ rule ∈ (structuralRules.drop 8).take 8, rule.OwnedByLooks := by decide +kernel
  have last : ∀ rule ∈ (structuralRules.drop 8).drop 8, rule.OwnedByLooks := by decide +kernel
  intro rule member
  rw [← structuralRules.take_append_drop 8, ← (structuralRules.drop 8).take_append_drop 8] at member
  rcases List.mem_append.mp member with here | member
  · exact first rule here
  · exact (List.mem_append.mp member).elim (second rule) (last rule)

/-- The groups of a form, whose classes look like those of variants. -/
def formGroups : List (String × String) := [("form", "fields"), ("form", "actions")]

theorem toList_componentClass (kind word : String) :
    (Theme.componentClass kind word).toList =
      "textui-".toList ++ ((Text.lower kind).toList ++ '-' :: word.toList) := by
  simp [Theme.componentClass, String.toList_append]

/-- The class of a kind alone is that of no kind with a variant. -/
theorem componentClass_ne {other word : String} (stem : String) (whole : '-' ∉ stem.toList) :
    Theme.componentClass other word ≠ "textui-" ++ stem := by
  intro same
  have spelled := congrArg String.toList same
  rw [toList_componentClass, String.toList_append] at spelled
  refine whole ?_
  rw [← List.append_cancel_left spelled]
  exact List.mem_append_right _ List.mem_cons_self

/-- A class that is joined from two words without hyphens is joined in one way. -/
theorem eq_of_componentClass {other word : String} (kind variant : String)
    (whole : '-' ∉ kind.toList) (also : '-' ∉ variant.toList)
    (same : Theme.componentClass other word = "textui-" ++ kind ++ "-" ++ variant) :
    Text.lower other = kind ∧ word = variant := by
  have spelled := congrArg String.toList same
  have joined : ("textui-" ++ kind ++ "-" ++ variant).toList =
      "textui-".toList ++ (kind.toList ++ '-' :: variant.toList) := by
    simp [String.toList_append]
  rw [toList_componentClass, joined] at spelled
  obtain ⟨first, last⟩ := split_once (List.append_cancel_left spelled).symm ⟨whole, also⟩
  exact ⟨String.toList_inj.mp first, String.toList_inj.mp last⟩

/-- A class of components that comes with a look is that of its own kind and variant, or that of a
group of a form. -/
theorem look_of_worn {kind : Kind} {variant : Option String} (member : variant ∈ variants kind)
    {other word : String} (inside : Theme.componentClass other word ∈ worn kind variant) :
    (Text.lower other = Text.lower kind.name ∧ some word = variant) ∨
      (Text.lower other, word) ∈ formGroups := by
  have kindWhole : '-' ∉ (Text.lower kind.name).toList := fun hyphen =>
    (isWord_kind kind _ hyphen).2 rfl
  rcases List.mem_append.mp inside with own | inner
  · rcases List.mem_cons.mp own with same | own
    · exact absurd same (componentClass_ne _ kindWhole)
    · cases variant with
      | none => cases own
      | some v =>
          have whole : '-' ∉ v.toList := fun hyphen =>
            (isWord_variant kind (some v) member v rfl _ hyphen).2 rfl
          obtain ⟨first, last⟩ :=
            eq_of_componentClass _ _ kindWhole whole (List.mem_singleton.mp own)
          exact .inl ⟨first, congrArg some last⟩
  · refine .inr ?_
    have control : Theme.componentClass other word ≠ "textui-control" := fun same =>
      componentClass_ne "control" (by decide) (same.trans (by decide))
    have required : Theme.componentClass other word ≠ "textui-required" := fun same =>
      componentClass_ne "required" (by decide) (same.trans (by decide))
    cases kind with
    | input =>
        rcases List.mem_pair.mp inner with same | same
        · exact absurd same control
        · exact absurd same required
    | select => exact absurd (List.mem_singleton.mp inner) control
    | form =>
        rcases List.mem_pair.mp inner with same | same
        · obtain ⟨first, last⟩ := eq_of_componentClass "form" "fields" (by decide)
            (by decide) (same.trans (by decide))
          rw [first, last]
          exact List.mem_cons_self
        · obtain ⟨first, last⟩ := eq_of_componentClass "form" "actions" (by decide)
            (by decide) (same.trans (by decide))
          rw [first, last]
          exact List.mem_cons_of_mem _ List.mem_cons_self
    | _ => cases inner

end Wireframe.Render
