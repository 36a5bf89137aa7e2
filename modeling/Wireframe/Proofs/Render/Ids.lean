import Mathlib.Data.List.Perm.Basic
import Wireframe.Proofs.Document.Identity
import Wireframe.Proofs.Markup.Elements

/-! # Ids of elements

The element of a component carries the id of the component, unless it is empty. In an input, a
checkbox and a select the field carries it, so that the label finds the field, and a field
without an id goes by the name that its value is sent under. Names may recur in a document,
and an id may look like one that stems from a name. Apart from that the ids of a page are
different, and each label leads to the one field beside it
(`Wireframe.Render.ids_of_page`).
-/

namespace Wireframe.Render

open Document Markup

/-! ## Which ids there are -/

/-- The id that a node has, unless it is empty. -/
def ownId? (node : Node) : Option String := node.id?.filter (· != "")

/-- The name of a control that has one field, which a label leads to. -/
def fieldName? : Control → Option String
  | .input c => some c.name
  | .checkbox c => some c.name
  | .select c => some c.name
  | .radio _ => none

/-- The name by which the field in a node goes because the node has no id. -/
def nameForId? (node : Node) : Option String :=
  match node with
  | .component (.control c) => if (ownId? node).isNone then fieldName? c else none
  | _ => none

/-- The id that stems from a name. -/
def idOfName (name : String) : String := "textui-" ++ name

/-- The id that an element of a node carries: that of the node, or one that stems from a name. -/
def shownId? (node : Node) : Option String := (ownId? node).or ((nameForId? node).map idOfName)

/-- The ids that the nodes of a document have, apart from empty ones. -/
def ownIds (d : Document) : List String := d.walk.filterMap ownId?

/-- The names that stand for ids in a document. -/
def namesForIds (d : Document) : List String := d.walk.filterMap nameForId?

theorem nameForId?_of_ownId? {node : Node} {id : String} (own : ownId? node = some id) :
    nameForId? node = none := by
  unfold nameForId?
  split
  · rw [own]
    rfl
  · rfl

theorem idOfName_injective : Function.Injective idOfName := by
  intro name other same
  rw [idOfName, idOfName, ← String.toList_inj, String.toList_append, String.toList_append] at same
  exact String.toList_inj.mp (List.append_cancel_left same)

/-- The ids of some nodes are their own ones and, among them, those that stem from names. -/
theorem shownId?_perm (nodes : List Node) :
    (nodes.filterMap shownId?).Perm
      (nodes.filterMap ownId? ++ (nodes.filterMap nameForId?).map idOfName) := by
  induction nodes with
  | nil => exact .nil
  | cons node nodes ih =>
      cases own : ownId? node with
      | some id =>
          rw [List.filterMap_cons_some (b := id) (by rw [shownId?, own]; rfl),
            List.filterMap_cons_some own, List.filterMap_cons_none (nameForId?_of_ownId? own)]
          exact ih.cons id
      | none =>
          rw [List.filterMap_cons_none own]
          cases named : nameForId? node with
          | none =>
              rw [List.filterMap_cons_none (by rw [shownId?, own, named]; rfl),
                List.filterMap_cons_none named]
              exact ih
          | some name =>
              rw [List.filterMap_cons_some (b := idOfName name)
                (by rw [shownId?, own, named]; rfl), List.filterMap_cons_some named, List.map_cons]
              exact (ih.cons _).trans List.perm_middle.symm

/-- The ids that a document shows are different if its own ids are, the names that stand for ids
are, and no own id stems from such a name. -/
theorem nodup_shownIds (d : Document) :
    (d.walk.filterMap shownId?).Nodup ↔
      (ownIds d).Nodup ∧ (namesForIds d).Nodup ∧
        ∀ name ∈ namesForIds d, idOfName name ∉ ownIds d := by
  have apart : (ownIds d).Disjoint ((namesForIds d).map idOfName) ↔
      ∀ name ∈ namesForIds d, idOfName name ∉ ownIds d := by
    rw [List.disjoint_comm, List.disjoint_left, List.forall_mem_map]
  rw [(shownId?_perm d.walk).nodup_iff, List.nodup_append', ← apart]
  exact and_congr_right' (and_congr_left' (List.nodup_map_iff idOfName_injective))

/-! ## Elements of nodes -/

@[simp] theorem lookup_idAttribute (id : Option String) :
    (idAttribute id).lookup "id" = (id.filter (· != "")).map some := by
  unfold idAttribute
  cases id.filter (· != "") <;> simp

@[simp] theorem lookup_idAttribute_for (id : Option String) :
    (idAttribute id).lookup "for" = none := by
  unfold idAttribute
  cases id.filter (· != "") <;> simp

@[simp] theorem lookup_optionalAttribute {name other : String} (differs : name ≠ other)
    (value : Option String) : (optionalAttribute other value).lookup name = none := by
  unfold optionalAttribute
  cases value.filter (· != "") <;> simp [differs]

@[simp] theorem lookup_flag {name other : String} (differs : name ≠ other) (holds : Bool) :
    (flag other holds).lookup name = none := by
  cases holds <;> simp [flag, differs]

@[simp] theorem lookup_other {name other : String} (differs : name ≠ other)
    (value : Option String) (rest : List Attribute) :
    ((other, value) :: rest).lookup name = rest.lookup name := by
  rw [List.lookup_cons, beq_false_of_ne differs]

@[simp] theorem lookup_classAttribute {name : String} (differs : name ≠ "class") (kind : Kind)
    (variant : Option String) (rest : List Attribute) :
    (classAttribute kind variant :: rest).lookup name = rest.lookup name :=
  lookup_other differs _ rest

@[simp] theorem join_map_some (id : Option String) : (id.map some).join = id := by
  cases id <;> rfl

/-- The element of a node gives an attribute the value that the node has by some function, and the
elements below it give none, apart from those of the components that the node holds. -/
structure Gives (name : String) (given : Node → Option String) : Prop where
  differs : name ≠ "class"
  leaf : ∀ c : Component, c.isContainer = false →
    values name [Outline.component c] = (given (.component c)).toList
  form : ∀ c : Form, ((idAttribute (some c.id)).lookup name).join = given (.component (.form c))
  container : ∀ id layout items,
    ((idAttribute id).lookup name).join = given (.component (.container id layout items))
  page : ∀ p : Page, ((idAttribute p.id).lookup name).join = given (.page p)

namespace Gives

variable {name : String} {given : Node → Option String}

section

variable (gives : Gives name given)

include gives

/-- The element of a node gives the value of the node before those of the nodes below. -/
theorem around {tag : String} {kind : Kind} {variant : Option String} {rest : List Attribute}
    {inside : List Markup} {node : Node} {below : List Node}
    (own : (rest.lookup name).join = given node)
    (held : values name inside = below.filterMap given) :
    values name [.element tag (classAttribute kind variant :: rest) inside] =
      (node :: below).filterMap given := by
  rw [values_element, lookup_classAttribute gives.differs, own, held, values_nil, List.append_nil,
    List.filterMap_cons]
  cases given node <;> rfl

theorem ofLeaf {c : Component} (leaf : c.isContainer = false) (alone : c.preorder = [c]) :
    values name [Outline.component c] = (c.preorder.map Node.component).filterMap given := by
  rw [alone, gives.leaf c leaf, List.map_singleton, List.filterMap_cons]
  cases given (.component c) <;> rfl

theorem ofForm (c : Form) :
    values name [Outline.form c] =
      ((Component.form c).preorder.map Node.component).filterMap given := by
  have fields : values name (c.fields.map Outline.control) =
      (c.fields.map fun field => Node.component (.control field)).filterMap given := by
    rw [values_map name Outline.control (fun field => given (.component (.control field)))
      fun field _ => gives.leaf (.control field) rfl, List.filterMap_map]
    rfl
  have actions : values name (c.actions.map Outline.button) =
      (c.actions.map fun action => Node.component (.button action)).filterMap given := by
    rw [values_map name Outline.button (fun action => given (.component (.button action)))
      fun action _ => gives.leaf (.button action) rfl, List.filterMap_map]
    rfl
  rw [Component.preorder, List.map_cons, Outline.form]
  refine gives.around (gives.form c) ?_
  simp [gives.differs, fields, actions]

end

mutual

/-- The elements of a component and of all that it holds give the values of the nodes. -/
theorem ofComponent (gives : Gives name given) (c : Component) :
    values name [Outline.component c] = (c.preorder.map Node.component).filterMap given := by
  cases c with
  | form c => exact gives.ofForm c
  | container id layout items =>
      rw [Component.preorder, List.map_cons, Outline.component]
      exact gives.around (gives.container id layout items) (gives.ofComponents items)
  | _ => exact gives.ofLeaf rfl rfl

theorem ofComponents (gives : Gives name given) (cs : List Component) :
    values name (Outline.components cs) =
      ((preorderAll cs).map Node.component).filterMap given := by
  cases cs with
  | nil => simp [Outline.components, preorderAll]
  | cons c rest =>
      rw [Outline.components, values_cons, gives.ofComponent c, gives.ofComponents rest,
        preorderAll, List.map_append, List.filterMap_append]

end

/-- The page that is read gives the values of all nodes, in the order of the walk. -/
theorem ofPage (gives : Gives name given) (d : Document) :
    values name (dropBlanks [Outline.page d.page]) = d.walk.filterMap given := by
  rw [values_dropBlanks, walk_eq_preorder, Node.preorder, Outline.page]
  exact gives.around (gives.page d.page) (gives.ofComponents d.page.items)

end Gives

/-! ## Parts without values -/

section

variable {name : String}

/-- Elements for choices give nothing if each of them does not. -/
theorem values_choices {element : Choice → Markup}
    (without : ∀ choice, values name [element choice] = []) (options : List Choice) :
    values name (options.map element) = [] := by
  rw [values_map name element (fun _ => none) fun choice _ => without choice]
  simp

theorem values_alertTitle (title : Option String) :
    values name (Outline.alertTitle title) = [] := by
  unfold Outline.alertTitle
  cases title.filter (· != "") <;> simp

theorem values_placeholderChoice (placeholder : Option String)
    (differs : name ≠ "value" ∧ name ≠ "disabled" ∧ name ≠ "selected") :
    values name (Outline.placeholderChoice placeholder) = [] := by
  unfold Outline.placeholderChoice
  cases placeholder.filter (· != "") <;> simp [differs]

theorem values_selectChoices (options : List Choice) (differs : name ≠ "value") :
    values name (options.map Outline.selectChoice) = [] :=
  values_choices (fun choice => by simp [Outline.selectChoice, differs]) options

theorem values_radioChoices (group : String) (options : List Choice)
    (differs : name ≠ "type" ∧ name ≠ "name" ∧ name ≠ "value") :
    values name (options.map (Outline.radioChoice group)) = [] :=
  values_choices (fun choice => by simp [Outline.radioChoice, differs]) options

end

/-! ## Ids of nodes -/

/-- A node without a field shows the id that it has. -/
theorem shownId?_of_plain {node : Node} (plain : nameForId? node = none) :
    shownId? node = node.id?.filter (· != "") := by
  rw [shownId?, plain, Option.map_none, Option.or_none, ownId?]

/-- A field goes by its id, or by its name. -/
theorem shownId?_of_field {c : Control} {name : String} (named : fieldName? c = some name) :
    shownId? (.component (.control c)) = some (fieldId c.id? name) := by
  simp only [shownId?, nameForId?, fieldId, ownId?, named, Node.id?, Component.id?]
  cases c.id?.filter (· != "") <;> rfl

theorem ids_inputField (c : Input) :
    values "id" [Outline.inputField c] = [fieldId c.id c.name] := by
  unfold Outline.inputField
  split <;> simp [inputState]

theorem ids_control (c : Control) :
    values "id" [Outline.control c] = (shownId? (.component (.control c))).toList := by
  cases c with
  | input c =>
      rw [shownId?_of_field (c := .input c) rfl, Outline.control, Outline.input, values_element,
        values_cons, values_cons, ids_inputField]
      cases c.required <;> simp [Control.id?]
  | checkbox c =>
      rw [shownId?_of_field (c := .checkbox c) rfl, Outline.control, Outline.checkbox]
      simp [Control.id?]
  | radio c =>
      rw [shownId?_of_plain (by simp [nameForId?, fieldName?]), Outline.control, Outline.radio]
      simp [List.lookup_append, values_radioChoices, Node.id?, Component.id?, Control.id?]
  | select c =>
      rw [shownId?_of_field (c := .select c) rfl, Outline.control, Outline.select]
      simp [Control.id?, values_selectChoices, values_placeholderChoice]

/-- The elements give the ids that the nodes show. -/
theorem gives_ids : Gives "id" shownId? where
  differs := by decide
  leaf := by
    intro c leaf
    cases c with
    | text c =>
        rw [shownId?_of_plain rfl, Outline.component, Outline.textBlock]
        simp [Node.id?, Component.id?]
    | button c =>
        rw [shownId?_of_plain rfl, Outline.component, Outline.button]
        simp [List.lookup_append, Node.id?, Component.id?]
    | control c => exact ids_control c
    | divider c =>
        rw [shownId?_of_plain rfl, Outline.component, Outline.divider]
        simp [List.lookup_append, Node.id?, Component.id?]
    | alert c =>
        rw [shownId?_of_plain rfl, Outline.component, Outline.alert]
        simp [List.lookup_append, values_alertTitle, Node.id?, Component.id?]
    | form c => cases leaf
    | container id layout items => cases leaf
  form := by
    intro c
    rw [lookup_idAttribute, join_map_some, shownId?_of_plain rfl]
    rfl
  container := by
    intro id layout items
    rw [lookup_idAttribute, join_map_some, shownId?_of_plain rfl]
    rfl
  page := by
    intro p
    rw [lookup_idAttribute, join_map_some, shownId?_of_plain rfl]
    rfl

/-! ## Labels -/

/-- The id that the label of a node leads to, if it has a label. -/
def labelFor? : Node → Option String
  | .component (.control c) => (fieldName? c).map (fieldId c.id?)
  | _ => none

theorem leadless_inputField (c : Input) : values "for" [Outline.inputField c] = [] := by
  unfold Outline.inputField
  split <;> simp [inputState, List.lookup_append]

theorem leads_control (c : Control) :
    values "for" [Outline.control c] = (labelFor? (.component (.control c))).toList := by
  cases c with
  | input c =>
      rw [Outline.control, Outline.input, values_element, values_cons, values_cons,
        leadless_inputField]
      cases c.required <;> simp [labelFor?, fieldName?, Control.id?]
  | checkbox c =>
      simp [Outline.control, Outline.checkbox, labelFor?, fieldName?, Control.id?,
        List.lookup_append]
  | radio c =>
      simp [Outline.control, Outline.radio, labelFor?, fieldName?, values_radioChoices,
        List.lookup_append]
  | select c =>
      simp [Outline.control, Outline.select, labelFor?, fieldName?, Control.id?,
        values_selectChoices, values_placeholderChoice, List.lookup_append]

/-- The elements lead to the ids that the labels of the nodes lead to. -/
theorem gives_labels : Gives "for" labelFor? where
  differs := by decide
  leaf := by
    intro c leaf
    cases c with
    | text c => simp [Outline.component, Outline.textBlock, labelFor?]
    | button c => simp [Outline.component, Outline.button, labelFor?, List.lookup_append]
    | control c => exact leads_control c
    | divider c => simp [Outline.component, Outline.divider, labelFor?, List.lookup_append]
    | alert c =>
        simp [Outline.component, Outline.alert, labelFor?, values_alertTitle, List.lookup_append]
    | form c => cases leaf
    | container id layout items => cases leaf
  form := by simp [labelFor?]
  container := by simp [labelFor?]
  page := by simp [labelFor?]

/-- A field has the id that its label leads to. -/
theorem shownId?_of_labelFor? {node : Node} {v : String} (leads : labelFor? node = some v) :
    shownId? node = some v := by
  cases node with
  | page p => cases leads
  | component c =>
      cases c with
      | control c =>
          obtain ⟨name, named, rfl⟩ := Option.map_eq_some_iff.mp leads
          exact shownId?_of_field named
      | _ => cases leads

/-! ## Where a label leads -/

/-- The tags of fields. -/
def fieldTags : List String := ["input", "textarea", "select"]

/-- A field of an id. -/
def IsField (m : Markup) (v : String) : Prop :=
  (∃ tag ∈ fieldTags, m.tag? = some tag) ∧ m.value? "id" = some v

/-- In some trees a label leads to an id: a field there has the id, which no other element there
has. -/
structure Leads (ms : List Markup) (label : Markup) (v : String) : Prop where
  member : label ∈ elements ms
  tag : label.tag? = some "label"
  field : ∃ field ∈ elements ms, IsField field v
  sole : values "id" ms = [v]

theorem isField_withoutBlanks {m : Markup} {v : String} :
    IsField m.withoutBlanks v ↔ IsField m v := by
  rw [IsField, tag?_withoutBlanks, value?_withoutBlanks, IsField]

theorem Leads.dropBlanks {ms : List Markup} {label : Markup} {v : String}
    (leads : Leads ms label v) : Leads (dropBlanks ms) label.withoutBlanks v := by
  obtain ⟨field, inside, isField⟩ := leads.field
  refine ⟨?_, ?_, ⟨field.withoutBlanks, ?_, isField_withoutBlanks.mpr isField⟩, ?_⟩
  · rw [elements_dropBlanks]
    exact List.mem_map_of_mem leads.member
  · rw [tag?_withoutBlanks, leads.tag]
  · rw [elements_dropBlanks]
    exact List.mem_map_of_mem inside
  · rw [values_dropBlanks, leads.sole]

theorem isField_inputField (c : Input) : IsField (Outline.inputField c) (fieldId c.id c.name) := by
  unfold Outline.inputField
  split <;> simp [IsField, tag?, value?, fieldTags, inputState]

theorem inputField_mem (c : Input) : Outline.inputField c ∈ elements [Outline.inputField c] := by
  unfold Outline.inputField
  split <;> exact mem_elements_self _ _ _ _

/-- The element of a control with a label holds its field. -/
theorem field_of_control {c : Control} {name : String} (named : fieldName? c = some name) :
    ∃ field ∈ elements [Outline.control c], IsField field (fieldId c.id? name) := by
  cases c with
  | input c =>
      cases named
      refine ⟨Outline.inputField c, ?_, isField_inputField c⟩
      exact mem_elements_inside (mem_elements_behind (inputField_mem c) _) _ _ _
  | checkbox c =>
      cases named
      exact ⟨_, mem_elements_inside (mem_elements_inside (mem_elements_self _ _ _ _) _ _ _) _ _ _,
        by simp [IsField, tag?, value?, fieldTags, Control.id?]⟩
  | radio c => cases named
  | select c =>
      cases named
      exact ⟨_, mem_elements_inside (mem_elements_behind (mem_elements_self _ _ _ _) _) _ _ _,
        by simp [IsField, tag?, value?, fieldTags, Control.id?]⟩

section

variable {label : Markup} {v : String} (leads : label.value? "for" = some v)

include leads

theorem not_mem_of_leadless {ms : List Markup} (leadless : values "for" ms = []) :
    label ∉ elements ms := by
  intro member
  have listed := mem_values "for" member leads
  rw [leadless] at listed
  cases listed

/-- What leads somewhere in an element that leads nowhere is one of the elements in it. -/
theorem lead_inside {tag : String} {attributes : List Attribute} {inside : List Markup}
    (member : label ∈ elements [.element tag attributes inside])
    (plain : (attributes.lookup "for").join = none) : label ∈ elements inside := by
  rw [elements, elements_nil, List.append_nil] at member
  rcases List.mem_cons.mp member with rfl | member
  · cases plain.symm.trans leads
  · exact member

/-- An element before others is all that leads somewhere, if nothing in it or behind it does. -/
theorem tag_of_lead {tag : String} {attributes : List Attribute} {inside rest : List Markup}
    (member : label ∈ elements (.element tag attributes inside :: rest))
    (leadless : values "for" inside = []) (behind : values "for" rest = []) :
    label.tag? = some tag := by
  rw [elements] at member
  rcases List.mem_cons.mp member with rfl | member
  · rfl
  · rcases List.mem_append.mp member with member | member
    · cases not_mem_of_leadless leads leadless member
    · cases not_mem_of_leadless leads behind member

theorem tag_of_control {c : Control} (member : label ∈ elements [Outline.control c]) :
    label.tag? = some "label" := by
  cases c with
  | input c =>
      refine tag_of_lead leads (lead_inside leads member rfl) ?_ (leadless_inputField c)
      cases c.required <;> simp
  | checkbox c =>
      exact tag_of_lead leads (lead_inside leads member rfl) (by simp [List.lookup_append])
        (values_nil "for")
  | radio c => cases not_mem_of_leadless leads (leads_control (.radio c)) member
  | select c =>
      refine tag_of_lead leads (lead_inside leads member rfl) (by simp) ?_
      simp [List.lookup_append, values_selectChoices, values_placeholderChoice]

/-- Whatever leads somewhere in the element of a control is its label, which leads to its field. -/
theorem leads_of_control {c : Control} (member : label ∈ elements [Outline.control c]) :
    Leads [Outline.control c] label v := by
  have listed : labelFor? (.component (.control c)) = some v := by
    have given := mem_values "for" member leads
    rw [leads_control] at given
    exact Option.mem_toList.mp given
  obtain ⟨name, named, rfl⟩ := Option.map_eq_some_iff.mp listed
  refine ⟨member, tag_of_control leads member, field_of_control named, ?_⟩
  rw [ids_control, shownId?_of_labelFor? listed]
  rfl

end

/-- A control among some components shows in some trees that a label leads to its field. -/
def Labelled (ms : List Markup) (cs : List Component) (label : Markup) (v : String) : Prop :=
  ∃ c, .control c ∈ cs ∧ Outline.control c ∈ elements ms ∧ Leads [Outline.control c] label v

theorem Labelled.inside {ms : List Markup} {cs : List Component} {label : Markup} {v : String}
    (labelled : Labelled ms cs label v) (tag : String) (attributes : List Attribute)
    (rest : List Markup) : Labelled (.element tag attributes ms :: rest) cs label v := by
  obtain ⟨c, member, shown, leads⟩ := labelled
  exact ⟨c, member, mem_elements_inside shown tag attributes rest, leads⟩

theorem Labelled.mono {ms more : List Markup} {cs among : List Component} {label : Markup}
    {v : String} (labelled : Labelled ms cs label v) (trees : elements ms ⊆ elements more)
    (held : cs ⊆ among) : Labelled more among label v := by
  obtain ⟨c, member, shown, leads⟩ := labelled
  exact ⟨c, held member, trees shown, leads⟩

theorem control_mem (c : Control) : Outline.control c ∈ elements [Outline.control c] := by
  cases c <;> exact mem_elements_self _ _ _ _

section

variable {label : Markup} {v : String} (leads : label.value? "for" = some v)

include leads

theorem labelled_control {c : Control} (member : label ∈ elements [Outline.control c]) :
    Labelled [Outline.control c] [.control c] label v :=
  ⟨c, List.mem_singleton_self _, control_mem c, leads_of_control leads member⟩

theorem labelled_fields {fields : List Control}
    (member : label ∈ elements (fields.map Outline.control)) :
    Labelled (fields.map Outline.control) (fields.map .control) label v := by
  obtain ⟨root, shown, inside⟩ := mem_elements.mp member
  obtain ⟨c, field, rfl⟩ := List.mem_map.mp shown
  refine (labelled_control leads inside).mono ?_ ?_
  · exact fun m among => mem_elements.mpr ⟨_, shown, among⟩
  · exact List.cons_subset.mpr ⟨List.mem_map_of_mem field, List.nil_subset _⟩

theorem labelled_form {c : Form} (member : label ∈ elements [Outline.form c]) :
    Labelled [Outline.form c] (Component.form c).preorder label v := by
  have leadless : values "for" (c.actions.map Outline.button) = [] := by
    rw [values_map "for" Outline.button (fun _ => none)
      fun action _ => gives_labels.leaf (.button action) rfl]
    simp
  have parts := lead_inside leads member (by simp)
  rw [elements_cons] at parts
  rcases List.mem_append.mp parts with fields | actions
  · have labelled := labelled_fields leads (lead_inside leads fields rfl)
    refine ((labelled.inside _ _ _).inside _ _ _).mono (List.Subset.refl _) ?_
    exact fun held field => List.mem_cons_of_mem _ (List.mem_append_left _ field)
  · cases not_mem_of_leadless leads leadless (lead_inside leads actions rfl)

end

mutual

/-- Whatever leads somewhere in the element of a component is the label of a control in it. -/
theorem labelled_component {label : Markup} {v : String} (leads : label.value? "for" = some v)
    (c : Component) (member : label ∈ elements [Outline.component c]) :
    Labelled [Outline.component c] c.preorder label v := by
  cases c with
  | control c => exact labelled_control leads member
  | form c => exact labelled_form leads member
  | container id layout items =>
      have inside := lead_inside leads member (by simp)
      have labelled := labelled_components leads items inside
      exact (labelled.inside _ _ _).mono (List.Subset.refl _) (List.subset_cons_self _ _)
  | _ => cases not_mem_of_leadless leads (gives_labels.leaf _ rfl) member

theorem labelled_components {label : Markup} {v : String} (leads : label.value? "for" = some v)
    (cs : List Component) (member : label ∈ elements (Outline.components cs)) :
    Labelled (Outline.components cs) (preorderAll cs) label v := by
  cases cs with
  | nil => simp [Outline.components] at member
  | cons c rest =>
      rw [Outline.components, elements_cons] at member
      rw [Outline.components, preorderAll]
      rcases List.mem_append.mp member with first | behind
      · refine (labelled_component leads c first).mono ?_ (List.subset_append_left _ _)
        rw [elements_cons (Outline.component c) (Outline.components rest)]
        exact List.subset_append_left _ _
      · refine (labelled_components leads rest behind).mono ?_ (List.subset_append_right _ _)
        rw [elements_cons (Outline.component c) (Outline.components rest)]
        exact List.subset_append_right _ _

end

/-! ## Pages -/

theorem dropBlanks_control (c : Control) :
    dropBlanks [Outline.control c] = [(Outline.control c).withoutBlanks] := by
  have alone (tag : String) (attributes : List Attribute) (inside : List Markup) :
      dropBlanks [.element tag attributes inside] =
        [(Markup.element tag attributes inside).withoutBlanks] := by
    rw [Markup.dropBlanks, Markup.dropBlanks, withoutBlanks]
  cases c <;> exact alone _ _ _

/-- Whatever leads somewhere in the page that is read leads to the field of the same control. -/
theorem leads_page {d : Document} {label : Markup} {v : String}
    (member : label ∈ elements (dropBlanks [Outline.page d.page]))
    (leads : label.value? "for" = some v) :
    ∃ c, .component (.control c) ∈ d.walk ∧
      (Outline.control c).withoutBlanks ∈ elements (dropBlanks [Outline.page d.page]) ∧
      Leads [(Outline.control c).withoutBlanks] label v := by
  rw [elements_dropBlanks] at member ⊢
  obtain ⟨shown, inside, rfl⟩ := List.mem_map.mp member
  rw [value?_withoutBlanks] at leads
  have below := lead_inside leads inside (by simp)
  obtain ⟨c, held, root, field⟩ := labelled_components leads d.page.items below
  refine ⟨c, ?_, List.mem_map_of_mem (mem_elements_inside root _ _ _), ?_⟩
  · rw [walk_eq_preorder, Node.preorder]
    exact List.mem_cons_of_mem _ (List.mem_map_of_mem held)
  · rw [← dropBlanks_control]
    exact field.dropBlanks

theorem ownIds_sublist (d : Document) : (ownIds d).Sublist (d.walk.filterMap Node.id?) := by
  have filtered : ownIds d = (d.walk.filterMap Node.id?).filter (· != "") :=
    (List.filter_filterMap ..).symm
  rw [filtered]
  exact List.filter_sublist

/-- **Ids on a page.** The elements of a page that is rendered and read again give the ids that the
nodes show, in order. They are different exactly if the own ids of the nodes are, the names that
stand for ids are, and no own id stems from such a name; and the own ids are different if they hold
no halves of surrogate pairs and all entries give theirs as bytes, or none does. There is one label
for each field, in order, and it leads to the field beside it in the element of the same control,
which gives no id but that one. So it leads to one element of the page, if the ids are different. -/
theorem ids_of_page {source : Source} {d : Document} (parsed : ofSource source = .ok d)
    (theme : Theme.Resolved) :
    ∃ listed nodes, source.Lists listed ∧ Markup.read (fragment d theme).markup = .ok nodes ∧
      values "id" nodes = d.walk.filterMap shownId? ∧
      ((values "id" nodes).Nodup ↔
        (ownIds d).Nodup ∧ (namesForIds d).Nodup ∧
          ∀ name ∈ namesForIds d, idOfName name ∉ ownIds d) ∧
      ((∀ i v, GivesAt listed i v → v.isHalved = false) →
        (∀ i j v w, GivesAt listed i v → GivesAt listed j w → v.isBytes = w.isBytes) →
        (ownIds d).Nodup) ∧
      values "for" nodes = d.walk.filterMap labelFor? ∧
      ∀ label v, label ∈ elements nodes → label.value? "for" = some v →
        (∃ c, .component (.control c) ∈ d.walk ∧
          (Outline.control c).withoutBlanks ∈ elements nodes ∧
          Leads [(Outline.control c).withoutBlanks] label v) ∧
        ((values "id" nodes).Nodup → (values "id" nodes).count v = 1) := by
  obtain ⟨w, value, read⟩ := value?_of_ofSource parsed
  obtain ⟨entries, body, done, rfl, page, built, same⟩ := built_of_ofValue read
  have stand : List.Forall₂ Stands (outline .page body) d.walk := by
    rw [walk_eq_preorder, Node.preorder, same]
    exact yields_buildPage body [] done built
  refine ⟨outline .page body, dropBlanks [Outline.page d.page], ⟨entries, body, value, page, rfl⟩,
    read_page d.page, gives_ids.ofPage d, ?_, ?_, gives_labels.ofPage d, ?_⟩
  · rw [gives_ids.ofPage, nodup_shownIds]
  · intro plain alike
    exact (nodup_ids stand (nodup_of_built built) plain alike).sublist (ownIds_sublist d)
  · intro label v member leads
    obtain ⟨c, held, root, field⟩ := leads_page member leads
    obtain ⟨shown, inside, _, given⟩ := field.field
    refine ⟨⟨c, held, root, field⟩, fun distinct => ?_⟩
    exact List.count_eq_one_of_mem distinct (mem_values "id" (elements_subset root inside) given)

/-- A document that shows some ids and leads to some is what the source holds. -/
theorem exists_of_shown {source : Source} {shown leads : List String}
    (same : (ofSource source).toOption.map (fun d =>
      (d.walk.filterMap shownId?, d.walk.filterMap labelFor?)) = some (shown, leads)) :
    ∃ d, ofSource source = .ok d ∧ d.walk.filterMap shownId? = shown ∧
      d.walk.filterMap labelFor? = leads := by
  obtain ⟨d, parsed, values⟩ := Option.map_eq_some_iff.mp same
  cases read : ofSource source with
  | error fault =>
      rw [read] at parsed
      cases parsed
  | ok document =>
      rw [read] at parsed
      cases parsed
      exact ⟨d, rfl, congrArg Prod.fst values, congrArg Prod.snd values⟩

/-- An input with an id, and a checkbox that goes by its name. -/
theorem ids_of_labelled_page :
    let source := .text ("page: \x7bcomponents: [Input: \x7bid: a, label: x, name: x\x7d, " ++
      "Checkbox: \x7blabel: y, name: y\x7d]\x7d")
    ∃ d nodes, ofSource source = .ok d ∧
      Markup.read (fragment d ⟨[], [], [], false⟩).markup = .ok nodes ∧
      values "id" nodes = ["a", "textui-y"] ∧ (values "id" nodes).Nodup ∧
      values "for" nodes = ["a", "textui-y"] := by
  intro source
  have ids : (ofSource source).toOption.map (fun d =>
      (d.walk.filterMap shownId?, d.walk.filterMap labelFor?)) =
        some (["a", "textui-y"], ["a", "textui-y"]) := by
    decide +kernel
  obtain ⟨d, parsed, shown, leads⟩ := exists_of_shown ids
  obtain ⟨_, nodes, _, read, given, _, _, labels, _⟩ := ids_of_page parsed ⟨[], [], [], false⟩
  rw [shown] at given
  rw [leads] at labels
  refine ⟨d, nodes, parsed, read, given, ?_, labels⟩
  rw [given]
  decide

/-- **Two fields of one name.** They are sent under the same name, and neither has an id. Both
labels lead to the same id, which both fields have. -/
theorem ids_recur :
    let source := .text ("page: \x7bcomponents: [Input: \x7blabel: a, name: x\x7d, " ++
      "Input: \x7blabel: b, name: x\x7d]\x7d")
    ∃ d nodes, ofSource source = .ok d ∧
      Markup.read (fragment d ⟨[], [], [], false⟩).markup = .ok nodes ∧
      values "for" nodes = ["textui-x", "textui-x"] ∧ ¬ (values "id" nodes).Nodup ∧
      (values "id" nodes).count "textui-x" = 2 := by
  intro source
  have ids : (ofSource source).toOption.map (fun d =>
      (d.walk.filterMap shownId?, d.walk.filterMap labelFor?)) =
        some (["textui-x", "textui-x"], ["textui-x", "textui-x"]) := by
    decide +kernel
  obtain ⟨d, parsed, shown, leads⟩ := exists_of_shown ids
  have given := (gives_ids.ofPage d).trans shown
  refine ⟨d, _, parsed, read_page d.page, (gives_labels.ofPage d).trans leads, ?_, ?_⟩
  · rw [given]
    decide
  · rw [given]
    decide

end Wireframe.Render
