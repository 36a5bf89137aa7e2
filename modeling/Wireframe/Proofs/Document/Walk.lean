import Mathlib.Algebra.Order.Group.Nat
import Wireframe.Document.Walk
import Wireframe.Proofs.Document.Acceptance
import Wireframe.Proofs.Document.Content

/-! # Every entry becomes one node

The entries of a source form a tree: below an entry stand the entries of the lists in its
body, for a form those of its fields before those of its actions. Building a document
turns each entry into one node in the same place, so the walk through the document meets
the nodes in the order of the entries (`Wireframe.Document.walk_of_source`).

The walk works off a stack. Whatever components are on the stack, the rest of the walk is
the preorder of them all, so the walk is the preorder of the tree.
-/

namespace Wireframe

namespace Document

open Contract (Place)

open Content

/-! ## The entries of a source -/

theorem outlineAll_cons {v : Value} {kind : Kind} {body : Fields} (rest : List Value)
    (opened : entryOf? v = some (kind, body)) :
    outlineAll (v :: rest) = outline kind body ++ outlineAll rest := by
  rw [outlineAll]
  split
  · rename_i found
    obtain ⟨rfl, rfl⟩ := Prod.mk.inj (Option.some.inj (opened.symm.trans found))
    rfl
  · rename_i missing
    cases opened.symm.trans missing

theorem outline_leaf {kind : Kind} (leaf : Contract.lists kind = []) (body : Fields) :
    outline kind body = [(kind, body)] := by
  cases kind with
  | page | container | form => simp [Contract.lists] at leaf
  | _ =>
      rw [outline]
      all_goals rintro ⟨⟩

/-- An entry is what building opens, wherever it stands. -/
theorem entryOf?_of_openEntry {slot : Slot} {path : Path} {v : Value} {entry : Kind × Fields}
    (opened : openEntry slot path v = .ok entry) : entryOf? v = some entry := by
  unfold openEntry at opened
  split at opened
  · rename_i key held
    split at opened
    · split at opened <;> cases opened
    · rename_i kind named
      split at opened
      · cases opened
      · split at opened
        · cases opened
          rw [entryOf?, named]
          rfl
        · cases opened
          rw [entryOf?, named]
          rfl
        · cases opened
  · cases opened

theorem listed_of_openList {path : Path} {body : Fields} {name : String} {items : List Value}
    (opened : openList path body name = .ok items) : items = listed body name := by
  unfold openList at opened
  unfold listed
  split at opened <;> rename_i found
  · cases opened
    rw [found]
  · cases opened
    rw [found]
  · cases opened
    rw [found]
  · cases opened

/-! ## Entries and nodes -/

/-- A node stands for an entry: it has the kind of the entry and portrays its body. -/
def Stands (entry : Kind × Fields) (node : Node) : Prop :=
  node.kind = entry.1 ∧ node.Portrays entry.2

/-- Components stand for entries, one for each, in order. -/
def StandFor (entries : List (Kind × Fields)) (components : List Component) : Prop :=
  List.Forall₂ Stands entries (components.map Node.component)

theorem standFor_nil : StandFor [] [] := .nil

theorem standFor_cons {entry : Kind × Fields} {entries : List (Kind × Fields)} {c : Component}
    {components : List Component} (first : Stands entry (.component c))
    (others : StandFor entries components) : StandFor (entry :: entries) (c :: components) :=
  .cons first others

theorem standFor_append {entries others : List (Kind × Fields)} {components more : List Component}
    (first : StandFor entries components) (second : StandFor others more) :
    StandFor (entries ++ others) (components ++ more) := by
  unfold StandFor
  rw [List.map_append]
  exact List.rel_append first second

/-! ## What steps of building yield -/

/-- Whatever a step of building yields, if it succeeds, has a property. -/
def Yields {α : Type} (step : Build α) (holds : α → Prop) : Prop :=
  ∀ ids done, step.run ids = .ok done → holds done.1

section

variable {α β : Type} {step : Build α} {next : α → Build β} {holds : α → Prop} {follows : β → Prop}

theorem yields_pure {a : α} (here : holds a) : Yields (pure a) holds := by
  rintro ids done ⟨⟩
  exact here

theorem yields_throw (fault : Fault) : Yields (throw fault) holds := by
  rintro ids done ⟨⟩

theorem yields_any (step : Build α) : Yields step fun _ => True := fun _ _ _ => trivial

theorem yields_bind (first : Yields step holds) (second : ∀ a, holds a → Yields (next a) follows) :
    Yields (step >>= next) follows := by
  intro ids last ended
  have run : (step >>= next).run ids = step.run ids >>= fun done => (next done.1).run done.2 := rfl
  rw [run] at ended
  obtain ⟨done, ran, ended⟩ := ok_of_bind ended
  exact second done.1 (first ids done ran) done.2 last ended

theorem yields_then (second : ∀ a, Yields (next a) follows) : Yields (step >>= next) follows :=
  yields_bind (yields_any step) fun a _ => second a

theorem yields_map {f : α → β} (yields : Yields step fun a => follows (f a)) :
    Yields (f <$> step) follows := by
  rw [← bind_pure_comp]
  exact yields_bind yields fun a here => yields_pure here

theorem yields_lift {γ : Type} {result : Except Fault γ} {next : γ → Build α}
    (second : ∀ x, result = .ok x → Yields (next x) holds) :
    Yields (liftM result >>= next) holds := by
  cases result with
  | error fault => exact yields_throw fault
  | ok x => exact second x rfl

theorem yields_read {path : Path} {result : Except FieldFault α}
    (reads : ∀ a, result = .ok a → holds a) : Yields (Build.read path result) holds := by
  cases result with
  | error fault =>
      unfold Build.read
      split
      · contradiction
      · exact yields_throw _
      · exact yields_throw _
  | ok a => exact yields_pure (reads a rfl)

end

theorem yields_buildLeaf {α : Type} {kind : Kind} {path : Path} {body : Fields}
    {read : Fields → Except FieldFault α} {holds : α → Prop}
    (reads : ∀ a, read body = .ok a → holds a) : Yields (buildLeaf kind path body read) holds :=
  yields_then fun _ => yields_then fun _ => yields_then fun _ => yields_then fun _ =>
    yields_read reads

theorem yields_buildControl {kind : Kind} (member : kind ∈ Place.fields.kinds) (path : Path)
    (body : Fields) :
    Yields (buildControl kind path body)
      fun c => Stands (kind, body) (.component (.control c)) := by
  cases kind with
  | input =>
      exact yields_map (yields_buildLeaf fun c read => ⟨rfl, portrays_readInput read⟩)
  | checkbox =>
      exact yields_map (yields_buildLeaf fun c read => ⟨rfl, portrays_readCheckbox read⟩)
  | radio =>
      exact yields_map (yields_buildLeaf fun c read => ⟨rfl, portrays_readRadio read⟩)
  | select =>
      exact yields_map (yields_buildLeaf fun c read => ⟨rfl, portrays_readSelect read⟩)
  | _ => simp [Place.kinds] at member

/-- The entries of a list of a form become one component each. -/
theorem yields_buildEntries {α : Type} {place : Place} {build : Kind → Path → Fields → Build α}
    {wrap : α → Component} (leaves : ∀ kind ∈ place.kinds, Contract.lists kind = [])
    (builds : ∀ kind ∈ place.kinds, ∀ path body,
      Yields (build kind path body) fun a => Stands (kind, body) (.component (wrap a)))
    (path : Path) (index : Nat) (entries : List Value) :
    Yields (buildEntries place.slot path build index entries)
      fun made => StandFor (outlineAll entries) (made.map wrap) ∧ made.length = entries.length := by
  induction entries generalizing index with
  | nil =>
      refine yields_pure ⟨?_, rfl⟩
      rw [outlineAll]
      exact standFor_nil
  | cons entry rest ih =>
      refine yields_lift fun opened same => ?_
      obtain ⟨kind, body⟩ := opened
      obtain ⟨member, _⟩ := entry_of_openEntry same
      refine yields_bind (builds kind member _ body) fun first stands => ?_
      refine yields_bind (ih (index + 1)) fun others standFor => yields_pure ⟨?_, ?_⟩
      · rw [outlineAll_cons rest (entryOf?_of_openEntry same), outline_leaf (leaves kind member)]
        exact standFor_cons stands standFor.1
      · rw [List.length_cons, List.length_cons, standFor.2]

/-! ## Components and what they hold -/

/-- The preorder of a component is the component and the preorder of what it holds. -/
theorem Component.preorder_eq (c : Component) : c.preorder = c :: preorderAll c.children := by
  have flat (items : List Component) (alone : ∀ item ∈ items, item.preorder = [item]) :
      preorderAll items = items := by
    induction items with
    | nil => rfl
    | cons item items ih =>
        rw [preorderAll, alone item List.mem_cons_self,
          ih fun other member => alone other (List.mem_cons_of_mem item member)]
        rfl
  cases c with
  | form c =>
      rw [Component.preorder, Component.children, flat]
      intro item member
      rcases List.mem_append.mp member with field | action
      · obtain ⟨control, _, rfl⟩ := List.mem_map.mp field
        rfl
      · obtain ⟨button, _, rfl⟩ := List.mem_map.mp action
        rfl
  | container id layout items => rfl
  | _ => rfl

theorem preorderAll_append (left right : List Component) :
    preorderAll (left ++ right) = preorderAll left ++ preorderAll right := by
  induction left with
  | nil => rfl
  | cons c left ih => rw [List.cons_append, preorderAll, preorderAll, ih, List.append_assoc]

theorem yields_buildForm (path : Path) (body : Fields) :
    Yields (buildForm path body)
      fun c => StandFor (outline .form body) (Component.form c).preorder := by
  have controls := @yields_buildEntries _ .fields buildControl Component.control (by decide)
    (fun kind member => yields_buildControl member)
  have actions := @yields_buildEntries _ .actions
    (fun kind here body => buildLeaf kind here body Button.read) Component.button (by decide) (by
      intro kind member here body
      obtain rfl : kind = .button := List.mem_singleton.mp member
      exact yields_buildLeaf fun c read => ⟨rfl, portrays_readButton read⟩)
  refine yields_then fun _ => yields_then fun _ => yields_then fun _ => ?_
  refine yields_lift fun fields listedFields =>
    yields_bind (controls _ 0 fields) fun made standFields => ?_
  refine yields_lift fun items listedActions =>
    yields_bind (actions _ 0 items) fun more standActions => ?_
  refine yields_then fun _ =>
    yields_bind (yields_read fun id read => bears_required means_text read) fun id bears =>
      yields_pure ?_
  obtain rfl := listed_of_openList listedFields
  obtain rfl := listed_of_openList listedActions
  rw [outline, Component.preorder]
  exact standFor_cons ⟨rfl, bears, standFields.2, standActions.2⟩
    (standFor_append standFields.1 standActions.1)

/-- A leaf stands for its entry alone. -/
theorem standFor_leaf {kind : Kind} {body : Fields} {c : Component}
    (leaf : Contract.lists kind = []) (alone : c.preorder = [c])
    (stands : Stands (kind, body) (.component c)) :
    StandFor (outline kind body) c.preorder := by
  rw [outline_leaf leaf, alone]
  exact standFor_cons stands standFor_nil

/-- A container stands for its entry, given that what it holds stands for what is listed. -/
theorem yields_container {path : Path} {v : Value} {body : Fields}
    (opened : openEntry .anywhere path v = .ok (.container, body))
    (inside : ∀ here, Yields (buildComponents here 0 (listed body "components")) fun items =>
      StandFor (outlineAll (listed body "components")) (preorderAll items) ∧
        items.length = (listed body "components").length) :
    Yields (buildComponent path v) fun c => StandFor (outline .container body) c.preorder := by
  rw [buildComponent_container opened]
  refine yields_then fun _ => yields_then fun _ => yields_lift fun items listedItems => ?_
  obtain rfl := listed_of_openList listedItems
  refine yields_bind (inside _) fun children stand => yields_then fun _ => ?_
  refine yields_bind (yields_read fun id read => bearsId_id read) fun id bearsId => ?_
  refine yields_bind (yields_read fun layout read => bearsOr_withDefault means_word read)
    fun layout bearsLayout => yields_pure ?_
  rw [outline, Component.preorder]
  exact standFor_cons ⟨rfl, bearsId, bearsLayout, stand.2⟩ stand.1

theorem yields_other {path : Path} {v : Value} {kind : Kind} {body : Fields}
    (opened : openEntry .anywhere path v = .ok (kind, body)) (other : kind ≠ .container) :
    Yields (buildComponent path v) fun c => StandFor (outline kind body) c.preorder := by
  rw [buildComponent]
  split
  · rename_i fault failed
    cases opened.symm.trans failed
  · rename_i found
    cases opened.symm.trans found
    cases kind with
    | text =>
        exact yields_map (yields_buildLeaf fun c read =>
          standFor_leaf rfl rfl ⟨rfl, portrays_readText read⟩)
    | button =>
        exact yields_map (yields_buildLeaf fun c read =>
          standFor_leaf rfl rfl ⟨rfl, portrays_readButton read⟩)
    | input | checkbox | radio | select =>
        refine yields_map fun ids done ran => ?_
        exact standFor_leaf rfl rfl (yields_buildControl (by decide) _ body ids done ran)
    | divider =>
        exact yields_map (yields_buildLeaf fun c read =>
          standFor_leaf rfl rfl ⟨rfl, portrays_readDivider read⟩)
    | alert =>
        exact yields_map (yields_buildLeaf fun c read =>
          standFor_leaf rfl rfl ⟨rfl, portrays_readAlert read⟩)
    | form => exact yields_map (yields_buildForm _ body)
    | container => exact absurd rfl other
    | page => exact absurd rfl (ne_page_of_openEntry opened)

mutual

/-- A component and all that it holds stand for its entry and all entries below it. -/
theorem yields_buildComponent (path : Path) (v : Value) :
    Yields (buildComponent path v) fun c =>
      ∃ kind body, entryOf? v = some (kind, body) ∧ StandFor (outline kind body) c.preorder := by
  cases opened : openEntry .anywhere path v with
  | error fault =>
      rw [buildComponent_error opened]
      exact yields_throw fault
  | ok entry =>
      obtain ⟨kind, body⟩ := entry
      have found := entryOf?_of_openEntry opened
      suffices yields : Yields (buildComponent path v) fun c =>
          StandFor (outline kind body) c.preorder from
        fun ids done ran => ⟨kind, body, found, yields ids done ran⟩
      by_cases container : kind = .container
      · subst container
        refine yields_container opened fun here => ?_
        -- The recursion ends since a list is smaller than the entry in whose body it stands.
        have fewer := sizeOf_entryOf?_lt found
        have smaller := sizeOf_listed_lt body "components"
        exact yields_buildComponents here 0 (listed body "components")
      · exact yields_other opened container
termination_by sizeOf v

/-- Components stand for the entries of a list. -/
theorem yields_buildComponents (path : Path) (index : Nat) (entries : List Value) :
    Yields (buildComponents path index entries) fun components =>
      StandFor (outlineAll entries) (preorderAll components) ∧
        components.length = entries.length := by
  cases entries with
  | nil =>
      rw [buildComponents]
      refine yields_pure ⟨?_, rfl⟩
      rw [outlineAll]
      exact standFor_nil
  | cons v rest =>
      rw [buildComponents]
      refine yields_bind (yields_buildComponent (path ++ [.item index]) v) fun first stand => ?_
      refine yields_bind (yields_buildComponents path (index + 1) rest) fun others stands =>
        yields_pure ⟨?_, ?_⟩
      · obtain ⟨kind, body, opened, standFor⟩ := stand
        rw [outlineAll_cons rest opened, preorderAll]
        exact standFor_append standFor stands.1
      · rw [List.length_cons, List.length_cons, stands.2]
termination_by sizeOf entries

end

/-- The page stands for its body, and what it holds for the entries below it. -/
theorem yields_buildPage (body : Fields) :
    Yields (buildPage body) fun p =>
      List.Forall₂ Stands (outline .page body)
        (.page p :: (preorderAll p.items).map Node.component) := by
  refine yields_then fun _ => yields_then fun _ => yields_lift fun items listedItems => ?_
  obtain rfl := listed_of_openList listedItems
  refine yields_bind (yields_buildComponents _ 0 _) fun children stand => yields_then fun _ => ?_
  refine yields_bind (yields_read fun id read => bearsId_id read) fun id bearsId => ?_
  refine yields_bind (yields_read fun title read => bearsOr_withDefault means_optionalText read)
    fun title bearsTitle => ?_
  refine yields_bind (yields_read fun layout read => bearsOr_withDefault means_word read)
    fun layout bearsLayout => yields_pure ?_
  rw [outline]
  exact .cons ⟨rfl, bearsId, bearsTitle, bearsLayout, stand.2⟩ stand.1

/-! ## The walk -/

/-- **The stack.** Whatever is on the stack, what is still visited is the preorder of all that is on
it, from the top. -/
theorem visit_eq_preorderAll (stack : List Component) : visit stack = preorderAll stack := by
  induction stack using visit.induct with
  | case1 => rw [visit, preorderAll]
  | case2 c stack ih =>
      rw [visit, ih, preorderAll_append, preorderAll, c.preorder_eq, List.cons_append]

/-- A node followed by all that it holds. -/
def Node.preorder (node : Node) : List Node :=
  node :: (preorderAll node.children).map .component

theorem walk_eq_preorder (d : Document) : d.walk = (Node.page d.page).preorder := by
  rw [Document.walk, visit_eq_preorderAll]
  rfl

theorem value?_of_ofSource {source : Source} {d : Document} (parsed : ofSource source = .ok d) :
    ∃ v, source.value? = some v ∧ ofValue v = .ok d := by
  obtain ⟨v, loaded, made⟩ := ok_of_bind parsed
  exact ⟨v, by rw [Source.value?, loaded]; rfl, made⟩

theorem built_of_ofValue {v : Value} {d : Document} (read : ofValue v = .ok d) :
    ∃ entries body done, v = .map entries ∧ Value.field? "page" entries = some (.map body) ∧
      (buildPage body).run [] = .ok done ∧ d.page = done.1 := by
  cases v with
  | map entries =>
      rw [ofValue, build] at read
      split at read
      · cases read
      · cases read
      · rename_i body found
        cases ran : (buildPage body).run [] with
        | error fault => simp [ran] at read
        | ok done =>
            rw [ran] at read
            cases read
            exact ⟨entries, body, done, rfl, found, ran, rfl⟩
      · cases read
  | _ => cases read

/-- **Every entry becomes one node.** The walk through the document of a source meets one node for
each entry of the source, the page first, in the order of the source: a node before what it holds,
and the fields of a form before its actions. Each node has the kind of its entry, the values that
the body of the entry gives to its fields, with a default only for a field that is not there, and as
many components below it as the body lists. The walk is the preorder of the tree of nodes. -/
theorem walk_of_source {source : Source} {d : Document} (parsed : ofSource source = .ok d) :
    ∃ entries body, source.value? = some (.map entries) ∧
      Value.field? "page" entries = some (.map body) ∧
      List.Forall₂ Stands (outline .page body) d.walk ∧
      d.walk = (Node.page d.page).preorder ∧
      ∀ c : Component, c.preorder = c :: preorderAll c.children := by
  obtain ⟨v, value, read⟩ := value?_of_ofSource parsed
  obtain ⟨entries, body, done, rfl, page, ran, same⟩ := built_of_ofValue read
  have stands := yields_buildPage body [] done ran
  refine ⟨entries, body, value, page, ?_, walk_eq_preorder d, Component.preorder_eq⟩
  rw [walk_eq_preorder, Node.preorder, same]
  exact stands

/-- A form in front of a line. -/
theorem walk_of_source_form :
    let source := .text "page: \x7bcomponents: [Form: \x7bid: 1\x7d, Divider: ]\x7d"
    ∃ d, ofSource source = .ok d ∧ d.walk.map Node.kind = [.page, .form, .divider] ∧
      ∃ entries body, source.value? = some (.map entries) ∧
        Value.field? "page" entries = some (.map body) ∧
        List.Forall₂ Stands (outline .page body) d.walk ∧
        d.walk = (Node.page d.page).preorder ∧
        ∀ c : Component, c.preorder = c :: preorderAll c.children := by
  intro source
  have kinds : (ofSource source).toOption.map (fun d => d.walk.map Node.kind) =
      some [.page, .form, .divider] := by
    decide +kernel
  cases parsed : ofSource source with
  | error fault =>
      rw [parsed] at kinds
      cases kinds
  | ok d =>
      rw [parsed] at kinds
      exact ⟨d, rfl, Option.some.inj kinds, walk_of_source parsed⟩

end Document

end Wireframe
