import Wireframe.Document.Field

/-! # Building a document from a mapping

The rules for components. An entry of a list of components is a mapping with one key, the
kind, whose value is null or holds the fields. Components of a page and of a container
stand under `components`; those of a form under `fields` and `actions`. No id appears
twice. Keys that mean nothing are left aside.

The rules are checked in a fixed order, and the first one that is broken is reported: an
entry before the entries after it, what an entry holds before its own fields. Where the text
of a value is wanted that cannot be written, building breaks off without a report.
-/

namespace Wireframe.Document

/-- Where a list of components stands. -/
inductive Slot where
  | anywhere
  | formFields
  | formActions
deriving DecidableEq, Repr

/-- The kinds that a list admits, if it does not admit all; in the order of their names. -/
def Slot.restriction : Slot → Option (List Kind)
  | anywhere => none
  | formFields => some [.checkbox, .input, .radio, .select]
  | formActions => some [.button]

/-- The ids that are taken, by their code points, with the paths of their nodes. -/
abbrev Ids := List (List Nat × Path)

/-- A step of building a document: it may take ids, and it may find a fault. -/
abbrev Build := StateT Ids (Except Fault)

namespace Build

/-- Gives up with a broken rule. -/
def fail {α : Type} (path : Path) (cause : Cause) : Build α := throw (.schema ⟨path, cause⟩)

/-- Breaks off at a whole number that has too many digits to be written. -/
def breakOff {α : Type} : Build α := throw (.scalar .overlong)

/-- Reads fields at a path. -/
def read {α : Type} (path : Path) (result : Except FieldFault α) : Build α :=
  match result with
  | .ok a => pure a
  | .error ⟨_, _, .unquotable⟩ => breakOff
  | .error fault => fail (path ++ .field fault.field :: fault.within) (.field fault)

/-- Takes the id of a node, which no node before it may have. -/
def claim (path : Path) (id : Option Value) : Build Unit :=
  match id with
  | none | some .null => pure ()
  | some v =>
    if v.isOverlong then breakOff
    else do
      let ids ← get
      match ids.lookup v.codes with
      | some first => fail (path ++ [.field "id"]) (.duplicateId v.codes first)
      | none => set (ids ++ [(v.codes, path)])

/-- Breaks off if a text of a node is given as a number that cannot be written, whatever else may be
wrong with the fields of the node. -/
def weigh (kind : Kind) (fields : Fields) : Build Unit :=
  if kind.textFields.any fun name => (Value.field? name fields).any Value.isOverlongNumber then
    breakOff
  else pure ()

/-- Refuses a field. -/
def refuse (path : Path) (fields : Fields) (name : String) (cause : Cause) : Build Unit :=
  if Value.hasField name fields then fail (path ++ [.field name]) cause else pure ()

end Build

/-- The kind that the key of an entry names. -/
def Kind.ofKey? : Value → Option Kind
  | .text s => Kind.components.find? fun k => k.name == s
  | _ => none

/-- The kind and the fields of an entry. -/
def openEntry (slot : Slot) (path : Path) (entry : Value) : Except Fault (Kind × Fields) :=
  match entry with
  | .map [(key, body)] =>
    match Kind.ofKey? key with
    | none =>
      if key.isOverlong then .error (.scalar .overlong)
      else .error (.schema ⟨path, .unknownKind key.codes⟩)
    | some kind =>
      match slot.restriction.filter (kind ∉ ·) with
      | some allowed => .error (.schema ⟨path, .misplacedKind kind allowed⟩)
      | none =>
        match body with
        | .null => .ok (kind, [])
        | .map fields => .ok (kind, fields)
        | other => .error (.schema ⟨path ++ [.body kind], .notFields other.describe⟩)
  | _ => .error (.schema ⟨path, .notEntry⟩)

/-- The items of a list of components, if there is a list. -/
def openList (path : Path) (fields : Fields) (name : String) : Except Fault (List Value) :=
  match Value.field? name fields with
  | none | some .null => .ok []
  | some (.list items) => .ok items
  | some other => .error (.schema ⟨path ++ [.field name], .notList other.describe⟩)

/-! ## The kinds that hold no components of other kinds -/

/-- A heading or a paragraph. -/
def TextBlock.read (fields : Fields) : Except FieldFault TextBlock := do
  let id ← Field.id fields
  let variant ← Field.required fields "variant" (Field.word TextVariant)
  return ⟨id, variant, ← Field.required fields "value" Field.text⟩

/-- A button. -/
def Button.read (fields : Fields) : Except FieldFault Button := do
  let id ← Field.id fields
  let kind ← Field.required fields "kind" (Field.word ButtonKind)
  let label ← Field.required fields "label" Field.text
  let submit ← Field.withDefault fields "submit" false Field.bool
  return ⟨id, kind, label, submit, ← Field.withDefault fields "disabled" false Field.bool⟩

/-- A line or a field of text to fill in. -/
def Input.read (fields : Fields) : Except FieldFault Input := do
  let id ← Field.id fields
  let label ← Field.required fields "label" Field.text
  let name ← Field.required fields "name" Field.text
  let type ← Field.withDefault fields "type" InputType.text (Field.word InputType)
  let required ← Field.withDefault fields "required" false Field.bool
  let placeholder ← Field.withDefault fields "placeholder" none Field.optionalText
  return ⟨id, label, name, type, required, placeholder,
    ← Field.withDefault fields "disabled" false Field.bool⟩

/-- A box to tick. -/
def Checkbox.read (fields : Fields) : Except FieldFault Checkbox := do
  let id ← Field.id fields
  let label ← Field.required fields "label" Field.text
  let name ← Field.required fields "name" Field.text
  let checked ← Field.withDefault fields "checked" false Field.bool
  return ⟨id, label, name, checked, ← Field.withDefault fields "disabled" false Field.bool⟩

/-- A group of choices of which one is taken. -/
def Radio.read (fields : Fields) : Except FieldFault Radio := do
  let id ← Field.id fields
  let label ← Field.required fields "label" Field.text
  let name ← Field.required fields "name" Field.text
  let options ← Field.options fields
  return ⟨id, label, name, options, ← Field.withDefault fields "disabled" false Field.bool⟩

/-- A list to choose from. -/
def Select.read (fields : Fields) : Except FieldFault Select := do
  let id ← Field.id fields
  let label ← Field.required fields "label" Field.text
  let name ← Field.required fields "name" Field.text
  let options ← Field.options fields
  let placeholder ← Field.withDefault fields "placeholder" none Field.optionalText
  let multiple ← Field.withDefault fields "multiple" false Field.bool
  return ⟨id, label, name, options, placeholder, multiple,
    ← Field.withDefault fields "disabled" false Field.bool⟩

/-- A line between components. -/
def Divider.read (fields : Fields) : Except FieldFault Divider := do
  let id ← Field.id fields
  return ⟨id,
    ← Field.withDefault fields "orientation" Orientation.horizontal (Field.word Orientation)⟩

/-- A message that stands out. -/
def Alert.read (fields : Fields) : Except FieldFault Alert := do
  let id ← Field.id fields
  let variant ← Field.required fields "variant" (Field.word Severity)
  let message ← Field.required fields "message" Field.text
  return ⟨id, variant, message, ← Field.withDefault fields "title" none Field.optionalText⟩

/-- Builds a node of a kind that holds no components: it takes the id, refuses components, and
reads the fields. -/
def buildLeaf {α : Type} (kind : Kind) (path : Path) (fields : Fields)
    (read : Fields → Except FieldFault α) : Build α := do
  Build.claim path (Value.field? "id" fields)
  Build.refuse path fields "components" (.leafChildren kind)
  Build.refuse path fields "children" (.leafChildren kind)
  Build.weigh kind fields
  Build.read path (read fields)

/-! ## Forms -/

/-- Builds a control of a form from the kind and the fields of its entry. A list of fields admits
the kinds of control alone, so no other kind gets here. -/
def buildControl (kind : Kind) (path : Path) (fields : Fields) : Build Control :=
  match kind with
  | .input => Control.input <$> buildLeaf kind path fields Input.read
  | .checkbox => Control.checkbox <$> buildLeaf kind path fields Checkbox.read
  | .radio => Control.radio <$> buildLeaf kind path fields Radio.read
  | _ => Control.select <$> buildLeaf kind path fields Select.read

/-- Builds the entries of a list of a form one after the other. -/
def buildEntries {α : Type} (slot : Slot) (path : Path)
    (build : Kind → Path → Fields → Build α) : (index : Nat) → List Value → Build (List α)
  | _, [] => pure []
  | index, entry :: rest => do
    let here := path ++ [.item index]
    let (kind, fields) ← openEntry slot here entry
    let first ← build kind (here ++ [.body kind]) fields
    return first :: (← buildEntries slot path build (index + 1) rest)

/-- Builds a form. -/
def buildForm (path : Path) (fields : Fields) : Build Form := do
  Build.claim path (Value.field? "id" fields)
  Build.refuse path fields "components" .formChildren
  Build.refuse path fields "children" .formChildren
  let controls ← buildEntries .formFields (path ++ [.field "fields"]) buildControl 0
    (← openList path fields "fields")
  let actions ← buildEntries .formActions (path ++ [.field "actions"])
    (fun kind here fields => buildLeaf kind here fields Button.read) 0
    (← openList path fields "actions")
  Build.weigh .form fields
  let id ← Build.read path (Field.required fields "id" Field.text)
  return ⟨id, controls, actions⟩

/-! ## Components of any kind -/

/-- A found entry of a mapping is smaller than the mapping. -/
theorem sizeOf_field?_lt {name : String} {fields : Fields} {v : Value}
    (found : Value.field? name fields = some v) : sizeOf v < sizeOf fields := by
  unfold Value.field? at found
  obtain ⟨⟨key, value⟩, first, same⟩ := Option.map_eq_some_iff.1 found
  have member := List.sizeOf_lt_of_mem (List.mem_of_find?_eq_some first)
  subst same
  simp at member ⊢
  omega

/-- The items of a list of components are smaller than the fields they stand among. -/
theorem sizeOf_openList_lt {path : Path} {fields : Fields} {name : String} {items : List Value}
    (opened : openList path fields name = .ok items) :
    sizeOf items < sizeOf fields + 2 := by
  unfold openList at opened
  split at opened
  · cases opened; simp
  · cases opened; simp
  · rename_i found
    cases opened
    have := sizeOf_field?_lt found
    simp at this
    omega
  · cases opened

/-- The fields of an entry are smaller than the entry. -/
theorem sizeOf_openEntry_lt {slot : Slot} {path : Path} {entry : Value} {kind : Kind}
    {fields : Fields} (opened : openEntry slot path entry = .ok (kind, fields)) :
    sizeOf fields + 2 < sizeOf entry := by
  unfold openEntry at opened
  split at opened
  · rename_i key body
    split at opened
    · split at opened <;> cases opened
    · split at opened
      · cases opened
      · split at opened
        · cases opened; simp; omega
        · cases opened; simp; omega
        · cases opened
  · cases opened

mutual

/-- Builds a component from its entry. -/
def buildComponent (path : Path) (entry : Value) : Build Component :=
  match opened : openEntry .anywhere path entry with
  | .error fault => throw fault
  | .ok (kind, fields) =>
    let here := path ++ [.body kind]
    match kind with
    | .text => Component.text <$> buildLeaf kind here fields TextBlock.read
    | .button => Component.button <$> buildLeaf kind here fields Button.read
    | .input | .checkbox | .radio | .select =>
      Component.control <$> buildControl kind here fields
    | .divider => Component.divider <$> buildLeaf kind here fields Divider.read
    | .alert => Component.alert <$> buildLeaf kind here fields Alert.read
    | .form => Component.form <$> buildForm here fields
    | .container | .page => do
      Build.claim here (Value.field? "id" fields)
      Build.refuse here fields "children" .containerChildren
      match listed : openList here fields "components" with
      | .error fault => throw fault
      | .ok items =>
        have := sizeOf_openEntry_lt opened
        have := sizeOf_openList_lt listed
        let children ← buildComponents (here ++ [.field "components"]) 0 items
        Build.weigh .container fields
        let id ← Build.read here (Field.id fields)
        let layout ← Build.read here
          (Field.withDefault fields "layout" Layout.vertical (Field.word Layout))
        return .container id layout children
termination_by sizeOf entry

/-- Builds the components of a list, whose first item has a given index. -/
def buildComponents (path : Path) (index : Nat) (entries : List Value) : Build (List Component) :=
  match entries with
  | [] => pure []
  | entry :: rest => do
    let first ← buildComponent (path ++ [.item index]) entry
    return first :: (← buildComponents path (index + 1) rest)
termination_by sizeOf entries

end

/-- Builds the page. -/
def buildPage (fields : Fields) : Build Page := do
  Build.refuse [] fields "children" .pageChildren
  Build.claim [] (Value.field? "id" fields)
  let items ← buildComponents [.field "components"] 0 (← openList [] fields "components")
  Build.weigh .page fields
  let id ← Build.read [] (Field.id fields)
  let title ← Build.read [] (Field.withDefault fields "title" none Field.optionalText)
  let layout ← Build.read []
    (Field.withDefault fields "layout" Layout.vertical (Field.word Layout))
  return ⟨id, title, layout, items⟩

/-- Builds the document whose page stands in a mapping. -/
def build (entries : Fields) : Except Fault Document :=
  match Value.field? "page" entries with
  | none | some .null => .error (.schema ⟨[], .noPage⟩)
  | some (.map fields) => (fun built => ⟨built.1⟩) <$> (buildPage fields).run []
  | some other => .error (.schema ⟨[], .notMapping other.describe⟩)

end Wireframe.Document
