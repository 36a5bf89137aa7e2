import Wireframe.Document.Field

/-! # The contract for documents

What a value has to be like to be a document, said without building one: which fields a
node of each kind has, what the value of each field may be, which lists of components stand
under which keys, which keys are forbidden, and that no two nodes have the same id.

The rules for nodes are tables. A derivation of `Node kind body ids` says that a body holds a
node of a kind and, below it, nodes that conform as well, and lists their ids, by the code
points of their texts, in the order in which the nodes stand in the source.
-/

namespace Wireframe.Document.Contract

/-! ## Values of fields -/

/-- A text, a number that is not too long to be written, or the bytes of a text. -/
def IsText : Value → Prop
  | .text _ | .halved _ | .float _ => True
  | .int n => Number.isOverlong n = false
  | .bytes b => ∃ chars, Text.Utf8.decode b = .ok chars
  | _ => False

/-- A text, or null. -/
def IsOptionalText (v : Value) : Prop := v = .null ∨ IsText v

/-- A text, or a truth value. -/
def IsChoiceText (v : Value) : Prop := (∃ b, v = .bool b) ∨ IsText v

/-- The words that stand for a truth value. -/
def truthWords : List String :=
  ["0", "off", "f", "false", "n", "no", "1", "on", "t", "true", "y", "yes"]

/-- A word that stands for a truth value, in either case. -/
def IsTruthWord (chars : List Char) : Prop := String.ofList (chars.map Char.toLower) ∈ truthWords

/-- A truth value: one itself, a word for one, or one of the numbers zero and one. -/
def IsTruth : Value → Prop
  | .bool _ => True
  | .text s => IsTruthWord s.toList
  | .bytes b => ∃ chars, Text.Utf8.decode b = .ok chars ∧ IsTruthWord chars
  | .int n => n = 0 ∨ n = 1
  | .float x => Number.wholeOfFloat? x = some 0 ∨ Number.wholeOfFloat? x = some 1
  | _ => False

/-- The name of a member of a named set, or its bytes. -/
def IsWord (α : Type) [Named α] : Value → Prop
  | .text s => ∃ a : α, Named.name a = s
  | .bytes b =>
    ∃ chars, Text.Utf8.decode b = .ok chars ∧ ∃ a : α, Named.name a = String.ofList chars
  | _ => False

/-! ## Fields -/

/-- A rule for a field: its name, whether it has to be there, and the values it may have. -/
structure Rule where
  name : String
  needed : Bool
  admits : Value → Prop

/-- A field that has to be there. -/
def needs (name : String) (admits : Value → Prop) : Rule := ⟨name, true, admits⟩

/-- A field that may be absent. -/
def allows (name : String) (admits : Value → Prop) : Rule := ⟨name, false, admits⟩

/-- The rule for the field of its name holds in a body. -/
def Rule.Holds (rule : Rule) (body : Fields) : Prop :=
  match Value.field? rule.name body with
  | none => rule.needed = false
  | some v => rule.admits v

/-- A mapping with a label and a value. -/
def IsChoice (v : Value) : Prop :=
  ∃ entries, v = .map entries ∧ (needs "label" IsChoiceText).Holds entries ∧
    (needs "value" IsChoiceText).Holds entries

/-- A sequence or a set of choices. -/
def IsChoices : Value → Prop
  | .list items | .tuple items | .set items => ∀ v ∈ items, IsChoice v
  | _ => False

/-- The rules for the fields of a kind. -/
def rules : Kind → List Rule
  | .page =>
    [allows "id" IsOptionalText, allows "title" IsOptionalText, allows "layout" (IsWord Layout)]
  | .text =>
    [allows "id" IsOptionalText, needs "variant" (IsWord TextVariant), needs "value" IsText]
  | .button =>
    [allows "id" IsOptionalText, needs "kind" (IsWord ButtonKind), needs "label" IsText,
      allows "submit" IsTruth, allows "disabled" IsTruth]
  | .input =>
    [allows "id" IsOptionalText, needs "label" IsText, needs "name" IsText,
      allows "type" (IsWord InputType), allows "required" IsTruth,
      allows "placeholder" IsOptionalText, allows "disabled" IsTruth]
  | .checkbox =>
    [allows "id" IsOptionalText, needs "label" IsText, needs "name" IsText,
      allows "checked" IsTruth, allows "disabled" IsTruth]
  | .radio =>
    [allows "id" IsOptionalText, needs "label" IsText, needs "name" IsText,
      needs "options" IsChoices, allows "disabled" IsTruth]
  | .select =>
    [allows "id" IsOptionalText, needs "label" IsText, needs "name" IsText,
      needs "options" IsChoices, allows "placeholder" IsOptionalText,
      allows "multiple" IsTruth, allows "disabled" IsTruth]
  | .divider => [allows "id" IsOptionalText, allows "orientation" (IsWord Orientation)]
  | .alert =>
    [allows "id" IsOptionalText, needs "variant" (IsWord Severity), needs "message" IsText,
      allows "title" IsOptionalText]
  | .container => [allows "id" IsOptionalText, allows "layout" (IsWord Layout)]
  | .form => [needs "id" IsText]

/-! ## Nodes -/

/-- Where a list of components stands. -/
inductive Place where
  | components
  | fields
  | actions
deriving DecidableEq, Repr

/-- The kinds that a list admits. -/
def Place.kinds : Place → List Kind
  | components =>
    [.text, .button, .input, .checkbox, .radio, .select, .divider, .alert, .container, .form]
  | fields => [.input, .checkbox, .radio, .select]
  | actions => [.button]

/-- The keys under which a kind has lists of components, in the order in which they are read. -/
def lists : Kind → List (String × Place)
  | .page | .container => [("components", .components)]
  | .form => [("fields", .fields), ("actions", .actions)]
  | _ => []

/-- The keys that a kind forbids. -/
def forbidden : Kind → List String
  | .page | .container => ["children"]
  | _ => ["components", "children"]

/-- The keys that count for nothing. -/
def reserved : List String := ["component", "items"]

/-- A body without the entries that count for nothing. -/
def counted (body : Fields) : Fields :=
  body.filter fun e => !reserved.any fun name => e.1.sameKey (.text name)

/-- The id in a body, by the code points of its text, unless there is none. -/
def ownId (body : Fields) : List (List Nat) :=
  match Value.field? "id" body with
  | none | some .null => []
  | some v => [v.codes]

/-- A list of components: absent, null, or a list of entries. -/
inductive Listed : Option Value → List Value → Prop where
  | absent : Listed none []
  | null : Listed (some .null) []
  | list (entries : List Value) : Listed (some (.list entries)) entries

/-- An entry of a list: a mapping whose single key is a kind that the list admits, and whose value
is null or a body. -/
inductive Entry (place : Place) : Value → Kind → Fields → Prop where
  | bare {kind : Kind} (admitted : kind ∈ place.kinds) :
    Entry place (.map [(.text kind.name, .null)]) kind []
  | filled {kind : Kind} (admitted : kind ∈ place.kinds) (body : Fields) :
    Entry place (.map [(.text kind.name, .map body)]) kind (counted body)

mutual

/-- A body of a node of a kind, with the ids in it. -/
inductive Node : Kind → Fields → List (List Nat) → Prop where
  | node {kind : Kind} {body : Fields} {below : List (List Nat)}
    (bare : ∀ name ∈ forbidden kind, Value.field? name body = none)
    (fields : ∀ rule ∈ rules kind, rule.Holds body)
    (held : Held body (lists kind) below) :
    Node kind body (ownId body ++ below)

/-- Lists of components in a body, under keys with places, with the ids in them. -/
inductive Held : Fields → List (String × Place) → List (List Nat) → Prop where
  | nil {body : Fields} : Held body [] []
  | cons {body : Fields} {name : String} {place : Place} {rest : List (String × Place)}
    {entries : List Value} {ids more : List (List Nat)}
    (listed : Listed (Value.field? name body) entries) (first : Entries place entries ids)
    (others : Held body rest more) : Held body ((name, place) :: rest) (ids ++ more)

/-- Entries of a list of components, with the ids in them. -/
inductive Entries : Place → List Value → List (List Nat) → Prop where
  | nil {place : Place} : Entries place [] []
  | cons {place : Place} {entry : Value} {rest : List Value} {kind : Kind} {body : Fields}
    {ids more : List (List Nat)} (opened : Entry place entry kind body) (node : Node kind body ids)
    (others : Entries place rest more) : Entries place (entry :: rest) (ids ++ more)

end

/-- **The contract.** A mapping with a mapping under `page` that is the body of a page, in which no
two nodes have ids of the same text. -/
def Meets (v : Value) : Prop :=
  ∃ entries body ids, v = .map entries ∧ Value.field? "page" entries = some (.map body) ∧
    Node .page (counted body) ids ∧ ids.Nodup

/-! ## Keys that count for nothing -/

theorem sameKey_text_iff {key : Value} {name : String} :
    key.sameKey (.text name) = true ↔ key = .text name := by
  cases key <;> simp [Value.sameKey, Value.number?]

/-- Leaving out the entries that count for nothing leaves all others. -/
theorem field?_counted {name : String} (counts : name ∉ reserved) (body : Fields) :
    Value.field? name (counted body) = Value.field? name body := by
  unfold Value.field? counted
  rw [List.find?_filter]
  congr 2
  funext e
  cases same : e.1.sameKey (.text name) with
  | false => simp
  | true =>
      have kept : reserved.any (fun other => e.1.sameKey (.text other)) = false := by
        rw [List.any_eq_false]
        intro other member found
        rw [sameKey_text_iff] at same found
        obtain rfl := Value.text.inj (same.symm.trans found)
        exact counts member
      simp [kept]

/-- No rule is about a key that counts for nothing. -/
theorem name_of_rule {kind : Kind} {rule : Rule} (member : rule ∈ rules kind) :
    rule.name ∉ reserved := by
  have names : ∀ name ∈ (rules kind).map Rule.name, name ∉ reserved := by
    cases kind <;> decide
  exact names rule.name (List.mem_map_of_mem member)

theorem name_of_list {kind : Kind} {l : String × Place} (member : l ∈ lists kind) :
    l.1 ∉ reserved := by
  have names : ∀ name ∈ (lists kind).map Prod.fst, name ∉ reserved := by
    cases kind <;> decide
  exact names l.1 (List.mem_map_of_mem member)

theorem forbidden_counts {kind : Kind} {name : String} (member : name ∈ forbidden kind) :
    name ∉ reserved := by
  have names : ∀ name ∈ forbidden kind, name ∉ reserved := by
    cases kind <;> decide
  exact names name member

theorem ownId_counted (body : Fields) : ownId (counted body) = ownId body := by
  rw [ownId, field?_counted (by decide)]
  rfl

theorem holds_counted {kind : Kind} {rule : Rule} (member : rule ∈ rules kind) (body : Fields) :
    rule.Holds (counted body) ↔ rule.Holds body := by
  rw [Rule.Holds, Rule.Holds, field?_counted (name_of_rule member)]

theorem held_counted {body : Fields} {ls : List (String × Place)} {ids : List (List Nat)}
    (names : ∀ l ∈ ls, l.1 ∉ reserved) : Held (counted body) ls ids ↔ Held body ls ids := by
  induction ls generalizing ids with
  | nil => constructor <;> (intro held; cases held; exact .nil)
  | cons l ls ih =>
      rw [List.forall_mem_cons] at names
      constructor
      · intro held
        cases held with
        | cons listed first others =>
            rw [field?_counted names.1] at listed
            exact .cons listed first ((ih names.2).mp others)
      · intro held
        cases held with
        | cons listed first others =>
            rw [← field?_counted names.1] at listed
            exact .cons listed first ((ih names.2).mpr others)

/-- **Keys that count for nothing.** A body conforms if it does without the keys that count for
nothing, whatever their values are. -/
theorem node_counted {kind : Kind} {body : Fields} {ids : List (List Nat)} :
    Node kind (counted body) ids ↔ Node kind body ids := by
  constructor
  · intro node
    cases node with
    | node bare fields held =>
        rw [ownId_counted]
        refine .node ?_ ?_ ((held_counted fun l => name_of_list).mp held)
        · intro name member
          rw [← field?_counted (forbidden_counts member)]
          exact bare name member
        · exact fun rule member => (holds_counted member body).mp (fields rule member)
  · intro node
    cases node with
    | node bare fields held =>
        rw [← ownId_counted]
        refine .node ?_ ?_ ((held_counted fun l => name_of_list).mpr held)
        · intro name member
          rw [field?_counted (forbidden_counts member)]
          exact bare name member
        · exact fun rule member => (holds_counted member body).mpr (fields rule member)

end Wireframe.Document.Contract
