import Wireframe.Proofs.Document.Identity
import Wireframe.Proofs.Overlong
import Wireframe.Proofs.Yaml.Values

/-! # Paths into a source

What the steps of a path lead to, from the mapping of a source down. The faults of fields point
into the fields that are read (`Wireframe.Document.faultsPoint_options` and its like for each
kind), and the nodes of a source, each with the path of its fields, stand where their paths lead,
no two at the same path (`Wireframe.Document.laid_spots`).

A number that cannot be written is held by everything on the path to it.
-/

namespace Wireframe.Document

open Contract (Place)

open Content

/-! ## Following a path -/

/-- The value to which a step leads from another one. -/
def Step.from? : Step → Value → Option Value
  | .field name, .map entries => Value.field? name entries
  | .body kind, .map entries => Value.field? kind.name entries
  | .item index, .list items => items[index]?
  | .member index, .list items | .member index, .tuple items => items[index]?
  | _, _ => none

/-- The value to which the steps of a path lead. -/
def follow? (v : Value) (path : Path) : Option Value := path.foldlM (fun v step => step.from? v) v

/-- A path with the step that leads to the page. -/
def whole (path : Path) : Path := .field "page" :: path

/-- A step whose text is a name behind a dot. -/
def Step.IsDotted : Step → Prop
  | .item _ => False
  | _ => True

/-- A path leads to a value, or it does without its last step, which is one to a name. -/
inductive PointsInto (v : Value) : Path → Prop where
  | whole {path : Path} {w : Value} (found : follow? v path = some w) : PointsInto v path
  | front (path : Path) (step : Step) {w : Value} (dotted : step.IsDotted)
    (found : follow? v path = some w) : PointsInto v (path ++ [step])

theorem follow?_append (v : Value) (path more : Path) :
    follow? v (path ++ more) = (follow? v path).bind fun w => follow? w more := by
  rw [follow?, List.foldlM_append]
  rfl

theorem follow?_snoc {v w : Value} {path : Path} (found : follow? v path = some w) (step : Step) :
    follow? v (path ++ [step]) = step.from? w := by
  rw [follow?_append, found, Option.bind_some, follow?, List.foldlM_cons]
  cases step.from? w <;> rfl

theorem PointsInto.append {v w : Value} {path more : Path} (found : follow? v path = some w)
    (points : PointsInto w more) : PointsInto v (path ++ more) := by
  cases points with
  | @whole _ u below =>
      have inside : follow? v (path ++ more) = some u := by
        rw [follow?_append, found, Option.bind_some, below]
      exact .whole inside
  | @front front step u dotted below =>
      have inside : follow? v (path ++ front) = some u := by
        rw [follow?_append, found, Option.bind_some, below]
      rw [← List.append_assoc]
      exact .front _ step dotted inside

/-- What is found in a well-formed value is well-formed. -/
theorem wellFormed_of_from? {step : Step} {v w : Value} (valid : v.WellFormed)
    (found : step.from? v = some w) : w.WellFormed := by
  cases valid with
  | scalar plain =>
      cases v with
      | list | tuple | set | map => cases plain
      | _ => cases step <;> cases found
  | list held =>
      cases step with
      | item | member => exact held w (List.mem_of_getElem? found)
      | _ => cases found
  | tuple held =>
      cases step with
      | member => exact held w (List.mem_of_getElem? found)
      | _ => cases found
  | set => cases step <;> cases found
  | map plain distinct held =>
      cases step with
      | field | body => exact Value.wellFormed_of_field? (.map plain distinct held) found
      | _ => cases found

theorem wellFormed_of_follow? {path : Path} {v w : Value} (valid : v.WellFormed)
    (found : follow? v path = some w) : w.WellFormed := by
  induction path generalizing v with
  | nil =>
      cases found
      exact valid
  | cons step path ih =>
      rw [follow?, List.foldlM_cons] at found
      obtain ⟨u, here, further⟩ := Option.bind_eq_some_iff.mp found
      exact ih (wellFormed_of_from? valid here) further

/-! ## Numbers that cannot be written -/

theorem isOverlong_of_from? {step : Step} {v w : Value} (found : step.from? v = some w)
    (overlong : w.isOverlong = true) : v.isOverlong = true := by
  cases v with
  | list items =>
      cases step with
      | item | member => exact Value.isOverlong_of_mem (List.mem_of_getElem? found) overlong
      | _ => cases found
  | tuple items =>
      cases step with
      | member => exact Value.isOverlong_of_mem (List.mem_of_getElem? found) overlong
      | _ => cases found
  | map entries =>
      cases step with
      | field | body => exact Value.isOverlong_of_field? found overlong
      | _ => cases found
  | _ => cases step <;> cases found

/-- What holds a number that cannot be written cannot be written itself. -/
theorem isOverlong_of_follow? {path : Path} {v w : Value} (found : follow? v path = some w)
    (overlong : w.isOverlong = true) : v.isOverlong = true := by
  induction path generalizing v with
  | nil =>
      cases found
      exact overlong
  | cons step path ih =>
      rw [follow?, List.foldlM_cons] at found
      obtain ⟨u, here, further⟩ := Option.bind_eq_some_iff.mp found
      exact isOverlong_of_from? here (ih further)

/-- Only a value that cannot be written is at fault for not being quoted. -/
def Quotes {α : Type} (read : Value → Except FieldCause α) : Prop :=
  ∀ v, read v = .error .unquotable → v.isOverlong = true

theorem text_ne_unquotable (v : Value) : Field.text v ≠ .error .unquotable := by
  cases v with
  | int n =>
      rw [Field.text]
      split <;> rintro ⟨⟩
  | bytes b =>
      rw [Field.text, Field.ofBytes]
      split <;> rintro ⟨⟩
  | _ => rintro ⟨⟩

theorem choiceText_ne_unquotable (v : Value) : Field.choiceText v ≠ .error .unquotable := by
  cases v with
  | bool b => exact nofun
  | _ =>
      simp only [Field.choiceText]
      exact text_ne_unquotable _

theorem quotes_text : Quotes Field.text := fun v failed => absurd failed (text_ne_unquotable v)

theorem quotes_optionalText : Quotes Field.optionalText := by
  have given (w : Value) : some <$> Field.text w ≠ .error .unquotable := by
    have plain := text_ne_unquotable w
    cases read : Field.text w with
    | ok s => exact nofun
    | error cause =>
        rw [read] at plain
        rintro ⟨⟩
        exact plain rfl
  intro v failed
  cases v with
  | null => cases failed
  | _ => exact absurd failed (given _)

theorem ofBoolWord_ne_unquotable (chars : List Char) :
    Field.ofBoolWord chars ≠ .error .unquotable := by
  unfold Field.ofBoolWord
  split <;> exact nofun

theorem ofBoolNumber_ne_unquotable (least n : Int) :
    Field.ofBoolNumber least n ≠ .error .unquotable := by
  unfold Field.ofBoolNumber
  split
  · exact nofun
  · split
    · exact nofun
    · split <;> exact nofun

theorem quotes_bool : Quotes Field.bool := by
  intro v failed
  cases v with
  | text s => exact absurd failed (ofBoolWord_ne_unquotable _)
  | int n => exact absurd failed (ofBoolNumber_ne_unquotable _ _)
  | bytes b =>
      rw [Field.bool] at failed
      split at failed
      · exact absurd failed (ofBoolWord_ne_unquotable _)
      · cases failed
  | float x =>
      rw [Field.bool] at failed
      split at failed
      · exact absurd failed (ofBoolNumber_ne_unquotable _ _)
      · cases failed
  | _ => cases failed

theorem quotes_word (α : Type) [Named α] : Quotes (Field.word α) := by
  intro v failed
  unfold Field.word at failed
  dsimp only at failed
  split at failed
  · cases failed
  · cases overlong : v.isOverlong with
    | true => rfl
    | false =>
        unfold Field.notWord at failed
        split at failed
        · cases failed
        · rw [overlong] at failed
          cases failed

/-! ## Fields -/

section

variable {α β : Type} {body : Fields}

/-- The path of a fault points into the body that was read, and there is a number that cannot be
written in the body if a value was not quoted. -/
structure FoundIn (body : Fields) (fault : FieldFault) : Prop where
  points : (Value.map body).WellFormed → PointsInto (.map body) (.field fault.field :: fault.within)
  heavy : fault.cause = .unquotable → (Value.map body).isOverlong = true

/-- Where a result is a fault, it is found in the body that was read. -/
def FaultsPoint (body : Fields) (result : Except FieldFault α) : Prop :=
  ∀ fault, result = .error fault → FoundIn body fault

theorem faultsPoint_ok (a : α) : FaultsPoint body (.ok a) := nofun

theorem faultsPoint_bind {result : Except FieldFault α} {next : α → Except FieldFault β}
    (first : FaultsPoint body result) (second : ∀ a, FaultsPoint body (next a)) :
    FaultsPoint body (result >>= next) := by
  cases result with
  | error fault =>
      rintro _ ⟨⟩
      exact first fault rfl
  | ok a => exact second a

/-- The name of a field is the last step of a path, whether there is such a field or not. -/
theorem faultsPoint_field (name : String) {cause : FieldCause}
    (heavy : cause = .unquotable → (Value.map body).isOverlong = true) :
    FaultsPoint body (.error ⟨name, [], cause⟩ : Except FieldFault α) := by
  rintro _ ⟨⟩
  exact ⟨fun _ => .front [] (.field name) trivial rfl, heavy⟩

theorem faultsPoint_mapError {name : String} {read : Value → Except FieldCause α} {v : Value}
    (quotes : Quotes read) (found : Value.field? name body = some v) :
    FaultsPoint body ((read v).mapError fun cause => ⟨name, [], cause⟩) := by
  cases failed : read v with
  | error cause =>
      refine faultsPoint_field name ?_
      rintro rfl
      exact Value.isOverlong_of_field? found (quotes v failed)
  | ok a => exact faultsPoint_ok a

theorem faultsPoint_required (name : String) {read : Value → Except FieldCause α}
    (quotes : Quotes read) : FaultsPoint body (Field.required body name read) := by
  unfold Field.required
  split
  · exact faultsPoint_field name nofun
  · exact faultsPoint_mapError quotes ‹_›

theorem faultsPoint_withDefault (name : String) (default : α)
    {read : Value → Except FieldCause α} (quotes : Quotes read) :
    FaultsPoint body (Field.withDefault body name default read) := by
  unfold Field.withDefault
  split
  · exact faultsPoint_ok default
  · exact faultsPoint_mapError quotes ‹_›

theorem faultsPoint_id : FaultsPoint body (Field.id body) :=
  faultsPoint_withDefault "id" none quotes_optionalText

variable {v : Value}

/-- A member of the options that is at fault is named, or a part of it if it is a mapping. -/
theorem faultsPoint_choice (options : Value.field? "options" body = some v) {index : Nat}
    {item : Value} (member : (Value.map body).WellFormed → ∀ entries, item = .map entries →
      (Step.member index).from? v = some item) :
    FaultsPoint body (Field.choice index item) := by
  have options : follow? (.map body) [.field "options"] = some v := by
    rw [← options]
    exact @follow?_snoc (.map body) _ [] rfl (.field "options")
  cases item with
  | map entries =>
      have inside (valid : (Value.map body).WellFormed) :
          follow? (.map body) ([.field "options"] ++ [.member index]) = some (.map entries) := by
        rw [follow?_snoc options, member valid entries rfl]
      have part (name : String) {read : Except FieldFault String} (within : ∀ fault,
          read = .error fault → fault.field = "options" ∧
            fault.within = [.member index, .field name] ∧ fault.cause ≠ .unquotable) :
          FaultsPoint body read := by
        intro fault failed
        obtain ⟨field, place, quoted⟩ := within fault failed
        refine ⟨fun valid => ?_, fun cause => absurd cause quoted⟩
        rw [field, place]
        exact .front [.field "options", .member index] (.field name) trivial (inside valid)
      refine faultsPoint_bind (part "label" fun fault failed => ?_) fun label =>
        faultsPoint_bind (part "value" fun fault failed => ?_) fun value => faultsPoint_ok _
      all_goals
        beta_reduce at failed
        split at failed
        · cases failed
          exact ⟨rfl, rfl, nofun⟩
        · rename_i w found
          cases read : Field.choiceText w with
          | ok s => simp [read, Except.mapError] at failed
          | error cause =>
              rw [read] at failed
              cases failed
              refine ⟨rfl, rfl, ?_⟩
              rintro rfl
              exact choiceText_ne_unquotable w read
  | _ =>
      rintro _ ⟨⟩
      exact ⟨fun _ => .front [.field "options"] (.member index) trivial options, nofun⟩

theorem faultsPoint_choices (options : Value.field? "options" body = some v) {index : Nat}
    {items : List Value} (members : (Value.map body).WellFormed → ∀ k entries,
      items[k]? = some (.map entries) → (Step.member (index + k)).from? v = some (.map entries)) :
    FaultsPoint body (Field.choices index items) := by
  induction items generalizing index with
  | nil => exact faultsPoint_ok []
  | cons item items ih =>
      refine faultsPoint_bind (faultsPoint_choice options ?_) fun first =>
        faultsPoint_bind (ih fun valid k entries found => ?_) fun others => faultsPoint_ok _
      · rintro valid entries rfl
        exact members valid 0 entries rfl
      · have behind := members valid (k + 1) entries found
        rwa [Nat.add_comm k, ← Nat.add_assoc] at behind

/-- No member of a set is a mapping, so the faults within options are in sequences. -/
theorem faultsPoint_options : FaultsPoint body (Field.options body) := by
  unfold Field.options
  split
  · exact faultsPoint_field _ nofun
  · rename_i items found
    exact faultsPoint_choices found fun valid k entries inside => by rwa [Nat.zero_add]
  · rename_i items found
    exact faultsPoint_choices found fun valid k entries inside => by rwa [Nat.zero_add]
  · rename_i items found
    refine faultsPoint_choices found fun valid k entries inside => ?_
    cases Value.wellFormed_of_field? valid found with
    | scalar plain => cases plain
    | set plain _ => cases plain _ (List.mem_of_getElem? inside)
  · exact faultsPoint_field _ nofun

theorem faultsPoint_readText : FaultsPoint body (TextBlock.read body) :=
  faultsPoint_bind faultsPoint_id fun _ =>
    faultsPoint_bind (faultsPoint_required "variant" (quotes_word _)) fun _ =>
      faultsPoint_bind (faultsPoint_required "value" quotes_text) fun _ => faultsPoint_ok _

theorem faultsPoint_readButton : FaultsPoint body (Button.read body) :=
  faultsPoint_bind faultsPoint_id fun _ =>
    faultsPoint_bind (faultsPoint_required "kind" (quotes_word _)) fun _ =>
      faultsPoint_bind (faultsPoint_required "label" quotes_text) fun _ =>
        faultsPoint_bind (faultsPoint_withDefault "submit" false quotes_bool) fun _ =>
          faultsPoint_bind (faultsPoint_withDefault "disabled" false quotes_bool) fun _ =>
            faultsPoint_ok _

theorem faultsPoint_readInput : FaultsPoint body (Input.read body) :=
  faultsPoint_bind faultsPoint_id fun _ =>
    faultsPoint_bind (faultsPoint_required "label" quotes_text) fun _ =>
      faultsPoint_bind (faultsPoint_required "name" quotes_text) fun _ =>
        faultsPoint_bind (faultsPoint_withDefault "type" InputType.text (quotes_word _)) fun _ =>
          faultsPoint_bind (faultsPoint_withDefault "required" false quotes_bool) fun _ =>
            faultsPoint_bind (faultsPoint_withDefault "placeholder" none quotes_optionalText)
              fun _ => faultsPoint_bind (faultsPoint_withDefault "disabled" false quotes_bool)
                fun _ => faultsPoint_ok _

theorem faultsPoint_readCheckbox : FaultsPoint body (Checkbox.read body) :=
  faultsPoint_bind faultsPoint_id fun _ =>
    faultsPoint_bind (faultsPoint_required "label" quotes_text) fun _ =>
      faultsPoint_bind (faultsPoint_required "name" quotes_text) fun _ =>
        faultsPoint_bind (faultsPoint_withDefault "checked" false quotes_bool) fun _ =>
          faultsPoint_bind (faultsPoint_withDefault "disabled" false quotes_bool) fun _ =>
            faultsPoint_ok _

theorem faultsPoint_readRadio : FaultsPoint body (Radio.read body) :=
  faultsPoint_bind faultsPoint_id fun _ =>
    faultsPoint_bind (faultsPoint_required "label" quotes_text) fun _ =>
      faultsPoint_bind (faultsPoint_required "name" quotes_text) fun _ =>
        faultsPoint_bind faultsPoint_options fun _ =>
          faultsPoint_bind (faultsPoint_withDefault "disabled" false quotes_bool) fun _ =>
            faultsPoint_ok _

theorem faultsPoint_readSelect : FaultsPoint body (Select.read body) :=
  faultsPoint_bind faultsPoint_id fun _ =>
    faultsPoint_bind (faultsPoint_required "label" quotes_text) fun _ =>
      faultsPoint_bind (faultsPoint_required "name" quotes_text) fun _ =>
        faultsPoint_bind faultsPoint_options fun _ =>
          faultsPoint_bind (faultsPoint_withDefault "placeholder" none quotes_optionalText)
            fun _ => faultsPoint_bind (faultsPoint_withDefault "multiple" false quotes_bool)
              fun _ => faultsPoint_bind (faultsPoint_withDefault "disabled" false quotes_bool)
                fun _ => faultsPoint_ok _

theorem faultsPoint_readDivider : FaultsPoint body (Divider.read body) :=
  faultsPoint_bind faultsPoint_id fun _ =>
    faultsPoint_bind
      (faultsPoint_withDefault "orientation" Orientation.horizontal (quotes_word _)) fun _ =>
        faultsPoint_ok _

theorem faultsPoint_readAlert : FaultsPoint body (Alert.read body) :=
  faultsPoint_bind faultsPoint_id fun _ =>
    faultsPoint_bind (faultsPoint_required "variant" (quotes_word _)) fun _ =>
      faultsPoint_bind (faultsPoint_required "message" quotes_text) fun _ =>
        faultsPoint_bind (faultsPoint_withDefault "title" none quotes_optionalText) fun _ =>
          faultsPoint_ok _

end

/-! ## The nodes of a source -/

/-- A node of a source: the path at which its fields stand, its kind and the fields. -/
structure Spot where
  path : Path
  kind : Kind
  body : Fields

/-- The id that a node gives, by its code points, and the path of the node. -/
def Spot.id? (spot : Spot) : Option (List Nat × Path) :=
  (idCodes? (spot.kind, spot.body)).map fun id => (id, spot.path)

mutual

/-- A node and all nodes below it, in the order in which they are built. -/
def spots (path : Path) (kind : Kind) (body : Fields) : List Spot :=
  ⟨path, kind, body⟩ ::
    match kind with
    | .page | .container =>
      have := sizeOf_listed_lt body "components"
      spotsAll (path ++ [.field "components"]) 0 (listed body "components")
    | .form =>
      have := sizeOf_listed_lt body "fields"
      have := sizeOf_listed_lt body "actions"
      spotsAll (path ++ [.field "fields"]) 0 (listed body "fields") ++
        spotsAll (path ++ [.field "actions"]) 0 (listed body "actions")
    | _ => []
termination_by sizeOf body + 1

/-- The nodes of a list, whose first entry has a given index, each with all nodes below it. -/
def spotsAll (path : Path) (index : Nat) (entries : List Value) : List Spot :=
  match entries with
  | [] => []
  | v :: rest =>
    (match opened : entryOf? v with
      | some (kind, body) =>
        have := sizeOf_entryOf?_lt opened
        spots (path ++ [.item index] ++ [.body kind]) kind body
      | none => []) ++ spotsAll path (index + 1) rest
termination_by sizeOf entries

end

theorem spots_leaf {kind : Kind} (leaf : Contract.lists kind = []) (path : Path) (body : Fields) :
    spots path kind body = [⟨path, kind, body⟩] := by
  cases kind with
  | page | container | form => simp [Contract.lists] at leaf
  | _ =>
      rw [spots]
      all_goals rintro ⟨⟩

theorem spotsAll_one {v : Value} {kind : Kind} {body : Fields} (path : Path) (index : Nat)
    (opened : entryOf? v = some (kind, body)) :
    spotsAll path index [v] = spots (path ++ [.item index] ++ [.body kind]) kind body := by
  rw [spotsAll, spotsAll, List.append_nil]
  split
  · rename_i found
    obtain ⟨rfl, rfl⟩ := Prod.mk.inj (Option.some.inj (opened.symm.trans found))
    rfl
  · rename_i missing
    cases opened.symm.trans missing

theorem spotsAll_cons (path : Path) (index : Nat) (v : Value) (rest : List Value) :
    spotsAll path index (v :: rest) =
      spotsAll path index [v] ++ spotsAll path (index + 1) rest := by
  rw [spotsAll, spotsAll, spotsAll, List.append_nil]

/-! ### Where the nodes are -/

/-- The fields of a node stand at a path: there is their mapping, or null for no fields. -/
def HoldsAt (d : Value) (path : Path) (body : Fields) : Prop :=
  follow? d (whole path) = some (.map body) ∨ follow? d (whole path) = some .null ∧ body = []

/-- The entries of a list, the first of which has a given index, stand below a path. -/
def ListedAt (d : Value) (path : Path) (index : Nat) (entries : List Value) : Prop :=
  ∀ k v, entries[k]? = some v → follow? d (whole (path ++ [.item (index + k)])) = some v

section

variable {d : Value} {path : Path} {body : Fields}

theorem HoldsAt.field (holds : HoldsAt d path body) {name : String} {v : Value}
    (found : Value.field? name body = some v) :
    follow? d (whole (path ++ [.field name])) = some v := by
  rcases holds with there | ⟨_, rfl⟩
  · exact (follow?_snoc there (.field name)).trans found
  · cases found

/-- What points into the fields of a node points from there on, too. -/
theorem HoldsAt.points (holds : HoldsAt d path body) {step : Step} {more : Path}
    (points : PointsInto (.map body) (step :: more)) (dotted : step.IsDotted) :
    PointsInto d (whole (path ++ step :: more)) := by
  rcases holds with there | ⟨there, rfl⟩
  · exact points.append there
  · have empty (rest : Path) (w : Value) : follow? (.map []) (step :: rest) ≠ some w := by
      rw [follow?, List.foldlM_cons]
      cases step <;> simp [Step.from?, Value.field?]
    generalize same : step :: more = rest at points
    cases points with
    | whole found =>
        subst same
        exact absurd found (empty more _)
    | front before last _ found =>
        -- The only way into no fields at all is the name of a missing one.
        cases before with
        | nil =>
            obtain ⟨rfl, rfl⟩ := List.cons.inj same
            exact .front _ _ dotted there
        | cons _ _ =>
            obtain ⟨rfl, -⟩ := List.cons.inj same
            exact absurd found (empty _ _)

theorem HoldsAt.listed (holds : HoldsAt d path body) (name : String) :
    ListedAt d (path ++ [.field name]) 0 (listed body name) := by
  intro k v inside
  unfold Content.listed at inside
  split at inside
  · rename_i entries found
    have list := holds.field found
    rw [Nat.zero_add]
    exact (follow?_snoc list (.item k)).trans inside
  · cases inside

theorem holdsAt_of_entryOf? {v : Value} {kind : Kind} (there : follow? d (whole path) = some v)
    (opened : entryOf? v = some (kind, body)) : HoldsAt d (path ++ [.body kind]) body := by
  have inside {key held : Value} (named : Kind.ofKey? key = some kind) :
      (Step.body kind).from? (.map [(key, held)]) = some held := by
    obtain ⟨rfl, -⟩ := ofKey?_eq_some_iff.mp named
    simp [Step.from?, Value.field?, Value.sameKey]
  unfold entryOf? at opened
  split at opened
  · obtain ⟨found, named, same⟩ := Option.map_eq_some_iff.mp opened
    cases same
    exact .inr ⟨(follow?_snoc there (.body kind)).trans (inside named), rfl⟩
  · obtain ⟨found, named, same⟩ := Option.map_eq_some_iff.mp opened
    cases same
    exact .inl ((follow?_snoc there (.body kind)).trans (inside named))
  · cases opened

theorem ListedAt.first {index : Nat} {v : Value} {rest : List Value}
    (listed : ListedAt d path index (v :: rest)) :
    follow? d (whole (path ++ [.item index])) = some v := listed 0 v rfl

theorem ListedAt.rest {index : Nat} {v : Value} {rest : List Value}
    (listed : ListedAt d path index (v :: rest)) : ListedAt d path (index + 1) rest := by
  intro k w inside
  have behind := listed (k + 1) w inside
  rwa [Nat.add_comm k, ← Nat.add_assoc] at behind

end

/-- Nodes that stand at their paths, which are different ones from some set. -/
structure Laid (d : Value) (among : Path → Prop) (laid : List Spot) : Prop where
  inside : ∀ spot ∈ laid, among spot.path
  holds : ∀ spot ∈ laid, HoldsAt d spot.path spot.body
  apart : laid.Pairwise fun a b => a.path ≠ b.path

section

variable {d : Value} {among others within : Path → Prop} {first second : List Spot}

theorem laid_one {path : Path} {body : Fields} (holds : HoldsAt d path body) (kind : Kind) :
    Laid d (· = path) [⟨path, kind, body⟩] where
  inside := List.forall_mem_singleton.mpr rfl
  holds := List.forall_mem_singleton.mpr holds
  apart := List.pairwise_singleton _ _

theorem Laid.mono (laid : Laid d among first) (all : ∀ p, among p → others p) :
    Laid d others first :=
  { laid with inside := fun spot member => all _ (laid.inside spot member) }

theorem Laid.append (left : Laid d among first) (right : Laid d others second)
    (differ : ∀ p q, among p → others q → p ≠ q) (all : ∀ p, among p ∨ others p → within p) :
    Laid d within (first ++ second) where
  inside := List.forall_mem_append.mpr
    ⟨fun spot member => all _ (.inl (left.inside spot member)),
      fun spot member => all _ (.inr (right.inside spot member))⟩
  holds := List.forall_mem_append.mpr ⟨left.holds, right.holds⟩
  apart := List.pairwise_append.mpr ⟨left.apart, right.apart, fun a memberA b memberB =>
    differ _ _ (left.inside a memberA) (right.inside b memberB)⟩

end

/-- Paths that part after a common front are different. -/
theorem ne_of_parted {front p q : Path} {a b : Step} (differ : a ≠ b)
    (first : front ++ [a] <+: p) (second : front ++ [b] <+: q) : p ≠ q := by
  rintro rfl
  have one := List.prefix_of_prefix_length_le first second (by simp)
  have same := one.eq_of_length (by simp)
  exact differ (List.singleton_inj.mp (List.append_cancel_left same))

/-- The paths below the entries of a list from an index on. -/
def Below (path : Path) (index : Nat) (p : Path) : Prop :=
  ∃ i, index ≤ i ∧ path ++ [.item i] <+: p

theorem prefix_of_below {path p : Path} {index : Nat} (below : Below path index p) : path <+: p :=
  have ⟨_, _, front⟩ := below
  (List.prefix_append _ _).trans front

/-- A node comes before the nodes of its lists. -/
theorem laid_cons {d : Value} {path : Path} {body : Fields} {held : List Spot}
    (holds : HoldsAt d path body) (kind : Kind)
    (below : Laid d (fun p => ∃ name, Below (path ++ [.field name]) 0 p) held) :
    Laid d (path <+: ·) (⟨path, kind, body⟩ :: held) := by
  have longer {name : String} {p : Path} (inside : Below (path ++ [.field name]) 0 p) :
      path ++ [.field name] <+: p := prefix_of_below inside
  refine (laid_one holds kind).append below ?_ ?_
  · rintro p q rfl ⟨name, inside⟩ rfl
    have length := (longer inside).length_le
    simp at length
  · rintro p (here | ⟨name, inside⟩)
    · exact here ▸ List.prefix_rfl
    · exact (List.prefix_append _ _).trans (longer inside)

mutual

theorem laid_spots {d : Value} {path : Path} (kind : Kind) {body : Fields}
    (holds : HoldsAt d path body) : Laid d (path <+: ·) (spots path kind body) := by
  have list (name : String) : Laid d (Below (path ++ [.field name]) 0)
      (spotsAll (path ++ [.field name]) 0 (listed body name)) :=
    -- The recursion ends since a list is smaller than the fields among which it stands.
    have smaller := sizeOf_listed_lt body name
    laid_spotsAll (holds.listed name)
  cases kind with
  | page | container =>
      rw [spots]
      exact laid_cons holds _ ((list "components").mono fun p below => ⟨"components", below⟩)
  | form =>
      rw [spots]
      refine laid_cons holds _ ((list "fields").append (list "actions") ?_ ?_)
      · exact fun p q first second =>
          ne_of_parted (by simp) (prefix_of_below first) (prefix_of_below second)
      · rintro p (below | below)
        · exact ⟨"fields", below⟩
        · exact ⟨"actions", below⟩
  | _ =>
      rw [spots_leaf rfl]
      exact laid_cons holds _ ⟨nofun, nofun, .nil⟩
termination_by sizeOf body + 1

theorem laid_spotsAll {d : Value} {path : Path} {index : Nat} {entries : List Value}
    (listed : ListedAt d path index entries) :
    Laid d (Below path index) (spotsAll path index entries) := by
  match entries, listed with
  | [], _ =>
      rw [spotsAll]
      exact ⟨nofun, nofun, .nil⟩
  | v :: rest, listed =>
      have others := laid_spotsAll listed.rest
      have later {p : Path} (below : Below path (index + 1) p) : Below path index p :=
        have ⟨i, behind, front⟩ := below
        ⟨i, by omega, front⟩
      rw [spotsAll_cons]
      cases opened : entryOf? v with
      | none =>
          have none : spotsAll path index [v] = [] := by
            rw [spotsAll, spotsAll, List.append_nil]
            split
            · rename_i found
              cases opened.symm.trans found
            · rfl
          rw [none]
          exact others.mono fun p => later
      | some entry =>
          obtain ⟨kind, body⟩ := entry
          have fewer := sizeOf_entryOf?_lt opened
          have here := laid_spots kind (holdsAt_of_entryOf? listed.first opened)
          have front {p : Path} (below : path ++ [.item index] ++ [.body kind] <+: p) :
              path ++ [.item index] <+: p := (List.prefix_append _ _).trans below
          rw [spotsAll_one path index opened]
          refine here.append others ?_ ?_
          · rintro p q below ⟨i, behind, other⟩
            exact ne_of_parted (by simp; omega) (front below) other
          · rintro p (below | below)
            · exact ⟨index, Nat.le_refl index, front below⟩
            · exact later below
termination_by sizeOf entries

end

end Wireframe.Document
