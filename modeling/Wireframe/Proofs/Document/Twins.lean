import Wireframe.Proofs.Document.Alike
import Wireframe.Proofs.Overlong
import Wireframe.Proofs.Document.Walk

/-! # Building from alike values

Two runs of building, over values that are alike, go side by side: both give the same, or both
fail, and what is seen of the two faults is the same. How much is seen of a fault depends on the
fields whose values are kept (`Wireframe.Document.Regard`): a message quotes the value of a field
that takes one of a few words, and ids are told apart by texts that show the order of keys.
-/

namespace Wireframe.Document

open Contract (Place)

open Content

/-! ## What is seen of a fault -/

/-- The fields of a kind that take one of a few words. -/
def words : Kind → List String
  | .page | .container => ["layout"]
  | .text | .alert => ["variant"]
  | .button => ["kind"]
  | .input => ["type"]
  | .divider => ["orientation"]
  | .checkbox | .radio | .select | .form => []

/-- The fields whose values are kept, and what is seen of a fault. Ids are kept unless all faults
look alike; words are kept unless their literals are not seen. -/
structure Regard (β : Type) where
  keeps : Kind → String → Prop
  view : Fault → β
  idsKept : (∀ kind, keeps kind "id") ∨ ∀ fault other, view fault = view other
  wordsKept : (∀ kind, ∀ name ∈ words kind, keeps kind name) ∨
    ∀ path name literal other options,
      view (.schema ⟨path, .field ⟨name, [], .notChoice literal options⟩⟩) =
        view (.schema ⟨path, .field ⟨name, [], .notChoice other options⟩⟩)

/-- Two results are the same, or both are errors of which the same is seen. -/
def SameUnder {α ε φ : Type} (view : ε → φ) (result other : Except ε α) : Prop :=
  result.mapError view = other.mapError view

section

variable {α β ε φ : Type} {view : ε → φ} {result other : Except ε α}

theorem sameUnder_of_eq (same : result = other) : SameUnder view result other := by
  rw [same, SameUnder]

theorem sameUnder_error {e f : ε} (same : view e = view f) :
    SameUnder view (.error e : Except ε α) (.error f) := congrArg Except.error same

theorem toOption_of_sameUnder (same : SameUnder view result other) :
    result.toOption = other.toOption := by
  unfold SameUnder at same
  cases result with
  | error e =>
      cases other with
      | error f => rfl
      | ok b => cases same
  | ok a =>
      cases other with
      | error f => cases same
      | ok b =>
          cases same
          rfl

theorem eq_of_sameUnder (same : SameUnder (fun e => e) result other) : result = other := by
  unfold SameUnder at same
  cases result <;> cases other <;> exact same

theorem sameUnder_bind {next follow : α → Except ε β} (first : SameUnder view result other)
    (second : ∀ a, SameUnder view (next a) (follow a)) :
    SameUnder view (result >>= next) (other >>= follow) := by
  unfold SameUnder at first
  cases result with
  | error e =>
      cases other with
      | error f => exact sameUnder_error (Except.error.inj first)
      | ok b => cases first
  | ok a =>
      cases other with
      | error f => cases first
      | ok b =>
          cases first
          exact second a

theorem sameUnder_map (f : α → β) (same : SameUnder view result other) :
    SameUnder view (f <$> result) (f <$> other) := by
  rw [← bind_pure_comp, ← bind_pure_comp]
  exact sameUnder_bind same fun a => sameUnder_of_eq rfl

theorem sameUnder_mapError {ψ : Type} {f : ψ → ε} {first second : Except ψ α}
    (same : SameUnder (fun e => view (f e)) first second) :
    SameUnder view (first.mapError f) (second.mapError f) := by
  unfold SameUnder at same ⊢
  cases first <;> cases second <;> exact same

end

/-! ## Bodies of a kind -/

section

variable {β : Type} {regard : Regard β} {kind : Kind} {body other : Fields}

/-- How the fault of a field in a node at a path is reported. -/
def reported (path : Path) (fault : FieldFault) : Fault :=
  match fault.cause with
  | .unquotable => .scalar .overlong
  | _ => .schema ⟨path ++ .field fault.field :: fault.within, .field fault⟩

/-- What is seen of the fault of a field in a node at a path. -/
def Regard.seen (regard : Regard β) (path : Path) (fault : FieldFault) : β :=
  regard.view (reported path fault)

/-- Two bodies of a kind that are alike. -/
structure BodyAlike (regard : Regard β) (kind : Kind) (body other : Fields) : Prop where
  alike : Alike regard.keeps (.body kind) (.map body) (.map other)
  valid : (Value.map body).WellFormed

theorem counts_of_mem {name : String} (member : name ∈ bodyKeys kind) :
    (Role.body kind).counts (.text name) = true := by
  simp only [Role.counts, Role.keys?, Option.all_some, List.any_eq_true]
  exact ⟨name, member, Contract.sameKey_text_iff.mpr rfl⟩

theorem BodyAlike.field (bodies : BodyAlike regard kind body other) {name : String}
    (member : name ∈ bodyKeys kind) :
    Value.field? name body = none ∧ Value.field? name other = none ∨
      ∃ v w, Value.field? name body = some v ∧ Value.field? name other = some w ∧
        FieldAlike regard.keeps (.body kind) name v w :=
  bodies.alike.field? (Value.wellFormed_map_iff.mp bodies.valid).2.1 (counts_of_mem member)

theorem BodyAlike.hasField (bodies : BodyAlike regard kind body other) {name : String}
    (member : name ∈ bodyKeys kind) : Value.hasField name body = Value.hasField name other := by
  unfold Value.hasField
  rcases bodies.field member with ⟨missing, gone⟩ | ⟨v, w, found, there, _⟩
  · rw [missing, gone]
  · rw [found, there]
    rfl

/-! ## Values of fields -/

mutual

/-- In plain values, the order of keys does not matter to whether there is a number that cannot be
written. -/
theorem isOverlong_of_alike {keeps : Kind → String → Prop} {v w : Value}
    (alike : Alike keeps .plain v w) : v.isOverlong = w.isOverlong := by
  match v, w, alike with
  | _, _, .same _ _ => rfl
  | _, _, .list each => exact anyOverlong_of_alike each
  | _, _, .tuple each => exact anyOverlong_of_alike each
  | _, _, @Alike.map _ _ entries middle others each order =>
      have all (entries : Fields) : Role.plain.counted entries = entries :=
        List.filter_eq_self.mpr fun _ _ => rfl
      rw [all] at each order
      rw [Value.isOverlong, Value.isOverlong, anyOverlongEntry_of_alike each,
        Value.anyOverlongEntry_of_perm order]

theorem anyOverlong_of_alike {keeps : Kind → String → Prop} {items others : List Value}
    (each : AlikeItems keeps .plain items others) :
    Value.anyOverlong items = Value.anyOverlong others := by
  match items, others, each with
  | [], [], .nil _ => rfl
  | v :: items, w :: others, .cons first rest =>
      rw [Value.anyOverlong, Value.anyOverlong, isOverlong_of_alike first,
        anyOverlong_of_alike rest]

theorem anyOverlongEntry_of_alike {keeps : Kind → String → Prop} {entries others : Fields}
    (each : AlikeEntries keeps .plain entries others) :
    Value.anyOverlongEntry entries = Value.anyOverlongEntry others := by
  match entries, others, each with
  | [], [], .nil _ => rfl
  | (key, v) :: entries, (_, w) :: others, .cons value _ rest =>
      rw [Value.anyOverlongEntry, Value.anyOverlongEntry, isOverlong_of_alike value,
        anyOverlongEntry_of_alike rest]

end

section

variable {keeps : Kind → String → Prop} {role : Role} {v w : Value}

theorem text_of_alike (alike : Alike keeps role v w) : Field.text v = Field.text w := by
  cases alike <;> rfl

theorem optionalText_of_alike (alike : Alike keeps role v w) :
    Field.optionalText v = Field.optionalText w := by
  cases alike <;> rfl

theorem choiceText_of_alike (alike : Alike keeps role v w) :
    Field.choiceText v = Field.choiceText w := by
  cases alike <;> rfl

theorem bool_of_alike (alike : Alike keeps role v w) : Field.bool v = Field.bool w := by
  cases alike <;> rfl

theorem under_of_word {name : String} (member : name ∈ words kind) :
    (Role.body kind).under (.text name) = .plain := by
  cases kind with
  | checkbox | radio | select | form => cases member
  | _ =>
      obtain rfl := List.mem_singleton.mp member
      decide

theorem notWord_of_not_halved (plain : v.isHalved = false) (options : List String) :
    Field.notWord options v =
      if v.isOverlong then .unquotable else .notChoice v.literal options := by
  cases v with
  | halved codes => cases plain
  | _ => rfl

/-- Of a wrong word that is not kept, the literal is not seen. -/
theorem sameUnder_word {α : Type} [Named α] {name : String} (member : name ∈ words kind)
    (values : FieldAlike regard.keeps (.body kind) name v w) (path : Path) :
    SameUnder (fun cause => regard.seen path ⟨name, [], cause⟩) (Field.word α v)
      (Field.word α w) := by
  rcases regard.wordsKept with kept | unseen
  · exact sameUnder_of_eq (congrArg _ (values.kept (kept kind name member)))
  · have plain : (Role.body kind).under (.text name) = .plain := under_of_word member
    have alike := values.alike
    rw [plain] at alike
    have weight := isOverlong_of_alike alike
    have seen {v w : Value} (weight : v.isOverlong = w.isOverlong)
        (plain : v.isHalved = false) (also : w.isHalved = false) (options : List String) :
        regard.seen path ⟨name, [], Field.notWord options v⟩ =
          regard.seen path ⟨name, [], Field.notWord options w⟩ := by
      rw [notWord_of_not_halved plain, notWord_of_not_halved also, weight]
      split
      · rfl
      · exact unseen _ _ _ _ _
    cases alike with
    | same => exact sameUnder_of_eq rfl
    | _ => exact sameUnder_error (seen weight rfl rfl _)

/-- What is read of a choice depends on the texts under its two keys. -/
theorem choice_of_alike (alike : Alike keeps .choice v w) (valid : v.WellFormed) (index : Nat) :
    Field.choice index v = Field.choice index w := by
  cases alike with
  | same => rfl
  | list | tuple => rfl
  | map each order =>
      have distinct := (Value.wellFormed_map_iff.mp valid).2.1
      have label := (Alike.map each order).field? distinct
        (show Role.choice.counts (.text "label") = true by decide)
      have value := (Alike.map each order).field? distinct
        (show Role.choice.counts (.text "value") = true by decide)
      rcases label with ⟨missing, gone⟩ | ⟨l, m, found, there, labels⟩
      · simp only [Field.choice, missing, gone]
        rfl
      rcases value with ⟨missing, gone⟩ | ⟨x, y, given, other, values⟩
      · simp only [Field.choice, found, there, choiceText_of_alike labels.alike, missing, gone]
      · simp only [Field.choice, found, there, choiceText_of_alike labels.alike, given, other,
          choiceText_of_alike values.alike]

theorem choices_of_alike {items others : List Value} (each : AlikeItems keeps .choice items others)
    (valid : ∀ v ∈ items, v.WellFormed) (index : Nat) :
    Field.choices index items = Field.choices index others := by
  match items, others, each with
  | [], [], .nil _ => rfl
  | v :: items, w :: others, .cons first rest =>
      obtain ⟨here, behind⟩ := List.forall_mem_cons.mp valid
      rw [Field.choices, Field.choices, choice_of_alike first here index,
        choices_of_alike rest behind (index + 1)]

end

/-! ## Fields -/

theorem options_of_alike (bodies : BodyAlike regard kind body other)
    (member : "options" ∈ bodyKeys kind)
    (offers : (Role.body kind).under (.text "options") = .choices) :
    Field.options body = Field.options other := by
  unfold Field.options
  rcases bodies.field member with ⟨missing, gone⟩ | ⟨v, w, found, there, values⟩
  · rw [missing, gone]
  · have valid := Value.wellFormed_of_field? bodies.valid found
    have alike := values.alike
    rw [offers] at alike
    rw [found, there]
    cases alike with
    | same => rfl
    | list each =>
        cases valid with
        | scalar plain => cases plain
        | list held => exact choices_of_alike each held 0
    | tuple each =>
        cases valid with
        | scalar plain => cases plain
        | tuple held => exact choices_of_alike each held 0
    | map => rfl

section

variable {α : Type} {name : String} {read : Value → Except FieldCause α} {path : Path}

/-- A field of alike values is read alike if its values are. -/
theorem sameUnder_required (bodies : BodyAlike regard kind body other)
    (member : name ∈ bodyKeys kind)
    (reads : ∀ v w, FieldAlike regard.keeps (.body kind) name v w →
      SameUnder (fun cause => regard.seen path ⟨name, [], cause⟩) (read v) (read w)) :
    SameUnder (regard.seen path) (Field.required body name read)
      (Field.required other name read) := by
  unfold Field.required
  rcases bodies.field member with ⟨missing, gone⟩ | ⟨v, w, found, there, values⟩
  · rw [missing, gone]
    rfl
  · rw [found, there]
    exact sameUnder_mapError (reads v w values)

theorem sameUnder_withDefault (bodies : BodyAlike regard kind body other)
    (member : name ∈ bodyKeys kind) {default : α}
    (reads : ∀ v w, FieldAlike regard.keeps (.body kind) name v w →
      SameUnder (fun cause => regard.seen path ⟨name, [], cause⟩) (read v) (read w)) :
    SameUnder (regard.seen path) (Field.withDefault body name default read)
      (Field.withDefault other name default read) := by
  unfold Field.withDefault
  rcases bodies.field member with ⟨missing, gone⟩ | ⟨v, w, found, there, values⟩
  · rw [missing, gone]
    rfl
  · rw [found, there]
    exact sameUnder_mapError (reads v w values)

end

section

variable (bodies : BodyAlike regard kind body other) (path : Path)

include bodies

theorem BodyAlike.text {name : String} (member : name ∈ bodyKeys kind) :
    SameUnder (regard.seen path) (Field.required body name Field.text)
      (Field.required other name Field.text) :=
  sameUnder_required bodies member fun _ _ values => sameUnder_of_eq (text_of_alike values.alike)

theorem BodyAlike.optionalText {name : String} (member : name ∈ bodyKeys kind) :
    SameUnder (regard.seen path) (Field.withDefault body name none Field.optionalText)
      (Field.withDefault other name none Field.optionalText) :=
  sameUnder_withDefault bodies member fun _ _ values =>
    sameUnder_of_eq (optionalText_of_alike values.alike)

theorem BodyAlike.bool {name : String} (member : name ∈ bodyKeys kind) :
    SameUnder (regard.seen path) (Field.withDefault body name false Field.bool)
      (Field.withDefault other name false Field.bool) :=
  sameUnder_withDefault bodies member fun _ _ values =>
    sameUnder_of_eq (bool_of_alike values.alike)

theorem BodyAlike.word (α : Type) [Named α] {name : String} (member : name ∈ bodyKeys kind)
    (one : name ∈ words kind) :
    SameUnder (regard.seen path) (Field.required body name (Field.word α))
      (Field.required other name (Field.word α)) :=
  sameUnder_required bodies member fun _ _ values => sameUnder_word one values path

theorem BodyAlike.wordOr {α : Type} [Named α] (default : α) {name : String}
    (member : name ∈ bodyKeys kind) (one : name ∈ words kind) :
    SameUnder (regard.seen path) (Field.withDefault body name default (Field.word α))
      (Field.withDefault other name default (Field.word α)) :=
  sameUnder_withDefault bodies member fun _ _ values => sameUnder_word one values path

theorem BodyAlike.id : SameUnder (regard.seen path) (Field.id body) (Field.id other) :=
  bodies.optionalText path (by cases kind <;> decide)

end

/-- Bodies that are alike give the same texts, and so the same numbers that cannot be written. -/
theorem BodyAlike.weigh (bodies : BodyAlike regard kind body other) :
    Build.weigh kind body = Build.weigh kind other := by
  have heavy {name : String} (member : name ∈ kind.textFields) :
      (Value.field? name body).any Value.isOverlongNumber =
        (Value.field? name other).any Value.isOverlongNumber := by
    have counts : name ∈ bodyKeys kind := by
      revert name
      cases kind <;> decide
    rcases bodies.field counts with ⟨missing, gone⟩ | ⟨v, w, found, there, values⟩
    · rw [missing, gone]
    · rw [found, there]
      cases values.alike <;> rfl
  have same : (kind.textFields.any fun name =>
      (Value.field? name body).any Value.isOverlongNumber) = kind.textFields.any fun name =>
        (Value.field? name other).any Value.isOverlongNumber := by
    rw [Bool.eq_iff_iff, List.any_eq_true, List.any_eq_true]
    exact exists_congr fun name => and_congr_right fun member => by rw [heavy member]
  rw [Build.weigh, Build.weigh, same]

/-! ## Nodes that hold no components -/

section

variable {path : Path}

/-- Reading the bodies of a kind begins with the id, and goes alike for alike bodies. -/
structure ReadsAlike {α : Type} (regard : Regard β) (kind : Kind)
    (read : Fields → Except FieldFault α) : Prop where
  begins : ∀ body, ∃ next, read body = Field.id body >>= next
  alike : ∀ path body other, BodyAlike regard kind body other →
    SameUnder (regard.seen path) (read body) (read other)

theorem readsAlike_text : ReadsAlike regard .text TextBlock.read where
  begins body := ⟨_, rfl⟩
  alike path body other bodies :=
    sameUnder_bind (bodies.id path) fun _ =>
      sameUnder_bind (bodies.word path TextVariant (by decide) (by decide)) fun _ =>
        sameUnder_bind (bodies.text path (by decide)) fun _ => sameUnder_of_eq rfl

theorem readsAlike_button : ReadsAlike regard .button Button.read where
  begins body := ⟨_, rfl⟩
  alike path body other bodies :=
    sameUnder_bind (bodies.id path) fun _ =>
      sameUnder_bind (bodies.word path ButtonKind (by decide) (by decide)) fun _ =>
        sameUnder_bind (bodies.text path (by decide)) fun _ =>
          sameUnder_bind (bodies.bool path (by decide)) fun _ =>
            sameUnder_bind (bodies.bool path (by decide)) fun _ => sameUnder_of_eq rfl

theorem readsAlike_input : ReadsAlike regard .input Input.read where
  begins body := ⟨_, rfl⟩
  alike path body other bodies :=
    sameUnder_bind (bodies.id path) fun _ =>
      sameUnder_bind (bodies.text path (by decide)) fun _ =>
        sameUnder_bind (bodies.text path (by decide)) fun _ =>
          sameUnder_bind (bodies.wordOr path InputType.text (by decide) (by decide)) fun _ =>
            sameUnder_bind (bodies.bool path (by decide)) fun _ =>
              sameUnder_bind (bodies.optionalText path (by decide)) fun _ =>
                sameUnder_bind (bodies.bool path (by decide)) fun _ => sameUnder_of_eq rfl

theorem readsAlike_checkbox : ReadsAlike regard .checkbox Checkbox.read where
  begins body := ⟨_, rfl⟩
  alike path body other bodies :=
    sameUnder_bind (bodies.id path) fun _ =>
      sameUnder_bind (bodies.text path (by decide)) fun _ =>
        sameUnder_bind (bodies.text path (by decide)) fun _ =>
          sameUnder_bind (bodies.bool path (by decide)) fun _ =>
            sameUnder_bind (bodies.bool path (by decide)) fun _ => sameUnder_of_eq rfl

theorem readsAlike_radio : ReadsAlike regard .radio Radio.read where
  begins body := ⟨_, rfl⟩
  alike path body other bodies :=
    sameUnder_bind (bodies.id path) fun _ =>
      sameUnder_bind (bodies.text path (by decide)) fun _ =>
        sameUnder_bind (bodies.text path (by decide)) fun _ =>
          sameUnder_bind (sameUnder_of_eq (options_of_alike bodies (by decide) (by decide)))
            fun _ => sameUnder_bind (bodies.bool path (by decide)) fun _ => sameUnder_of_eq rfl

theorem readsAlike_select : ReadsAlike regard .select Select.read where
  begins body := ⟨_, rfl⟩
  alike path body other bodies :=
    sameUnder_bind (bodies.id path) fun _ =>
      sameUnder_bind (bodies.text path (by decide)) fun _ =>
        sameUnder_bind (bodies.text path (by decide)) fun _ =>
          sameUnder_bind (sameUnder_of_eq (options_of_alike bodies (by decide) (by decide)))
            fun _ => sameUnder_bind (bodies.optionalText path (by decide)) fun _ =>
              sameUnder_bind (bodies.bool path (by decide)) fun _ =>
                sameUnder_bind (bodies.bool path (by decide)) fun _ => sameUnder_of_eq rfl

theorem readsAlike_divider : ReadsAlike regard .divider Divider.read where
  begins body := ⟨_, rfl⟩
  alike path body other bodies :=
    sameUnder_bind (bodies.id path) fun _ =>
      sameUnder_bind (bodies.wordOr path Orientation.horizontal (by decide) (by decide)) fun _ =>
        sameUnder_of_eq rfl

theorem readsAlike_alert : ReadsAlike regard .alert Alert.read where
  begins body := ⟨_, rfl⟩
  alike path body other bodies :=
    sameUnder_bind (bodies.id path) fun _ =>
      sameUnder_bind (bodies.word path Severity (by decide) (by decide)) fun _ =>
        sameUnder_bind (bodies.text path (by decide)) fun _ =>
          sameUnder_bind (bodies.optionalText path (by decide)) fun _ => sameUnder_of_eq rfl

end

end

end Wireframe.Document
