import Mathlib.Data.List.Nodup
import Wireframe.Document.Read
import Wireframe.Proofs.Document.Fields

/-! # What is accepted as a document

Building a document succeeds exactly for the mappings that meet the contract
(`Wireframe.Document.succeeds_build`).

A step of building takes ids as it goes. What it accepts is told by the lists of ids that it
can take, each by the code points of its text: a step accepts such lists if it succeeds, and
takes them, as long as they bring no id twice, and if it succeeds in no other way. Steps that
follow each other take their lists one after the other, so the steps of a builder can be
judged one by one.
-/

namespace Wireframe.Document

open Contract

/-! ## Steps that take ids -/

/-- The ids that are taken. -/
def taken (ids : Ids) : List (List Nat) := ids.map Prod.fst

/-- A step of building takes the lists of ids for which something holds, and no others. -/
def Accepts {α : Type} (step : Build α) (takes : List (List Nat) → Prop) : Prop :=
  ∀ ids : Ids, (taken ids).Nodup →
    (∀ texts, takes texts → (taken ids ++ texts).Nodup →
      ∃ done, step.run ids = .ok done ∧ taken done.2 = taken ids ++ texts) ∧
    ∀ done, step.run ids = .ok done →
      ∃ texts, takes texts ∧ (taken ids ++ texts).Nodup ∧ taken done.2 = taken ids ++ texts

section

variable {α β : Type} {step : Build α} {next : α → Build β} {takes follows : List (List Nat) → Prop}

theorem accepts_congr {other : List (List Nat) → Prop} (accepts : Accepts step takes)
    (same : ∀ texts, other texts ↔ takes texts) : Accepts step other := by
  have equal : other = takes := funext fun texts => propext (same texts)
  rw [equal]
  exact accepts

theorem accepts_pure (a : α) : Accepts (pure a) fun texts => texts = [] := by
  intro ids distinct
  constructor
  · rintro texts rfl _
    exact ⟨(a, ids), rfl, (List.append_nil _).symm⟩
  · rintro done ⟨⟩
    exact ⟨[], rfl, by rwa [List.append_nil], (List.append_nil _).symm⟩

theorem accepts_throw (fault : Fault) : Accepts (throw fault : Build α) fun _ => False := by
  intro ids _
  exact ⟨fun _ absurd => absurd.elim, fun done same => by cases same⟩

/-- A step that follows a result which takes no ids. -/
theorem accepts_lift {γ : Type} {result : Except Fault γ} {next : γ → Build α}
    {takes : γ → List (List Nat) → Prop}
    (accepts : ∀ x, result = .ok x → Accepts (next x) (takes x)) :
    Accepts (liftM result >>= next) fun texts => ∃ x, result = .ok x ∧ takes x texts := by
  cases result with
  | error fault =>
      refine accepts_congr (accepts_throw fault) fun texts => ?_
      simp
  | ok x =>
      refine accepts_congr (accepts x rfl) fun texts => ?_
      simp

/-- Steps that follow each other take their ids one after the other. -/
theorem accepts_bind (first : Accepts step takes) (second : ∀ a, Accepts (next a) follows) :
    Accepts (step >>= next)
      fun texts => ∃ mine more, texts = mine ++ more ∧ takes mine ∧ follows more := by
  intro ids distinct
  have run : (step >>= next).run ids = step.run ids >>= fun done => (next done.1).run done.2 := rfl
  constructor
  · rintro _ ⟨mine, more, rfl, takesMine, followsMore⟩ fresh
    rw [← List.append_assoc] at fresh
    -- What the first step takes counts as taken before the second.
    obtain ⟨done, ran, now⟩ := (first ids distinct).1 mine takesMine fresh.of_append_left
    rw [← now] at fresh
    obtain ⟨last, ended, after⟩ :=
      (second done.1 done.2 fresh.of_append_left).1 more followsMore fresh
    refine ⟨last, ?_, ?_⟩
    · rw [run, ran]
      exact ended
    · rw [after, now, List.append_assoc]
  · intro last ended
    rw [run] at ended
    cases ran : step.run ids with
    | error fault =>
        rw [ran] at ended
        cases ended
    | ok done =>
        rw [ran] at ended
        obtain ⟨mine, takesMine, fresh, now⟩ := (first ids distinct).2 done ran
        rw [← now] at fresh
        obtain ⟨more, followsMore, all, after⟩ := (second done.1 done.2 fresh).2 last ended
        refine ⟨mine ++ more, ⟨mine, more, rfl, takesMine, followsMore⟩, ?_, ?_⟩
        · rwa [now, List.append_assoc] at all
        · rw [after, now, List.append_assoc]

/-- What is made of the result of a step does not matter to what it takes. -/
theorem accepts_map (f : α → β) (accepts : Accepts step takes) : Accepts (f <$> step) takes := by
  have bound : f <$> step = step >>= fun a => pure (f a) := (bind_pure_comp f step).symm
  rw [bound]
  refine accepts_congr (accepts_bind accepts fun a => accepts_pure (f a)) fun texts => ?_
  simp

/-- A step that takes no ids is a condition on what follows it. -/
theorem accepts_check {holds : Prop} (check : Accepts step fun texts => texts = [] ∧ holds)
    (rest : ∀ a, Accepts (next a) follows) :
    Accepts (step >>= next) fun texts => holds ∧ follows texts := by
  refine accepts_congr (accepts_bind check rest) fun texts => ?_
  constructor
  · rintro ⟨holds, followed⟩
    exact ⟨[], texts, rfl, ⟨rfl, holds⟩, followed⟩
  · rintro ⟨_, more, rfl, ⟨rfl, holds⟩, followed⟩
    exact ⟨holds, followed⟩

end

/-! ## The steps -/

/-- Reading fields takes no ids, and succeeds if they can be read. -/
theorem accepts_read {α : Type} (path : Path) (result : Except FieldFault α) :
    Accepts (Build.read path result) fun texts => texts = [] ∧ Succeeds result := by
  cases result with
  | error fault =>
      unfold Build.read
      split
      · contradiction
      · exact accepts_congr (accepts_throw _) fun texts => by simp
      · exact accepts_congr (accepts_throw _) fun texts => by simp
  | ok a =>
      refine accepts_congr (accepts_pure a) fun texts => ?_
      simp

/-- Refusing a field takes no ids, and succeeds if the field is not there. -/
theorem accepts_refuse (path : Path) (body : Fields) (name : String) (cause : Cause) :
    Accepts (Build.refuse path body name cause)
      fun texts => texts = [] ∧ Value.field? name body = none := by
  unfold Build.refuse Value.hasField
  cases Value.field? name body with
  | none =>
      refine accepts_congr (accepts_pure ()) fun texts => ?_
      simp
  | some v =>
      refine accepts_congr (accepts_throw _) fun texts => ?_
      simp

/-- No text of a node is given as a number that cannot be written. -/
def Light (kind : Kind) (body : Fields) : Prop :=
  ∀ name ∈ kind.textFields, ∀ v, Value.field? name body = some v → v.isOverlongNumber = false

/-- Weighing the fields of a node takes no ids, and succeeds if all its texts can be written. -/
theorem accepts_weigh (kind : Kind) (body : Fields) :
    Accepts (Build.weigh kind body) fun texts => texts = [] ∧ Light kind body := by
  have light : Light kind body ↔ ¬ (kind.textFields.any fun name =>
      (Value.field? name body).any Value.isOverlongNumber) = true := by
    simp [Light, Option.any_eq_false]
  unfold Build.weigh
  split
  · rename_i heavy
    exact accepts_congr (accepts_throw _) fun texts => by simp [light, heavy]
  · rename_i writable
    exact accepts_congr (accepts_pure ()) fun texts => by simp [light, writable]

theorem lookup_eq_none_iff (ids : Ids) (id : List Nat) :
    ids.lookup id = none ↔ id ∉ taken ids := by
  rw [List.lookup_eq_none_iff, taken, List.mem_map]
  constructor
  · rintro missing ⟨other, member, rfl⟩
    simpa using missing other member
  · intro missing other member
    rw [bne_iff_ne]
    rintro rfl
    exact missing ⟨other, member, rfl⟩

theorem run_claim {path : Path} {v : Value} {ids : Ids} (given : v ≠ .null)
    (writable : v.isOverlong = false) : (Build.claim path (some v)).run ids =
      match ids.lookup v.codes with
      | some taken => .error (.schema ⟨path ++ [.field "id"], .duplicateId v.codes taken⟩)
      | none => .ok ((), ids ++ [(v.codes, path)]) := by
  have claims : (Build.claim path (some v)).run ids = (match ids.lookup v.codes with
      | some taken => Build.fail (path ++ [.field "id"]) (.duplicateId v.codes taken)
      | none => MonadStateOf.set (ids ++ [(v.codes, path)]) : Build Unit).run ids := by
    cases v with
    | null => exact absurd rfl given
    | _ =>
        simp only [Build.claim, writable]
        rfl
  rw [claims]
  cases ids.lookup v.codes <;> rfl

theorem claim_overlong {path : Path} {v : Value} (overlong : v.isOverlong = true) :
    Build.claim path (some v) = Build.breakOff := by
  cases v with
  | null => cases overlong
  | _ => simp only [Build.claim, overlong, ↓reduceIte]

/-- Claiming an id takes it, which succeeds if it is not taken already. -/
theorem accepts_claim_given (path : Path) {v : Value} (given : v ≠ .null)
    (writable : v.isOverlong = false) :
    Accepts (Build.claim path (some v)) fun texts => texts = [v.codes] := by
  intro ids distinct
  rw [run_claim given writable]
  cases found : ids.lookup v.codes with
  | some first =>
      have member : v.codes ∈ taken ids := by
        by_contra missing
        rw [(lookup_eq_none_iff ids v.codes).mpr missing] at found
        cases found
      constructor
      · rintro texts rfl fresh
        exact absurd member (List.disjoint_of_nodup_append fresh · List.mem_cons_self)
      · intro done same
        cases same
  | none =>
      have missing := (lookup_eq_none_iff ids v.codes).mp found
      have now : taken (ids ++ [(v.codes, path)]) = taken ids ++ [v.codes] := by
        rw [taken, List.map_append]
        rfl
      constructor
      · rintro texts rfl _
        exact ⟨((), ids ++ [(v.codes, path)]), rfl, now⟩
      · rintro done ⟨⟩
        refine ⟨[v.codes], rfl, ?_, now⟩
        exact distinct.append (List.nodup_singleton _) (by simpa using missing)

theorem ownId_of_given {body : Fields} {v : Value} (found : Value.field? "id" body = some v)
    (given : v ≠ .null) : ownId body = [v.codes] := by
  unfold ownId
  rw [found]
  cases v with
  | null => exact absurd rfl given
  | _ => rfl

/-- The id in a body can be written, if there is one. -/
def Writable (body : Fields) : Prop :=
  ∀ v, Value.field? "id" body = some v → v.isOverlong = false

/-- A node takes its id, which has to be one that can be written. A node without an id claims
nothing. -/
theorem accepts_claim (path : Path) (body : Fields) :
    Accepts (Build.claim path (Value.field? "id" body))
      fun texts => texts = ownId body ∧ Writable body := by
  cases found : Value.field? "id" body with
  | none => exact accepts_congr (accepts_pure ()) fun texts => by simp [ownId, Writable, found]
  | some v =>
      by_cases given : v = .null
      · subst given
        exact accepts_congr (accepts_pure ()) fun texts => by
          simp [ownId, Writable, found, Value.isOverlong]
      cases overlong : v.isOverlong with
      | true =>
          rw [claim_overlong overlong]
          exact accepts_congr (accepts_throw _) fun texts => by simp [Writable, found, overlong]
      | false =>
          exact accepts_congr (accepts_claim_given path given overlong) fun texts => by
            simp [ownId_of_given found given, Writable, found, overlong]

/-! ### Rules for texts -/

theorem isOverlong_of_isText {v : Value} (text : IsText v) : v.isOverlong = false := by
  cases v with
  | int n => exact text
  | list | tuple | set | map => exact text.elim
  | _ => rfl

theorem isOverlong_of_isOptionalText {v : Value} (text : IsOptionalText v) :
    v.isOverlong = false := by
  obtain rfl | text := text
  · rfl
  · exact isOverlong_of_isText text

theorem isOverlongNumber_of_isOverlong {v : Value} (writable : v.isOverlong = false) :
    v.isOverlongNumber = false := by
  cases v with
  | int n => exact writable
  | _ => rfl

/-- What a rule that only admits texts says of the field of its name. -/
theorem Contract.Rule.Holds.writable {rule : Rule} {body : Fields} (holds : rule.Holds body)
    (texts : ∀ v, rule.admits v → v.isOverlong = false) {v : Value}
    (found : Value.field? rule.name body = some v) : v.isOverlong = false := by
  rw [Rule.Holds, found] at holds
  exact texts v holds

/-- Each text of a kind has a rule that only admits texts. -/
theorem rule_of_text {kind : Kind} {name : String} (member : name ∈ kind.textFields) :
    ∃ rule ∈ rules kind, rule.name = name ∧ ∀ v, rule.admits v → v.isOverlong = false := by
  have optional := @isOverlong_of_isOptionalText
  have needed := @isOverlong_of_isText
  cases kind <;>
    simp only [Kind.textFields, List.mem_cons, List.not_mem_nil, or_false] at member <;>
    simp only [rules, List.mem_cons, List.not_mem_nil, or_false, exists_eq_or_imp,
      exists_eq_left, allows, needs] <;>
    grind

theorem writable_of_rules {kind : Kind} {body : Fields}
    (holds : ∀ rule ∈ rules kind, rule.Holds body) {name : String}
    (member : name ∈ kind.textFields) {v : Value} (found : Value.field? name body = some v) :
    v.isOverlong = false := by
  obtain ⟨rule, inside, rfl, texts⟩ := rule_of_text member
  exact (holds rule inside).writable texts found

theorem light_of_rules {kind : Kind} {body : Fields}
    (holds : ∀ rule ∈ rules kind, rule.Holds body) : Light kind body := fun _ member _ found =>
  isOverlongNumber_of_isOverlong (writable_of_rules holds member found)

theorem writable_id_of_rules {kind : Kind} {body : Fields}
    (holds : ∀ rule ∈ rules kind, rule.Holds body) : Writable body := fun _ found =>
  writable_of_rules holds (by cases kind <;> simp [Kind.textFields]) found

/-- The texts of a node that keeps the rules of its kind can all be written. -/
theorem sound_of_rules {kind : Kind} {body : Fields}
    (holds : ∀ rule ∈ rules kind, rule.Holds body) : Writable body ∧ Light kind body :=
  ⟨writable_id_of_rules holds, light_of_rules holds⟩

/-! ## Lists and entries -/

theorem openList_eq_ok_iff {path : Path} {body : Fields} {name : String} {items : List Value} :
    openList path body name = .ok items ↔ Listed (Value.field? name body) items := by
  unfold openList
  cases found : Value.field? name body with
  | none =>
      constructor
      · rintro ⟨⟩
        exact .absent
      · rintro ⟨⟩
        rfl
  | some v =>
      cases v with
      | null =>
          constructor
          · rintro ⟨⟩
            exact .null
          · rintro ⟨⟩
            rfl
      | list entries =>
          constructor
          · rintro ⟨⟩
            exact .list _
          · rintro ⟨⟩
            rfl
      | _ => constructor <;> rintro ⟨⟩

/-- The place of a list, as building knows it. -/
def Contract.Place.slot : Place → Slot
  | components => .anywhere
  | fields => .formFields
  | actions => .formActions

theorem ofKey?_eq_some_iff {key : Value} {kind : Kind} :
    Kind.ofKey? key = some kind ↔ key = .text kind.name ∧ kind ≠ .page := by
  constructor
  · intro found
    cases key with
    | text s =>
        have member := List.mem_of_find?_eq_some found
        have named := List.find?_some found
        refine ⟨congrArg Value.text (beq_iff_eq.mp named).symm, ?_⟩
        rintro rfl
        simp [Kind.components] at member
    | _ => cases found
  · rintro ⟨rfl, inside⟩
    cases kind with
    | page => exact absurd rfl inside
    | _ => decide

/-- A list admits a kind if it restricts nothing or names the kind. -/
theorem restriction_filter_eq_none_iff {place : Place} {kind : Kind} (inside : kind ≠ .page) :
    place.slot.restriction.filter (kind ∉ ·) = none ↔ kind ∈ place.kinds := by
  cases place <;> cases kind <;> first | decide | exact absurd rfl inside

theorem ne_page_of_mem_kinds {place : Place} {kind : Kind} (member : kind ∈ place.kinds) :
    kind ≠ .page := by
  rintro rfl
  cases place <;> simp [Place.kinds] at member

/-- Opening an entry succeeds only for an entry of the list. -/
theorem entry_of_openEntry {place : Place} {path : Path} {entry : Value} {kind : Kind}
    {body : Fields} (opened : openEntry place.slot path entry = .ok (kind, body)) :
    kind ∈ place.kinds ∧ ∃ bare, Entry place entry kind bare ∧
      ∀ ids, Contract.Node kind bare ids ↔ Contract.Node kind body ids := by
  unfold openEntry at opened
  split at opened
  · rename_i key held
    split at opened
    · split at opened <;> cases opened
    · rename_i found named
      obtain ⟨rfl, inside⟩ := ofKey?_eq_some_iff.mp named
      split at opened
      · cases opened
      · rename_i admitted
        have member := (restriction_filter_eq_none_iff inside).mp admitted
        split at opened
        · cases opened
          exact ⟨member, [], .bare member, fun ids => Iff.rfl⟩
        · cases opened
          exact ⟨member, _, .filled member _, fun ids => node_counted⟩
        · cases opened
  · cases opened

/-- Opening an entry of the list succeeds. -/
theorem openEntry_of_entry {place : Place} {entry : Value} {kind : Kind} {bare : Fields}
    (path : Path) (valid : Entry place entry kind bare) :
    ∃ body, openEntry place.slot path entry = .ok (kind, body) ∧
      ∀ ids, Contract.Node kind bare ids ↔ Contract.Node kind body ids := by
  cases valid with
  | bare member =>
      have inside := ne_page_of_mem_kinds member
      refine ⟨[], ?_, fun ids => Iff.rfl⟩
      simp only [openEntry, ofKey?_eq_some_iff.mpr ⟨rfl, inside⟩,
        (restriction_filter_eq_none_iff inside).mpr member]
  | filled member body =>
      have inside := ne_page_of_mem_kinds member
      refine ⟨body, ?_, fun ids => node_counted⟩
      simp only [openEntry, ofKey?_eq_some_iff.mpr ⟨rfl, inside⟩,
        (restriction_filter_eq_none_iff inside).mpr member]

/-! ## Nodes -/

theorem node_iff {kind : Kind} {body : Fields} {ids : List (List Nat)} :
    Contract.Node kind body ids ↔ ∃ below, ids = ownId body ++ below ∧
      (∀ name ∈ forbidden kind, Value.field? name body = none) ∧
      (∀ rule ∈ rules kind, rule.Holds body) ∧ Held body (lists kind) below := by
  constructor
  · rintro ⟨bare, fields, held⟩
    exact ⟨_, rfl, bare, fields, held⟩
  · rintro ⟨below, rfl, bare, fields, held⟩
    exact .node bare fields held

theorem held_nil_iff {body : Fields} {ids : List (List Nat)} : Held body [] ids ↔ ids = [] := by
  constructor
  · rintro ⟨⟩
    rfl
  · rintro rfl
    exact .nil

theorem held_cons_iff {body : Fields} {name : String} {place : Place}
    {rest : List (String × Place)} {ids : List (List Nat)} :
    Held body ((name, place) :: rest) ids ↔ ∃ items, Listed (Value.field? name body) items ∧
      ∃ mine more, ids = mine ++ more ∧ Entries place items mine ∧ Held body rest more := by
  constructor
  · rintro ⟨⟩
    exact ⟨_, ‹_›, _, _, rfl, ‹_›, ‹_›⟩
  · rintro ⟨items, listed, mine, more, rfl, first, others⟩
    exact .cons listed first others

/-- A node of a kind that holds no components is accepted if it conforms. -/
theorem accepts_buildLeaf {α : Type} {kind : Kind} {body : Fields}
    {read : Fields → Except FieldFault α} (path : Path)
    (leaf : lists kind = [] ∧ forbidden kind = ["components", "children"])
    (reads : Succeeds (read body) ↔ ∀ rule ∈ rules kind, rule.Holds body) :
    Accepts (buildLeaf kind path body read) (Contract.Node kind body) := by
  refine accepts_congr (accepts_bind (accepts_claim path body) fun _ =>
    accepts_check (accepts_refuse path body "components" _) fun _ =>
      accepts_check (accepts_refuse path body "children" _) fun _ =>
        accepts_check (accepts_weigh kind body) fun _ => accepts_read path (read body))
    fun texts => ?_
  rw [node_iff, leaf.1, leaf.2, reads]
  simp only [List.forall_mem_cons, List.not_mem_nil, false_imp_iff, implies_true, and_true,
    held_nil_iff]
  constructor
  · rintro ⟨below, rfl, ⟨components, children⟩, fields, rfl⟩
    have ⟨writable, light⟩ := sound_of_rules fields
    exact ⟨_, _, rfl, ⟨rfl, writable⟩, components, children, light, rfl, fields⟩
  · rintro ⟨_, _, rfl, ⟨rfl, _⟩, components, children, _, rfl, fields⟩
    exact ⟨_, rfl, ⟨components, children⟩, fields, rfl⟩

theorem accepts_buildControl {kind : Kind} (member : kind ∈ Place.fields.kinds) (path : Path)
    (body : Fields) : Accepts (buildControl kind path body) (Contract.Node kind body) := by
  cases kind with
  | input => exact accepts_map _ (accepts_buildLeaf path (by decide) (succeeds_readInput body))
  | checkbox =>
      exact accepts_map _ (accepts_buildLeaf path (by decide) (succeeds_readCheckbox body))
  | radio => exact accepts_map _ (accepts_buildLeaf path (by decide) (succeeds_readRadio body))
  | select => exact accepts_map _ (accepts_buildLeaf path (by decide) (succeeds_readSelect body))
  | _ => simp [Place.kinds] at member

/-! ## Forms -/

theorem entries_nil_iff {place : Place} {ids : List (List Nat)} :
    Entries place [] ids ↔ ids = [] := by
  constructor
  · rintro ⟨⟩
    rfl
  · rintro rfl
    exact .nil

/-- Entries conform if the first can be opened and its body conforms, and the others conform. -/
theorem entries_cons_iff {place : Place} {entry : Value} {rest : List Value} {ids : List (List Nat)}
    (path : Path) :
    Entries place (entry :: rest) ids ↔
      ∃ opened, openEntry place.slot path entry = .ok opened ∧ ∃ mine more, ids = mine ++ more ∧
        Contract.Node opened.1 opened.2 mine ∧ Entries place rest more := by
  constructor
  · intro valid
    cases valid with
    | cons valid node others =>
        obtain ⟨body, opened, same⟩ := openEntry_of_entry path valid
        exact ⟨(_, body), opened, _, _, rfl, (same _).mp node, others⟩
  · rintro ⟨⟨kind, body⟩, opened, mine, more, rfl, node, others⟩
    obtain ⟨_, bare, valid, same⟩ := entry_of_openEntry opened
    exact .cons valid ((same mine).mpr node) others

theorem accepts_buildEntries {α : Type} {place : Place} {build : Kind → Path → Fields → Build α}
    (builds : ∀ kind ∈ place.kinds, ∀ path body,
      Accepts (build kind path body) (Contract.Node kind body)) (path : Path) (index : Nat)
    (entries : List Value) :
    Accepts (buildEntries place.slot path build index entries) (Entries place entries) := by
  induction entries generalizing index with
  | nil =>
      exact accepts_congr (accepts_pure []) fun texts => entries_nil_iff
  | cons entry rest ih =>
      refine accepts_congr (accepts_lift (fun opened same => accepts_bind
        (builds opened.1 (entry_of_openEntry same).1 _ opened.2) fun first =>
          accepts_map (first :: ·) (ih (index + 1)))) fun texts => entries_cons_iff _

theorem accepts_buildForm (path : Path) (body : Fields) :
    Accepts (buildForm path body) (Contract.Node .form body) := by
  have controls := @accepts_buildEntries _ .fields buildControl
    (fun kind member => accepts_buildControl member)
  have actions := @accepts_buildEntries _ .actions
    (fun kind here body => buildLeaf kind here body Button.read) (by
      intro kind member here body
      obtain rfl : kind = .button := List.mem_singleton.mp member
      exact accepts_buildLeaf here (by decide) (succeeds_readButton body))
  refine accepts_congr (accepts_bind (accepts_claim path body) fun _ =>
    accepts_check (accepts_refuse path body "components" _) fun _ =>
      accepts_check (accepts_refuse path body "children" _) fun _ =>
        accepts_lift fun fields _ => accepts_bind (controls _ 0 fields) fun _ =>
          accepts_lift fun items _ => accepts_bind (actions _ 0 items) fun _ =>
            accepts_check (accepts_weigh .form body) fun _ =>
              accepts_check (accepts_read path (Field.required body "id" Field.text)) fun _ =>
                accepts_pure _) fun texts => ?_
  have sound := @sound_of_rules .form body
  rw [node_iff]
  simp only [lists, forbidden, rules, held_cons_iff, held_nil_iff, openList_eq_ok_iff,
    succeeds_required succeeds_text, List.forall_mem_cons, List.not_mem_nil, false_imp_iff,
    implies_true, and_true] at sound ⊢
  constructor
  · rintro ⟨_, rfl, ⟨components, children⟩, id, fields, inFields, mine, _, rfl, valid, items,
      inActions, more, _, rfl, others, rfl⟩
    obtain ⟨writable, light⟩ := sound id
    exact ⟨_, _, rfl, ⟨rfl, writable⟩, components, children, fields, inFields, mine, _, rfl, valid,
      items, inActions, more, [], rfl, others, light, id, rfl⟩
  · rintro ⟨_, _, rfl, ⟨rfl, _⟩, components, children, fields, inFields, mine, _, rfl, valid, items,
      inActions, more, _, rfl, others, _, id, rfl⟩
    exact ⟨_, rfl, ⟨components, children⟩, id, fields, inFields, mine, _, rfl, valid, items,
      inActions, more, [], rfl, others, rfl⟩

/-! ## Components of any kind -/

theorem ne_page_of_openEntry {path : Path} {entry : Value} {kind : Kind} {body : Fields}
    (opened : openEntry .anywhere path entry = .ok (kind, body)) : kind ≠ .page := by
  obtain ⟨member, _⟩ := @entry_of_openEntry .components _ _ _ _ opened
  exact ne_page_of_mem_kinds member

theorem buildComponent_error {path : Path} {entry : Value} {fault : Fault}
    (failed : openEntry .anywhere path entry = .error fault) :
    buildComponent path entry = throw fault := by
  rw [buildComponent]
  split
  · rename_i found
    cases failed.symm.trans found
    rfl
  · rename_i found
    cases failed.symm.trans found

/-- How a container is built. The definition keeps the outcome of opening the list, which only its
termination needs. -/
theorem buildComponent_container {path : Path} {entry : Value} {body : Fields}
    (opened : openEntry .anywhere path entry = .ok (.container, body)) :
    buildComponent path entry = do
      let here := path ++ [.body .container]
      Build.claim here (Value.field? "id" body)
      Build.refuse here body "children" .containerChildren
      let children ← buildComponents (here ++ [.field "components"]) 0
        (← openList here body "components")
      Build.weigh .container body
      let id ← Build.read here (Field.id body)
      let layout ← Build.read here
        (Field.withDefault body "layout" Layout.vertical (Field.word Layout))
      return Component.container id layout children := by
  rw [buildComponent]
  split
  · rename_i fault failed
    cases opened.symm.trans failed
  · rename_i kind same found
    cases opened.symm.trans found
    simp only
    congr 1
    funext _
    congr 1
    funext _
    split <;> rename_i listed <;> rw [listed] <;> rfl

/-- A container is accepted if it conforms, given that its components are. -/
theorem accepts_container {path : Path} {entry : Value} {body : Fields}
    (opened : openEntry .anywhere path entry = .ok (.container, body))
    (inside : ∀ here items, openList here body "components" = .ok items →
      Accepts (buildComponents (here ++ [.field "components"]) 0 items)
        (Entries .components items)) :
    Accepts (buildComponent path entry) (Contract.Node .container body) := by
  rw [buildComponent_container opened]
  refine accepts_congr (accepts_bind (accepts_claim _ body) fun _ =>
    accepts_check (accepts_refuse _ body "children" _) fun _ =>
      accepts_lift fun items listed => accepts_bind (inside _ items listed) fun _ =>
        accepts_check (accepts_weigh .container body) fun _ =>
          accepts_check (accepts_read _ (Field.id body)) fun _ =>
            accepts_check (accepts_read _ (Field.withDefault body "layout" _ _)) fun _ =>
              accepts_pure _) fun texts => ?_
  have sound := @sound_of_rules .container body
  rw [node_iff]
  simp only [lists, forbidden, rules, held_cons_iff, held_nil_iff, openList_eq_ok_iff,
    succeeds_id, succeeds_withDefault (succeeds_word Layout), List.forall_mem_cons,
    List.not_mem_nil, false_imp_iff, implies_true, and_true] at sound ⊢
  constructor
  · rintro ⟨_, rfl, children, fields, items, listed, mine, _, rfl, valid, rfl⟩
    obtain ⟨writable, light⟩ := sound fields
    obtain ⟨id, layout⟩ := fields
    exact ⟨_, _, rfl, ⟨rfl, writable⟩, children, items, listed, mine, [], rfl, valid, light, id,
      layout, rfl⟩
  · rintro ⟨_, _, rfl, ⟨rfl, _⟩, children, items, listed, mine, _, rfl, valid, _, id, layout, rfl⟩
    exact ⟨_, rfl, children, ⟨id, layout⟩, items, listed, mine, [], rfl, valid, rfl⟩

/-- A component that is not a container is accepted if it conforms. -/
theorem accepts_other {path : Path} {entry : Value} {kind : Kind} {body : Fields}
    (opened : openEntry .anywhere path entry = .ok (kind, body)) (other : kind ≠ .container) :
    Accepts (buildComponent path entry) (Contract.Node kind body) := by
  rw [buildComponent]
  split
  · rename_i fault failed
    cases opened.symm.trans failed
  · rename_i found
    cases opened.symm.trans found
    cases kind with
    | text => exact accepts_map _ (accepts_buildLeaf _ (by decide) (succeeds_readText body))
    | button => exact accepts_map _ (accepts_buildLeaf _ (by decide) (succeeds_readButton body))
    | input | checkbox | radio | select =>
        exact accepts_map _ (accepts_buildControl (by decide) _ body)
    | divider => exact accepts_map _ (accepts_buildLeaf _ (by decide) (succeeds_readDivider body))
    | alert => exact accepts_map _ (accepts_buildLeaf _ (by decide) (succeeds_readAlert body))
    | form => exact accepts_map _ (accepts_buildForm _ body)
    | container => exact absurd rfl other
    | page => exact absurd rfl (ne_page_of_openEntry opened)

mutual

/-- A component is accepted if its entry can be opened and its body conforms. -/
theorem accepts_buildComponent (path : Path) (entry : Value) :
    Accepts (buildComponent path entry) fun ids =>
      ∃ opened, openEntry .anywhere path entry = .ok opened ∧
        Contract.Node opened.1 opened.2 ids := by
  cases opened : openEntry .anywhere path entry with
  | error fault =>
      rw [buildComponent_error opened]
      exact accepts_congr (accepts_throw fault) fun texts => by simp
  | ok pair =>
      obtain ⟨kind, body⟩ := pair
      suffices conforms : Accepts (buildComponent path entry) (Contract.Node kind body) from
        accepts_congr conforms fun texts => by simp
      by_cases container : kind = .container
      · subst container
        refine accepts_container opened fun here items listed => ?_
        -- The recursion ends since a list is smaller than the entry that holds it.
        have fewer := sizeOf_openEntry_lt opened
        have smaller := sizeOf_openList_lt listed
        exact accepts_buildComponents (here ++ [.field "components"]) 0 items
      · exact accepts_other opened container
termination_by sizeOf entry

/-- Components are accepted one after the other. -/
theorem accepts_buildComponents (path : Path) (index : Nat) (entries : List Value) :
    Accepts (buildComponents path index entries) (Entries .components entries) := by
  cases entries with
  | nil =>
      rw [buildComponents]
      exact accepts_congr (accepts_pure []) fun texts => entries_nil_iff
  | cons entry rest =>
      rw [buildComponents]
      refine accepts_congr (accepts_bind (accepts_buildComponent (path ++ [.item index]) entry)
        fun first => accepts_map (first :: ·) (accepts_buildComponents path (index + 1) rest))
        fun texts => ?_
      rw [entries_cons_iff (path ++ [.item index])]
      constructor
      · rintro ⟨opened, same, mine, more, rfl, node, others⟩
        exact ⟨mine, more, rfl, ⟨opened, same, node⟩, others⟩
      · rintro ⟨mine, more, rfl, ⟨opened, same, node⟩, others⟩
        exact ⟨opened, same, mine, more, rfl, node, others⟩
termination_by sizeOf entries

end

theorem accepts_buildPage (body : Fields) :
    Accepts (buildPage body) (Contract.Node .page body) := by
  refine accepts_congr (accepts_check (accepts_refuse [] body "children" _) fun _ =>
    accepts_bind (accepts_claim [] body) fun _ =>
      accepts_lift fun items _ => accepts_bind (accepts_buildComponents _ 0 items) fun _ =>
        accepts_check (accepts_weigh .page body) fun _ =>
          accepts_check (accepts_read [] (Field.id body)) fun _ =>
            accepts_check (accepts_read [] (Field.withDefault body "title" _ _)) fun _ =>
              accepts_check (accepts_read [] (Field.withDefault body "layout" _ _)) fun _ =>
                accepts_pure _) fun texts => ?_
  have sound := @sound_of_rules .page body
  rw [node_iff]
  simp only [lists, forbidden, rules, held_cons_iff, held_nil_iff, openList_eq_ok_iff,
    succeeds_id, succeeds_withDefault (succeeds_word Layout),
    succeeds_withDefault succeeds_optionalText, List.forall_mem_cons,
    List.not_mem_nil, false_imp_iff, implies_true, and_true] at sound ⊢
  constructor
  · rintro ⟨_, rfl, children, fields, items, listed, mine, _, rfl, valid, rfl⟩
    obtain ⟨writable, light⟩ := sound fields
    obtain ⟨id, title, layout⟩ := fields
    exact ⟨children, _, _, rfl, ⟨rfl, writable⟩, items, listed, mine, [], rfl, valid, light, id,
      title, layout, rfl⟩
  · rintro ⟨children, _, _, rfl, ⟨rfl, _⟩, items, listed, mine, _, rfl, valid, _, id, title, layout,
      rfl⟩
    exact ⟨_, rfl, children, ⟨id, title, layout⟩, items, listed, mine, [], rfl, valid, rfl⟩

/-! ## Documents -/

/-- No id is taken before the page is built. -/
theorem succeeds_buildPage (body : Fields) :
    Succeeds ((buildPage body).run []) ↔ ∃ ids, Contract.Node .page body ids ∧ ids.Nodup := by
  obtain ⟨complete, sound⟩ := accepts_buildPage body [] List.nodup_nil
  constructor
  · rintro ⟨done, ran⟩
    obtain ⟨ids, node, distinct, _⟩ := sound done ran
    exact ⟨ids, node, distinct⟩
  · rintro ⟨ids, node, distinct⟩
    obtain ⟨done, ran, _⟩ := complete ids node distinct
    exact ⟨done, ran⟩

theorem succeeds_build (entries : Fields) :
    Succeeds (build entries) ↔ Meets (.map entries) := by
  have meets : Meets (.map entries) ↔ ∃ body, Value.field? "page" entries = some (.map body) ∧
      ∃ ids, Contract.Node .page body ids ∧ ids.Nodup := by
    constructor
    · rintro ⟨_, body, ids, ⟨⟩, page, node, distinct⟩
      exact ⟨body, page, ids, node_counted.mp node, distinct⟩
    · rintro ⟨body, page, ids, node, distinct⟩
      exact ⟨entries, body, ids, rfl, page, node_counted.mpr node, distinct⟩
  rw [meets]
  unfold build
  cases Value.field? "page" entries with
  | none => simp
  | some v => cases v <;> simp [succeeds_buildPage]

end Wireframe.Document
