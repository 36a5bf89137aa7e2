import Wireframe.Proofs.Document.Places
import Wireframe.Proofs.Document.Twins

/-! # What does not matter in a source

Keys that count for nothing and the order of keys do not matter to what is built of a source
(`Wireframe.Document.ofValue_of_alike`). They do not matter to its fault either, but for two things
that show the order of keys: the literal of a mapping that stands for a word, and the text of a
mapping that stands for an id.
-/

namespace Wireframe.Document

open Contract (Place)

open Content

section

variable {β : Type} {regard : Regard β}

/-! ## Steps side by side -/

/-- Two steps of building give the same and take the same ids, or both fail and the same is seen. -/
def Twins {α : Type} (regard : Regard β) (step other : Build α) : Prop :=
  ∀ ids, SameUnder regard.view (step.run ids) (other.run ids)

/-- A step of building fails, whatever ids are taken. -/
def Fails {α : Type} (step : Build α) : Prop := ∀ ids, ∃ fault, step.run ids = .error fault

section

variable {α γ : Type} {step other : Build α} {next follow : α → Build γ}

theorem twins_of_eq (same : step = other) : Twins regard step other := by
  rw [same]
  exact fun _ => sameUnder_of_eq rfl

theorem twins_bind (first : Twins regard step other)
    (second : ∀ a, Twins regard (next a) (follow a)) :
    Twins regard (step >>= next) (other >>= follow) :=
  fun ids => sameUnder_bind (first ids) fun done => second done.1 done.2

theorem twins_map (f : α → γ) (twins : Twins regard step other) :
    Twins regard (f <$> step) (f <$> other) := by
  rw [← bind_pure_comp, ← bind_pure_comp]
  exact twins_bind twins fun a => twins_of_eq rfl

theorem run_read_error (path : Path) (fault : FieldFault) (ids : Ids) :
    (Build.read path (.error fault : Except FieldFault α)).run ids =
      .error (reported path fault) := by
  obtain ⟨field, within, cause⟩ := fault
  cases cause <;> rfl

theorem twins_read {path : Path} {result found : Except FieldFault α}
    (same : SameUnder (regard.seen path) result found) :
    Twins regard (Build.read path result) (Build.read path found) := by
  intro ids
  unfold SameUnder at same
  cases result with
  | ok a =>
      cases found with
      | ok b =>
          cases same
          rfl
      | error fault => cases same
  | error fault =>
      cases found with
      | ok b => cases same
      | error flaw =>
          rw [run_read_error, run_read_error]
          exact sameUnder_error (Except.error.inj same)

theorem fails_bind (fails : Fails step) : Fails (step >>= next) := by
  intro ids
  obtain ⟨fault, failed⟩ := fails ids
  exact ⟨fault, by rw [StateT.run_bind, failed]; rfl⟩

theorem fails_then (fails : ∀ a, Fails (next a)) : Fails (step >>= next) := by
  intro ids
  rw [StateT.run_bind]
  cases step.run ids with
  | error fault => exact ⟨fault, rfl⟩
  | ok done => exact fails done.1 done.2

theorem fails_read {result : Except FieldFault α} (path : Path)
    (failed : ∃ fault, result = .error fault) : Fails (Build.read path result) := by
  obtain ⟨fault, rfl⟩ := failed
  exact fun ids => ⟨_, run_read_error path fault ids⟩

end

/-! ## Ids -/

/-- A body gives a collection as the id. -/
def Unnamed (body : Fields) : Prop :=
  ∃ v, Value.field? "id" body = some v ∧ v.isScalar = false

variable {kind : Kind} {body other : Fields} {path : Path}

theorem error_of_unnamed (unnamed : Unnamed body) : ∃ fault, Field.id body = .error fault := by
  obtain ⟨v, found, collection⟩ := unnamed
  unfold Field.id Field.withDefault
  rw [found]
  cases v with
  | list | tuple | set | map => exact ⟨_, rfl⟩
  | _ => cases collection

theorem required_of_unnamed (unnamed : Unnamed body) :
    ∃ fault, Field.required body "id" Field.text = .error fault := by
  obtain ⟨v, found, collection⟩ := unnamed
  unfold Field.required
  rw [found]
  cases v with
  | list | tuple | set | map => exact ⟨_, rfl⟩
  | _ => cases collection

/-- Alike bodies have the same id; or no id is kept, and both have none that can be read. -/
theorem ids_of_alike (bodies : BodyAlike regard kind body other) :
    Value.field? "id" body = Value.field? "id" other ∨
      (∀ fault found, regard.view fault = regard.view found) ∧ Unnamed body ∧ Unnamed other := by
  have member : "id" ∈ bodyKeys kind := by cases kind <;> decide
  rcases bodies.field member with ⟨missing, gone⟩ | ⟨v, w, found, there, values⟩
  · exact .inl (missing.trans gone.symm)
  rcases regard.idsKept with kept | blind
  · rw [found, there, values.kept (kept kind)]
    exact .inl rfl
  rcases values.alike.cases with rfl | ⟨collection, also, _⟩
  · exact .inl (found.trans there.symm)
  · exact .inr ⟨blind, ⟨v, found, collection⟩, w, there, also⟩

/-- Two nodes go side by side if they do so with the same id, and fail with none. -/
theorem twins_node {α : Type} {step found : Build α} (bodies : BodyAlike regard kind body other)
    (named : Value.field? "id" body = Value.field? "id" other → Twins regard step found)
    (fails : Unnamed body → Fails step) (also : Unnamed other → Fails found) :
    Twins regard step found := by
  rcases ids_of_alike bodies with same | ⟨blind, unnamed, nameless⟩
  · exact named same
  · -- The two may fail at different components, since other ids are taken: only that they fail
    -- is the same.
    intro ids
    obtain ⟨fault, failed⟩ := fails unnamed ids
    obtain ⟨flaw, broken⟩ := also nameless ids
    rw [failed, broken]
    exact sameUnder_error (blind fault flaw)

theorem twins_refuse (bodies : BodyAlike regard kind body other) {name : String}
    (member : name ∈ bodyKeys kind) (cause : Cause) :
    Twins regard (Build.refuse path body name cause) (Build.refuse path other name cause) := by
  unfold Build.refuse
  rw [bodies.hasField member]
  exact twins_of_eq rfl

/-! ## The builders -/

theorem mem_bodyKeys_refused (kind : Kind) :
    "components" ∈ bodyKeys kind ∧ "children" ∈ bodyKeys kind := by
  simp [bodyKeys]

theorem fails_buildLeaf {α : Type} {read : Fields → Except FieldFault α}
    (reads : ReadsAlike regard kind read) (unnamed : Unnamed body) :
    Fails (buildLeaf kind path body read) := by
  obtain ⟨fault, failed⟩ := error_of_unnamed unnamed
  obtain ⟨next, begins⟩ := reads.begins body
  refine fails_then fun _ => fails_then fun _ => fails_then fun _ => fails_then fun _ =>
    fails_read path ⟨fault, ?_⟩
  rw [begins, failed]
  rfl

theorem twins_buildLeaf {α : Type} {read : Fields → Except FieldFault α}
    (reads : ReadsAlike regard kind read) (bodies : BodyAlike regard kind body other) :
    Twins regard (buildLeaf kind path body read) (buildLeaf kind path other read) := by
  obtain ⟨components, children⟩ := mem_bodyKeys_refused kind
  refine twins_node bodies (fun same => ?_) (fails_buildLeaf reads) (fails_buildLeaf reads)
  exact twins_bind (twins_of_eq (congrArg _ same)) fun _ =>
    twins_bind (twins_refuse bodies components _) fun _ =>
      twins_bind (twins_refuse bodies children _) fun _ =>
        twins_bind (twins_of_eq bodies.weigh) fun _ =>
          twins_read (reads.alike path body other bodies)

theorem twins_buildControl (member : kind ∈ Place.fields.kinds)
    (bodies : BodyAlike regard kind body other) :
    Twins regard (buildControl kind path body) (buildControl kind path other) := by
  cases kind with
  | input => exact twins_map _ (twins_buildLeaf readsAlike_input bodies)
  | checkbox => exact twins_map _ (twins_buildLeaf readsAlike_checkbox bodies)
  | radio => exact twins_map _ (twins_buildLeaf readsAlike_radio bodies)
  | select => exact twins_map _ (twins_buildLeaf readsAlike_select bodies)
  | _ => simp [Place.kinds] at member

/-! ## Lists and entries -/

/-- Two results are the same error, or both are successes that are related. -/
inductive Outcomes {ε α γ : Type} (related : α → γ → Prop) : Except ε α → Except ε γ → Prop where
  | error (e : ε) : Outcomes related (.error e) (.error e)
  | ok {a : α} {c : γ} (relates : related a c) : Outcomes related (.ok a) (.ok c)

theorem twins_lift {α γ δ : Type} {related : γ → δ → Prop} {result : Except Fault γ}
    {found : Except Fault δ} {next : γ → Build α} {follow : δ → Build α}
    (outcomes : Outcomes related result found)
    (second : ∀ x y, result = .ok x → found = .ok y → related x y →
      Twins regard (next x) (follow y)) :
    Twins regard (liftM result >>= next) (liftM found >>= follow) := by
  cases outcomes with
  | error fault => exact fun _ => rfl
  | ok relates => exact second _ _ rfl rfl relates

/-- The entries of two lists are alike, and those of the first are well-formed. -/
structure ListsAlike (regard : Regard β) (items others : List Value) : Prop where
  alike : AlikeItems regard.keeps .entry items others
  valid : ∀ v ∈ items, v.WellFormed

theorem outcomes_openList (bodies : BodyAlike regard kind body other) {name : String}
    (member : name ∈ bodyKeys kind) (lists : (Role.body kind).under (.text name) = .entries)
    (path : Path) :
    Outcomes (ListsAlike regard) (openList path body name) (openList path other name) := by
  unfold openList
  rcases bodies.field member with ⟨missing, gone⟩ | ⟨v, w, found, there, values⟩
  · rw [missing, gone]
    exact .ok ⟨.same [], nofun⟩
  · have valid := Value.wellFormed_of_field? bodies.valid found
    have alike := values.alike
    rw [lists] at alike
    rw [found, there]
    cases alike with
    | same =>
        cases v with
        | null => exact .ok ⟨.same [], nofun⟩
        | list items => exact .ok ⟨.same items, Value.wellFormed_list_iff.mp valid⟩
        | _ => exact .error _
    | list each => exact .ok ⟨each, Value.wellFormed_list_iff.mp valid⟩
    | _ => exact .error _

/-- Two entries that were opened have one kind, and their bodies are alike. -/
structure OpenedAlike (regard : Regard β) (opened found : Kind × Fields) : Prop where
  kind : opened.1 = found.1
  bodies : BodyAlike regard opened.1 opened.2 found.2

theorem openEntry_of_length {slot : Slot} {entries : Fields} (several : entries.length ≠ 1)
    (path : Path) : openEntry slot path (.map entries) = .error (.schema ⟨path, .notEntry⟩) := by
  match entries with
  | [] | _ :: _ :: _ => rfl
  | [_] => exact absurd rfl several

theorem outcomes_openOne {key b c : Value} (alike : Alike regard.keeps (Role.entry.under key) b c)
    (valid : b.WellFormed) (slot : Slot) (path : Path) :
    Outcomes (OpenedAlike regard) (openEntry slot path (.map [(key, b)]))
      (openEntry slot path (.map [(key, c)])) := by
  cases named : Kind.ofKey? key with
  | none =>
      simp only [openEntry, named]
      split <;> exact .error _
  | some kind =>
      have stands : Role.entry.under key = .body kind := by simp only [Role.under, named]
      rw [stands] at alike
      simp only [openEntry, named]
      generalize slot.restriction.filter (kind ∉ ·) = refused
      cases refused with
      | some allowed => exact .error _
      | none =>
          cases alike with
          | same =>
              cases b with
              | null => exact .ok ⟨rfl, .same _ _, .map (by simp) .nil (by simp)⟩
              | map fields => exact .ok ⟨rfl, .same _ _, valid⟩
              | _ => exact .error _
          | list | tuple => exact .error _
          | map each order => exact .ok ⟨rfl, .map each order, valid⟩

/-- Alike entries are opened alike. -/
theorem outcomes_openEntry {v w : Value} (alike : Alike regard.keeps .entry v w)
    (valid : v.WellFormed) (slot : Slot) (path : Path) :
    Outcomes (OpenedAlike regard) (openEntry slot path v) (openEntry slot path w) := by
  have all (entries : Fields) : Role.entry.counted entries = entries :=
    List.filter_eq_self.mpr fun _ _ => rfl
  have held {key b : Value} (valid : (Value.map [(key, b)]).WellFormed) : b.WellFormed :=
    (Value.wellFormed_map_iff.mp valid).2.2 (key, b) List.mem_cons_self
  cases alike with
  | same =>
      match v with
      | .map [(key, b)] => exact outcomes_openOne (.same _ b) (held valid) slot path
      | .map [] | .map (_ :: _ :: _) => exact .error _
      | .null | .bool _ | .int _ | .float _ | .text _ | .halved _ | .bytes _ | .date _
      | .dateTime _ | .time _ | .list _ | .tuple _ | .set _ => exact .error _
  | list | tuple => exact .error _
  | @map _ entries middle others each order =>
      rw [all] at each order
      -- Only an entry with one key is opened, and alike entries have as many.
      by_cases one : entries.length = 1
      · obtain ⟨⟨key, b⟩, rfl⟩ := List.length_eq_one_iff.mp one
        match middle, each with
        | [(_, c)], .cons value _ (.nil _) =>
            rw [← List.singleton_perm.mp order]
            exact outcomes_openOne value (held valid) slot path
      · have also : others.length ≠ 1 := by
          rw [← order.length_eq, ← List.length_map (f := Prod.fst), keys_of_alikeEntries each,
            List.length_map]
          exact one
        rw [openEntry_of_length one, openEntry_of_length also]
        exact .error _

theorem twins_buildEntries {α : Type} {place : Place} {build : Kind → Path → Fields → Build α}
    (builds : ∀ kind ∈ place.kinds, ∀ path body other, BodyAlike regard kind body other →
      Twins regard (build kind path body) (build kind path other))
    {items others : List Value} (lists : ListsAlike regard items others) (index : Nat) :
    Twins regard (buildEntries place.slot path build index items)
      (buildEntries place.slot path build index others) := by
  obtain ⟨each, valid⟩ := lists
  match items, others, each with
  | [], [], .nil _ => exact twins_of_eq rfl
  | v :: items, w :: others, .cons first rest =>
      obtain ⟨here, behind⟩ := List.forall_mem_cons.mp valid
      refine twins_lift (outcomes_openEntry first here _ _) fun x y opened _ alike => ?_
      obtain ⟨kind, body⟩ := x
      obtain ⟨_, other⟩ := y
      obtain ⟨rfl, bodies⟩ := alike
      obtain ⟨member, _⟩ := entry_of_openEntry opened
      exact twins_bind (builds kind member _ body other bodies) fun first =>
        twins_map (first :: ·) (twins_buildEntries builds ⟨rest, behind⟩ (index + 1))

/-! ## Nodes that hold components -/

theorem fails_buildForm (unnamed : Unnamed body) : Fails (buildForm path body) :=
  fails_then fun _ => fails_then fun _ => fails_then fun _ => fails_then fun _ =>
    fails_then fun _ => fails_then fun _ => fails_then fun _ => fails_then fun _ =>
      fails_bind (fails_read path (required_of_unnamed unnamed))

theorem twins_buildForm (bodies : BodyAlike regard .form body other) :
    Twins regard (buildForm path body) (buildForm path other) := by
  have controls (items others : List Value) (lists : ListsAlike regard items others) :=
    @twins_buildEntries _ regard (path ++ [.field "fields"]) _ .fields buildControl
      (fun kind member path body other bodies => twins_buildControl member bodies) _ _ lists 0
  have actions (items others : List Value) (lists : ListsAlike regard items others) :=
    @twins_buildEntries _ regard (path ++ [.field "actions"]) _ .actions
      (fun kind here body => buildLeaf kind here body Button.read)
      (fun kind member path body other bodies => by
        obtain rfl : kind = .button := List.mem_singleton.mp member
        exact twins_buildLeaf readsAlike_button bodies) _ _ lists 0
  refine twins_node bodies (fun same => ?_) fails_buildForm fails_buildForm
  refine twins_bind (twins_of_eq (congrArg _ same)) fun _ =>
    twins_bind (twins_refuse bodies (by decide) _) fun _ =>
      twins_bind (twins_refuse bodies (by decide) _) fun _ => ?_
  refine twins_lift (outcomes_openList bodies (by decide) (by decide) path)
    fun fields others _ _ lists => twins_bind (controls fields others lists) fun _ => ?_
  refine twins_lift (outcomes_openList bodies (by decide) (by decide) path)
    fun items others _ _ lists => twins_bind (actions items others lists) fun _ => ?_
  exact twins_bind (twins_of_eq bodies.weigh) fun _ =>
    twins_bind (twins_read (bodies.text path (by decide))) fun _ => twins_of_eq rfl

/-- Builds the component of a kind from its fields, as it is built once its entry is open. -/
def buildOpened (here : Path) (kind : Kind) (fields : Fields) : Build Component :=
  match kind with
  | .text => Component.text <$> buildLeaf kind here fields TextBlock.read
  | .button => Component.button <$> buildLeaf kind here fields Button.read
  | .input | .checkbox | .radio | .select => Component.control <$> buildControl kind here fields
  | .divider => Component.divider <$> buildLeaf kind here fields Divider.read
  | .alert => Component.alert <$> buildLeaf kind here fields Alert.read
  | .form => Component.form <$> buildForm here fields
  | .container | .page => do
    Build.claim here (Value.field? "id" fields)
    Build.refuse here fields "children" .containerChildren
    let children ← buildComponents (here ++ [.field "components"]) 0
      (← openList here fields "components")
    Build.weigh .container fields
    let id ← Build.read here (Field.id fields)
    let layout ← Build.read here
      (Field.withDefault fields "layout" Layout.vertical (Field.word Layout))
    return .container id layout children

theorem buildComponent_opened {v : Value}
    (opened : openEntry .anywhere path v = .ok (kind, body)) :
    buildComponent path v = buildOpened (path ++ [.body kind]) kind body := by
  by_cases container : kind = .container
  · subst container
    exact buildComponent_container opened
  · rw [buildComponent]
    split
    · rename_i failed
      cases opened.symm.trans failed
    · rename_i found
      cases opened.symm.trans found
      cases kind with
      | container => exact absurd rfl container
      | page => exact absurd rfl (ne_page_of_openEntry opened)
      | _ => rfl

theorem fails_container (unnamed : Unnamed body) : Fails (buildOpened path .container body) :=
  fails_then fun _ => fails_then fun _ => fails_then fun _ => fails_then fun _ =>
    fails_then fun _ => fails_bind (fails_read path (error_of_unnamed unnamed))

theorem twins_container (bodies : BodyAlike regard .container body other)
    (inside : ∀ items others, openList path body "components" = .ok items →
      ListsAlike regard items others →
        Twins regard (buildComponents (path ++ [.field "components"]) 0 items)
          (buildComponents (path ++ [.field "components"]) 0 others)) :
    Twins regard (buildOpened path .container body) (buildOpened path .container other) := by
  refine twins_node bodies (fun same => ?_) fails_container fails_container
  refine twins_bind (twins_of_eq (congrArg _ same)) fun _ =>
    twins_bind (twins_refuse bodies (by decide) _) fun _ => ?_
  refine twins_lift (outcomes_openList bodies (by decide) (by decide) path)
    fun items others opened _ lists => twins_bind (inside items others opened lists) fun _ => ?_
  exact twins_bind (twins_of_eq bodies.weigh) fun _ =>
    twins_bind (twins_read (bodies.id path)) fun _ =>
      twins_bind (twins_read (bodies.wordOr path _ (by decide) (by decide))) fun _ =>
        twins_of_eq rfl

theorem twins_other (apart : kind ≠ .container) (inside : kind ≠ .page)
    (bodies : BodyAlike regard kind body other) :
    Twins regard (buildOpened path kind body) (buildOpened path kind other) := by
  cases kind with
  | text => exact twins_map _ (twins_buildLeaf readsAlike_text bodies)
  | button => exact twins_map _ (twins_buildLeaf readsAlike_button bodies)
  | divider => exact twins_map _ (twins_buildLeaf readsAlike_divider bodies)
  | alert => exact twins_map _ (twins_buildLeaf readsAlike_alert bodies)
  | input | checkbox | radio | select => exact twins_map _ (twins_buildControl (by decide) bodies)
  | form => exact twins_map _ (twins_buildForm bodies)
  | container => exact absurd rfl apart
  | page => exact absurd rfl inside

end

mutual

/-- A component is built side by side with that of an alike entry. -/
theorem twins_buildComponent {β : Type} {regard : Regard β} {path : Path} {v w : Value}
    (alike : Alike regard.keeps .entry v w) (valid : v.WellFormed) :
    Twins regard (buildComponent path v) (buildComponent path w) := by
  have outcomes := outcomes_openEntry alike valid .anywhere path
  cases opened : openEntry .anywhere path v with
  | error fault =>
      cases failed : openEntry .anywhere path w with
      | ok found =>
          rw [opened, failed] at outcomes
          cases outcomes
      | error other =>
          rw [opened, failed] at outcomes
          cases outcomes
          rw [buildComponent_error opened, buildComponent_error failed]
          exact twins_of_eq rfl
  | ok entry =>
      cases found : openEntry .anywhere path w with
      | error other =>
          rw [opened, found] at outcomes
          cases outcomes
      | ok also =>
          obtain ⟨kind, body⟩ := entry
          obtain ⟨_, other⟩ := also
          rw [opened, found] at outcomes
          obtain ⟨rfl, bodies⟩ : OpenedAlike regard (kind, body) (_, other) := by
            cases outcomes
            assumption
          rw [buildComponent_opened opened, buildComponent_opened found]
          by_cases container : kind = .container
          · subst container
            refine twins_container bodies fun items others listed lists => ?_
            -- The recursion ends since a list is smaller than the entry in whose body it stands.
            have fewer := sizeOf_openEntry_lt opened
            have smaller := sizeOf_openList_lt listed
            exact twins_buildComponents lists.alike lists.valid 0
          · exact twins_other container (ne_page_of_openEntry opened) bodies
termination_by sizeOf v

/-- The components of a list are built side by side with those of an alike list. -/
theorem twins_buildComponents {β : Type} {regard : Regard β} {path : Path}
    {items others : List Value} (each : AlikeItems regard.keeps .entry items others)
    (valid : ∀ v ∈ items, v.WellFormed) (index : Nat) :
    Twins regard (buildComponents path index items) (buildComponents path index others) := by
  match items, others, each, valid with
  | [], [], .nil _, _ => exact twins_of_eq rfl
  | v :: items, w :: others, .cons first rest, valid =>
      obtain ⟨here, behind⟩ := List.forall_mem_cons.mp valid
      rw [buildComponents, buildComponents]
      exact twins_bind (twins_buildComponent first here) fun first =>
        twins_map (first :: ·) (twins_buildComponents rest behind (index + 1))
termination_by sizeOf items

end

section

variable {β : Type} {regard : Regard β} {body other : Fields}

theorem fails_buildPage (unnamed : Unnamed body) : Fails (buildPage body) :=
  fails_then fun _ => fails_then fun _ => fails_then fun _ => fails_then fun _ =>
    fails_then fun _ => fails_bind (fails_read [] (error_of_unnamed unnamed))

theorem twins_buildPage (bodies : BodyAlike regard .page body other) :
    Twins regard (buildPage body) (buildPage other) := by
  refine twins_node bodies (fun same => ?_) fails_buildPage fails_buildPage
  refine twins_bind (twins_refuse bodies (by decide) _) fun _ =>
    twins_bind (twins_of_eq (congrArg _ same)) fun _ => ?_
  refine twins_lift (outcomes_openList bodies (by decide) (by decide) [])
    fun items others _ _ lists =>
      twins_bind (twins_buildComponents lists.alike lists.valid 0) fun _ => ?_
  exact twins_bind (twins_of_eq bodies.weigh) fun _ =>
    twins_bind (twins_read (bodies.id [])) fun _ =>
      twins_bind (twins_read (bodies.optionalText [] (by decide))) fun _ =>
        twins_bind (twins_read (bodies.wordOr [] _ (by decide) (by decide))) fun _ =>
          twins_of_eq rfl

/-! ## Sources -/

theorem sameUnder_build {entries others : Fields} (valid : (Value.map entries).WellFormed)
    (alike : Alike regard.keeps .source (.map entries) (.map others)) :
    SameUnder regard.view (build entries) (build others) := by
  have counts : Role.source.counts (.text "page") = true := by decide
  unfold build
  rcases alike.field? (Value.wellFormed_map_iff.mp valid).2.1 counts with
    ⟨missing, gone⟩ | ⟨v, w, found, there, values⟩
  · rw [missing, gone]
    rfl
  · have formed := Value.wellFormed_of_field? valid found
    have alike : Alike regard.keeps (.body .page) v w := values.alike
    rw [found, there]
    cases alike with
    | same | list | tuple => exact sameUnder_of_eq rfl
    | map each order => exact sameUnder_map _ (twins_buildPage ⟨.map each order, formed⟩ [])

theorem sameUnder_ofValue {v w : Value} (valid : v.WellFormed)
    (alike : Alike regard.keeps .source v w) :
    SameUnder regard.view (ofValue v) (ofValue w) := by
  cases alike with
  | same => exact sameUnder_of_eq rfl
  | list | tuple => exact sameUnder_of_eq rfl
  | map each order => exact sameUnder_build valid (.map each order)

end

/-! ## What shows the order of keys -/

/-- A fault without the literal of a wrong word. -/
def FieldFault.unquoted (fault : FieldFault) : FieldFault :=
  match fault.cause with
  | .notChoice _ options => { fault with cause := .notChoice "" options }
  | _ => fault

/-- A fault without the literal of a wrong word. Its path and the rest of its reason are kept. -/
def SchemaFault.unquoted (fault : SchemaFault) : SchemaFault :=
  match fault.cause with
  | .field flaw => { fault with cause := .field flaw.unquoted }
  | _ => fault

/-- A fault without the literal of a wrong word. Its path and the rest of its reason are kept. -/
def Fault.unquoted : Fault → Fault
  | .schema fault => .schema fault.unquoted
  | other => other

/-- Nothing is kept, and of a fault nothing is seen. -/
def Regard.outcome : Regard Unit where
  keeps _ _ := False
  view _ := ()
  idsKept := .inr fun _ _ => rfl
  wordsKept := .inr fun _ _ _ _ _ => rfl

/-- Ids are kept, and all of a fault is seen but the literal of a wrong word. -/
def Regard.unquoted : Regard Fault where
  keeps _ name := name = "id"
  view := Fault.unquoted
  idsKept := .inl fun _ => rfl
  wordsKept := .inr fun _ _ _ _ _ => rfl

/-- Ids and words are kept, and all of a fault is seen. -/
def Regard.whole : Regard Fault where
  keeps kind name := name = "id" ∨ name ∈ words kind
  view fault := fault
  idsKept := .inl fun _ => .inl rfl
  wordsKept := .inl fun _ _ member => .inr member

/-- The results for two values do not show in which keys that count for nothing and in which order
of keys the values differ. They have the same document or both have none. If the order is the same
within all ids, their faults have one path, and one reason up to the literal of a wrong word. If it
is the same within all words too, their faults are the same. -/
structure Indifferent (v w : Value) (result other : Except Fault Document) : Prop where
  outcome : Alike (fun _ _ => False) .source v w → result.toOption = other.toOption
  unquoted : Alike (fun _ name => name = "id") .source v w →
    result.mapError Fault.unquoted = other.mapError Fault.unquoted
  whole : Alike (fun kind name => name = "id" ∨ name ∈ words kind) .source v w → result = other

theorem indifferent_ofValue {v : Value} (valid : v.WellFormed) (w : Value) :
    Indifferent v w (ofValue v) (ofValue w) where
  outcome alike := toOption_of_sameUnder (@sameUnder_ofValue _ Regard.outcome _ _ valid alike)
  unquoted alike := @sameUnder_ofValue _ Regard.unquoted _ _ valid alike
  whole alike := eq_of_sameUnder (@sameUnder_ofValue _ Regard.whole _ _ valid alike)

/-- **What does not matter.** For well-formed values, and so for all sources, keys that count for
nothing and the order of keys do not matter to the document or to the fault, at any depth, except
for the order within the values of ids and of words. -/
theorem ofValue_of_alike :
    (∀ v w : Value, v.WellFormed → Indifferent v w (ofValue v) (ofValue w)) ∧
    ∀ (source other : Source) (v w : Value), source.value? = some v → other.value? = some w →
      Indifferent v w (ofSource source) (ofSource other) := by
  refine ⟨fun v w valid => indifferent_ofValue valid w, fun source other v w value found => ?_⟩
  rw [ofSource_of_value? value, ofSource_of_value? found]
  exact indifferent_ofValue (wellFormed_of_value? value) w

/-- Of two pages, one gives the title first and has keys that count for nothing. -/
theorem ofValue_of_page :
    let title : Value × Value := (.text "title", .text "Home")
    let layout : Value × Value := (.text "layout", .text "grid")
    let v : Value := .map [(.text "page", .map [title, layout, (.text "items", .null)]),
      (.text "version", .int 2)]
    let w : Value := .map [(.text "page", .map [layout, title])]
    v.WellFormed ∧ ofValue v = ofValue w := by
  intro title layout v w
  have valid : v.WellFormed := by
    simp [v, title, layout, Value.Distinct, Value.sameKey, Value.isScalar]
  have page : Alike (fun kind name => name = "id" ∨ name ∈ words kind) (.body .page)
      (.map [title, layout, (.text "items", .null)]) (.map [layout, title]) :=
    .of_perm (.swap layout title [])
  have alike : Alike (fun kind name => name = "id" ∨ name ∈ words kind) .source v w :=
    .map (.cons page False.elim (.nil _)) (.refl _)
  exact ⟨valid, (ofValue_of_alike.1 v w valid).whole alike⟩

/-! ## Order that shows -/

/-- A page with one component of a kind. -/
def onePage (page : Fields) (kind : Kind) (body : Fields) : Value :=
  .map [(.text "page", .map (page ++
    [(.text "components", .list [.map [(.text kind.name, .map body)]])]))]

/-- Pages are alike if a field of their components is. -/
theorem alike_onePage {keeps : Kind → String → Prop} {kind : Kind} {key v w : Value}
    (alike : Alike keeps ((Role.body kind).under key) v w)
    (free : ¬(Role.body kind).Keeps keeps key) (unkept : ¬keeps .page "components")
    (named : Kind.ofKey? (.text kind.name) = some kind) (page before after : Fields) :
    Alike keeps .source (onePage page kind (before ++ (key, v) :: after))
      (onePage page kind (before ++ (key, w) :: after)) := by
  have stands : Role.entry.under (.text kind.name) = .body kind := by simp only [Role.under, named]
  have body := alike.of_value free before after
  have entry : Alike keeps .entry (.map [(.text kind.name, .map (before ++ (key, v) :: after))])
      (.map [(.text kind.name, .map (before ++ (key, w) :: after))]) :=
    @Alike.of_value keeps .entry _ _ _ (by rwa [stands]) id [] []
  have listed := @Alike.list keeps .entries _ _ (.cons entry (.nil _))
  have source := @Alike.of_value keeps (.body .page) (.text "components") _ _ listed unkept page []
  exact @Alike.of_value keeps .source (.text "page") _ _ source id [] []

/-- A mapping in two orders. -/
def orders : Value × Value :=
  let a := (.text "a", .int 1)
  let b := (.text "b", .int 2)
  (.map [b, a], .map [a, b])

theorem alike_orders {keeps : Kind → String → Prop} : Alike keeps .plain orders.1 orders.2 :=
  .of_perm (.swap _ _ [])

theorem wellFormed_orders : orders.1.WellFormed ∧ orders.2.WellFormed := by
  constructor <;> simp [orders, Value.Distinct, Value.sameKey, Value.isScalar]

/-- A page with a text of a variant. -/
def wordPage (variant : Value) : Value :=
  onePage [] .text [(.text "variant", variant), (.text "value", .text "x")]

/-- A page with an id, and with a container that has an id and a component that is none. -/
def idPage (first second : Value) : Value :=
  onePage [(.text "id", first)] .container
    [(.text "id", second), (.text "components", .list [.int 5])]

theorem wellFormed_wordPage {variant : Value} (valid : variant.WellFormed) :
    (wordPage variant).WellFormed := by
  simp [wordPage, onePage, Kind.name, Value.Distinct, Value.sameKey, Value.isScalar, valid]

theorem wellFormed_idPage {first second : Value} (valid : first.WellFormed)
    (also : second.WellFormed) : (idPage first second).WellFormed := by
  simp [idPage, onePage, Kind.name, Value.Distinct, Value.sameKey, Value.isScalar, valid, also]

theorem error?_mapError {ε φ α : Type} (see : ε → φ) (result : Except ε α) :
    error? (result.mapError see) = (error? result).map see := by
  cases result <;> rfl

theorem error?_wordPage :
    error? (ofValue (wordPage orders.1)) ≠ error? (ofValue (wordPage orders.2)) := by
  decide +kernel

theorem error?_idPage :
    (error? (ofValue (idPage orders.1 orders.1))).map Fault.unquoted ≠
      (error? (ofValue (idPage orders.1 orders.2))).map Fault.unquoted := by
  decide +kernel

/-- **Order that shows.** The order of keys can change a fault: within a word it changes what the
reason quotes, and within an id it also changes which fault is found first. -/
theorem ofValue_ne_of_alike :
    (¬∀ v w : Value, v.WellFormed → w.WellFormed → Alike (fun _ _ => False) .source v w →
      ofValue v = ofValue w) ∧
    (¬∀ v w : Value, v.WellFormed → w.WellFormed → Alike (fun _ name => name = "id") .source v w →
      ofValue v = ofValue w) ∧
    (¬∀ v w : Value, v.WellFormed → w.WellFormed →
      Alike (fun kind name => name ∈ words kind) .source v w →
        (ofValue v).mapError Fault.unquoted = (ofValue w).mapError Fault.unquoted) := by
  obtain ⟨valid, also⟩ := wellFormed_orders
  have alike {keeps : Kind → String → Prop} (free : ¬keeps .text "variant")
      (unkept : ¬keeps .page "components") :
      Alike keeps .source (wordPage orders.1) (wordPage orders.2) :=
    @alike_onePage keeps .text (.text "variant") _ _ alike_orders free unkept rfl [] []
      [(.text "value", .text "x")]
  have named : Alike (fun kind name => name ∈ words kind) .source (idPage orders.1 orders.1)
      (idPage orders.1 orders.2) :=
    @alike_onePage _ .container (.text "id") _ _ alike_orders (by simp [Role.Keeps, words])
      (by simp [words]) rfl [(.text "id", orders.1)] [] [(.text "components", .list [.int 5])]
  refine ⟨fun all => ?_, fun all => ?_, fun all => ?_⟩
  · exact error?_wordPage (congrArg error?
      (all _ _ (wellFormed_wordPage valid) (wellFormed_wordPage also) (alike id id)))
  · exact error?_wordPage (congrArg error?
      (all _ _ (wellFormed_wordPage valid) (wellFormed_wordPage also)
        (alike (by decide) (by decide))))
  · have same := congrArg error?
      (all _ _ (wellFormed_idPage valid valid) (wellFormed_idPage valid also) named)
    rw [error?_mapError, error?_mapError] at same
    exact error?_idPage same

end Wireframe.Document
