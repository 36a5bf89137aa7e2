import Wireframe.Proofs.Document.Paths

/-! # Broken rules have a place

The path of a broken rule leads from the mapping of a source to a value in it, or it does so
without its last part, which then names what is missing there. An id that is taken twice is
reported at one node, and the node that has taken it first is another one
(`Wireframe.Document.places_of_fault`).

A step of building is judged by the nodes whose ids it takes, each with its path, and by the
paths at which it fails. It breaks off without a path only where the source holds a number
that cannot be written.
-/

namespace Wireframe.Document

open Contract (Place)

open Content

/-! ## Steps of building -/

/-- A broken rule points into a well-formed source. If it reports an id as taken twice, it does so
at one of some nodes, and the id was taken before or is that of a node before it. -/
structure Blames (d : Value) (ids : Ids) (mine : List Spot) (fault : SchemaFault) : Prop where
  points : d.WellFormed → PointsInto d (whole fault.path)
  twice : ∀ id first, fault.cause = .duplicateId id first → ∃ before spot after,
    mine = before ++ spot :: after ∧ spot.id? = some (id, spot.path) ∧
      fault.path = spot.path ++ [.field "id"] ∧ (id, first) ∈ ids ++ before.filterMap Spot.id?

/-- A fault is that of a broken rule, or of a number in the source that cannot be written. -/
def Explains (d : Value) (ids : Ids) (mine : List Spot) : Fault → Prop
  | .schema fault => Blames d ids mine fault
  | .scalar cause => cause = .overlong ∧ d.isOverlong = true
  | .malformed _ => False

/-- A fault has its reason in a source, wherever ids are taken. -/
def Fault.ArisesIn (d : Value) : Fault → Prop
  | .schema fault => (d.WellFormed → PointsInto d (whole fault.path)) ∧ fault.cause.IsOther
  | .scalar cause => cause = .overlong ∧ d.isOverlong = true
  | .malformed _ => False

/-- A step of building takes the ids of some nodes, in order, or fails for what it finds in a
source. -/
def Traces {α : Type} (d : Value) (step : Build α) (mine : List Spot) : Prop :=
  ∀ ids, match step.run ids with
    | .ok done => done.2 = ids ++ mine.filterMap Spot.id?
    | .error fault => Explains d ids mine fault

section

variable {α β : Type} {d : Value} {step : Build α} {next : α → Build β} {mine more : List Spot}

theorem explains_of_arisesIn {fault : Fault} (arises : fault.ArisesIn d) (ids : Ids)
    (mine : List Spot) : Explains d ids mine fault := by
  cases fault with
  | malformed => exact arises
  | scalar cause => exact arises
  | schema fault =>
      refine ⟨arises.1, fun id first same => ?_⟩
      have other := arises.2
      rw [same] at other
      exact other.elim

theorem traces_pure (a : α) : Traces d (pure a) [] := fun ids => (List.append_nil ids).symm

theorem traces_throw (fault : Fault) (arises : fault.ArisesIn d) (mine : List Spot) :
    Traces d (throw fault : Build α) mine := fun ids => explains_of_arisesIn arises ids mine

theorem traces_fail {path : Path} {cause : Cause}
    (points : d.WellFormed → PointsInto d (whole path)) (other : cause.IsOther)
    (mine : List Spot) : Traces d (Build.fail path cause : Build α) mine :=
  traces_throw (.schema ⟨path, cause⟩) ⟨points, other⟩ mine

theorem traces_breakOff (overlong : d.isOverlong = true) (mine : List Spot) :
    Traces d (Build.breakOff : Build α) mine :=
  traces_throw (.scalar .overlong) ⟨rfl, overlong⟩ mine

theorem traces_bind (first : Traces d step mine) (second : ∀ a, Traces d (next a) more) :
    Traces d (step >>= next) (mine ++ more) := by
  intro ids
  have here := first ids
  rw [StateT.run_bind]
  cases ran : step.run ids with
  | error fault =>
      rw [ran] at here
      cases fault with
      | malformed => exact here
      | scalar => exact here
      | schema fault =>
          refine ⟨here.points, fun id at_ same => ?_⟩
          obtain ⟨before, spot, after, rfl, named, path, member⟩ := here.twice id at_ same
          exact ⟨before, spot, after ++ more, by simp, named, path, member⟩
  | ok done =>
      rw [ran] at here
      have behind := second done.1 done.2
      simp only [bind, Except.bind]
      cases ended : (next done.1).run done.2 with
      | ok last =>
          rw [ended] at behind
          simp only at here behind ⊢
          rw [behind, here, List.filterMap_append, List.append_assoc]
      | error fault =>
          rw [ended] at behind
          cases fault with
          | malformed => exact behind
          | scalar => exact behind
          | schema fault =>
              refine ⟨behind.points, fun id at_ same => ?_⟩
              obtain ⟨before, spot, after, rfl, named, path, member⟩ := behind.twice id at_ same
              refine ⟨mine ++ before, spot, after, by simp, named, path, ?_⟩
              rwa [List.filterMap_append, ← List.append_assoc, ← show done.2 = _ from here]

/-- A step before which no id is taken. -/
theorem traces_after (first : Traces d step []) (second : ∀ a, Traces d (next a) mine) :
    Traces d (step >>= next) mine := traces_bind first second

/-- A step after which no id is taken. -/
theorem traces_before (first : Traces d step mine) (second : ∀ a, Traces d (next a) []) :
    Traces d (step >>= next) mine := by
  have traces := traces_bind first second
  rwa [List.append_nil] at traces

theorem traces_map (f : α → β) (traces : Traces d step mine) : Traces d (f <$> step) mine := by
  rw [← bind_pure_comp]
  exact traces_before traces fun a => traces_pure (f a)

theorem traces_lift {γ : Type} {result : Except Fault γ} {next : γ → Build α}
    (fails : ∀ fault, result = .error fault → fault.ArisesIn d)
    (second : ∀ x, result = .ok x → Traces d (next x) mine) :
    Traces d (liftM result >>= next) mine := by
  cases result with
  | error fault => exact traces_throw fault (fails fault rfl) mine
  | ok x => exact second x rfl

end

/-! ## The steps -/

section

variable {d : Value} {path : Path} {body : Fields}

theorem HoldsAt.there (holds : HoldsAt d path body) (name : String) :
    PointsInto d (whole (path ++ [.field name])) := by
  rcases holds with there | ⟨there, _⟩
  · exact .front _ (.field name) trivial there
  · exact .front _ (.field name) trivial there

theorem HoldsAt.wellFormed (holds : HoldsAt d path body) (valid : d.WellFormed) :
    (Value.map body).WellFormed := by
  rcases holds with there | ⟨_, rfl⟩
  · exact wellFormed_of_follow? valid there
  · exact .map nofun .nil nofun

theorem HoldsAt.isOverlong (holds : HoldsAt d path body)
    (overlong : (Value.map body).isOverlong = true) : d.isOverlong = true := by
  rcases holds with there | ⟨_, rfl⟩
  · exact isOverlong_of_follow? there overlong
  · cases overlong

theorem traces_read {α : Type} (holds : HoldsAt d path body) {result : Except FieldFault α}
    (faults : FaultsPoint body result) : Traces d (Build.read path result) [] := by
  cases result with
  | error fault =>
      have found := faults fault rfl
      unfold Build.read
      split
      · contradiction
      · rename_i same
        cases same
        exact traces_breakOff (holds.isOverlong (found.heavy rfl)) []
      · rename_i same
        cases same
        exact traces_fail (fun valid => holds.points (found.points (holds.wellFormed valid)) trivial)
          (show Cause.IsOther (.field fault) from trivial) []
  | ok a => exact traces_pure a

theorem traces_refuse (holds : HoldsAt d path body) (name : String) {cause : Cause}
    (other : cause.IsOther) : Traces d (Build.refuse path body name cause) [] := by
  unfold Build.refuse
  split
  · exact traces_fail (fun _ => holds.there name) other []
  · exact traces_pure ()

theorem traces_weigh (holds : HoldsAt d path body) (kind : Kind) :
    Traces d (Build.weigh kind body) [] := by
  unfold Build.weigh
  split
  · rename_i heavy
    obtain ⟨name, _, given⟩ := List.any_eq_true.mp heavy
    obtain ⟨v, found, overlong⟩ := (Option.any_eq_true _ _).mp given
    refine traces_breakOff (holds.isOverlong (Value.isOverlong_of_field? found ?_)) []
    cases v with
    | int n => exact overlong
    | _ => cases overlong
  · exact traces_pure ()

/-- The id that a node gives stands below the node. -/
theorem HoldsAt.given (holds : HoldsAt d path body) {kind : Kind} {v : Value}
    (given : givenId? (kind, body) = some v) :
    follow? d (whole (path ++ [.field "id"])) = some v := by
  unfold givenId? at given
  split at given
  · cases given
  · cases given
  · rename_i found
    cases given
    exact holds.field found

/-- A node takes its id, or the id is taken and it is reported under the node. -/
theorem traces_claim (holds : HoldsAt d path body) (kind : Kind) :
    Traces d (Build.claim path (Value.field? "id" body)) [⟨path, kind, body⟩] := by
  have free (missing : givenId? (kind, body) = none) :
      Traces d (pure () : Build Unit) [⟨path, kind, body⟩] := by
    intro ids
    have nameless : Spot.id? ⟨path, kind, body⟩ = none := by
      rw [Spot.id?, idCodes?, missing]
      rfl
    change ids = ids ++ [Spot.mk path kind body].filterMap Spot.id?
    rw [List.filterMap_cons_none nameless, List.filterMap_nil, List.append_nil]
  have given {v : Value} (found : givenId? (kind, body) = some v) (other : v ≠ .null) :
      Traces d (Build.claim path (some v)) [⟨path, kind, body⟩] := by
    have id : Spot.id? ⟨path, kind, body⟩ = some (v.codes, path) := by
      rw [Spot.id?, idCodes?, found]
      rfl
    cases overlong : v.isOverlong with
    | true =>
        rw [claim_overlong overlong]
        exact traces_breakOff (isOverlong_of_follow? (holds.given found) overlong) _
    | false =>
        intro ids
        rw [run_claim other overlong]
        cases known : ids.lookup v.codes with
        | some first =>
            refine ⟨fun _ => holds.there "id", ?_⟩
            rintro text at_ ⟨⟩
            obtain ⟨earlier, later, rfl, -⟩ := List.lookup_eq_some_iff.mp known
            exact ⟨[], _, [], rfl, id, rfl, by simp⟩
        | none => simp [id]
  cases found : Value.field? "id" body with
  | none => exact free (by rw [givenId?, found])
  | some v =>
      by_cases null : v = .null
      · subst null
        exact free (by rw [givenId?, found])
      · exact given (givenId?_of_found found null) null

theorem fails_openList (holds : HoldsAt d path body) (name : String) (fault : Fault)
    (failed : openList path body name = .error fault) : fault.ArisesIn d := by
  unfold openList at failed
  split at failed <;> cases failed
  exact ⟨fun _ => holds.there name, trivial⟩

/-- What is no entry is reported where it stands, or at the body that is no mapping of fields. -/
theorem fails_openEntry {slot : Slot} {v : Value} (there : follow? d (whole path) = some v)
    (fault : Fault) (failed : openEntry slot path v = .error fault) : fault.ArisesIn d := by
  unfold openEntry at failed
  split at failed
  · rename_i key body
    split at failed
    · split at failed
      · rename_i overlong
        cases failed
        refine ⟨rfl, isOverlong_of_follow? there ?_⟩
        rw [Value.isOverlong, Value.anyOverlongEntry, overlong, Bool.true_or, Bool.true_or]
      · cases failed
        exact ⟨fun _ => .whole there, trivial⟩
    · split at failed
      · cases failed
        exact ⟨fun _ => .whole there, trivial⟩
      · split at failed <;> cases failed
        exact ⟨fun _ => .front _ (.body _) trivial there, trivial⟩
  · cases failed
    exact ⟨fun _ => .whole there, trivial⟩

/-! ## The builders -/

theorem traces_buildLeaf {α : Type} {read : Fields → Except FieldFault α}
    (holds : HoldsAt d path body) (kind : Kind) (faults : FaultsPoint body (read body)) :
    Traces d (buildLeaf kind path body read) [⟨path, kind, body⟩] :=
  traces_before (traces_claim holds kind) fun _ =>
    traces_after (traces_refuse holds "components" trivial) fun _ =>
      traces_after (traces_refuse holds "children" trivial) fun _ =>
        traces_after (traces_weigh holds kind) fun _ => traces_read holds faults

theorem traces_buildControl (holds : HoldsAt d path body) {kind : Kind}
    (member : kind ∈ Place.fields.kinds) :
    Traces d (buildControl kind path body) [⟨path, kind, body⟩] := by
  cases kind with
  | input => exact traces_map _ (traces_buildLeaf holds _ faultsPoint_readInput)
  | checkbox => exact traces_map _ (traces_buildLeaf holds _ faultsPoint_readCheckbox)
  | radio => exact traces_map _ (traces_buildLeaf holds _ faultsPoint_readRadio)
  | select => exact traces_map _ (traces_buildLeaf holds _ faultsPoint_readSelect)
  | _ => simp [Place.kinds] at member

/-- The entries of a list of a form take their ids one after the other. -/
theorem traces_buildEntries {α : Type} {place : Place} {build : Kind → Path → Fields → Build α}
    (leaves : ∀ kind ∈ place.kinds, Contract.lists kind = [])
    (builds : ∀ kind ∈ place.kinds, ∀ path body, HoldsAt d path body →
      Traces d (build kind path body) [⟨path, kind, body⟩])
    {index : Nat} {entries : List Value} (listed : ListedAt d path index entries) :
    Traces d (buildEntries place.slot path build index entries) (spotsAll path index entries) := by
  induction entries generalizing index with
  | nil =>
      rw [spotsAll]
      exact traces_pure []
  | cons v rest ih =>
      refine traces_lift (fails_openEntry listed.first) fun opened same => ?_
      obtain ⟨kind, body⟩ := opened
      obtain ⟨member, _⟩ := entry_of_openEntry same
      have found := entryOf?_of_openEntry same
      rw [spotsAll_cons, spotsAll_one path index found, spots_leaf (leaves kind member)]
      exact traces_bind (builds kind member _ body (holdsAt_of_entryOf? listed.first found))
        fun first => traces_map (first :: ·) (ih listed.rest)

theorem traces_buildForm (holds : HoldsAt d path body) :
    Traces d (buildForm path body) (spots path .form body) := by
  have controls := @traces_buildEntries d (path ++ [.field "fields"]) _ .fields buildControl
    (by decide) (fun kind member here body holds => traces_buildControl holds member) 0 _
    (holds.listed "fields")
  have actions := @traces_buildEntries d (path ++ [.field "actions"]) _ .actions
    (fun kind here body => buildLeaf kind here body Button.read) (by decide)
    (fun kind _ here body holds => traces_buildLeaf holds kind faultsPoint_readButton) 0 _
    (holds.listed "actions")
  rw [spots]
  refine traces_bind (traces_claim holds .form) fun _ =>
    traces_after (traces_refuse holds "components" trivial) fun _ =>
      traces_after (traces_refuse holds "children" trivial) fun _ => ?_
  refine traces_lift (fails_openList holds "fields") fun fields listedFields => ?_
  obtain rfl := listed_of_openList listedFields
  refine traces_bind controls fun _ => ?_
  refine traces_lift (fails_openList holds "actions") fun items listedActions => ?_
  obtain rfl := listed_of_openList listedActions
  exact traces_before actions fun _ => traces_after (traces_weigh holds .form) fun _ =>
    traces_after (traces_read holds (faultsPoint_required "id" quotes_text)) fun _ =>
      traces_pure _

/-- A container takes its id before the ids of what it holds. -/
theorem traces_container {v : Value}
    (opened : openEntry .anywhere path v = .ok (.container, body))
    (holds : HoldsAt d (path ++ [.body .container]) body)
    (inside : Traces d
      (buildComponents (path ++ [.body .container] ++ [.field "components"]) 0
        (listed body "components"))
      (spotsAll (path ++ [.body .container] ++ [.field "components"]) 0
        (listed body "components"))) :
    Traces d (buildComponent path v) (spots (path ++ [.body .container]) .container body) := by
  rw [buildComponent_container opened, spots]
  refine traces_bind (traces_claim holds .container) fun _ =>
    traces_after (traces_refuse holds "children" trivial) fun _ => ?_
  refine traces_lift (fails_openList holds "components") fun items listedItems => ?_
  obtain rfl := listed_of_openList listedItems
  exact traces_before inside fun _ => traces_after (traces_weigh holds .container) fun _ =>
    traces_after (traces_read holds faultsPoint_id) fun _ =>
      traces_after (traces_read holds
        (faultsPoint_withDefault "layout" Layout.vertical (quotes_word _))) fun _ => traces_pure _

theorem traces_other {v : Value} {kind : Kind}
    (opened : openEntry .anywhere path v = .ok (kind, body))
    (holds : HoldsAt d (path ++ [.body kind]) body) (other : kind ≠ .container) :
    Traces d (buildComponent path v) (spots (path ++ [.body kind]) kind body) := by
  rw [buildComponent]
  split
  · rename_i fault failed
    cases opened.symm.trans failed
  · rename_i found
    cases opened.symm.trans found
    cases kind with
    | text =>
        rw [spots_leaf rfl]
        exact traces_map _ (traces_buildLeaf holds _ faultsPoint_readText)
    | button =>
        rw [spots_leaf rfl]
        exact traces_map _ (traces_buildLeaf holds _ faultsPoint_readButton)
    | divider =>
        rw [spots_leaf rfl]
        exact traces_map _ (traces_buildLeaf holds _ faultsPoint_readDivider)
    | alert =>
        rw [spots_leaf rfl]
        exact traces_map _ (traces_buildLeaf holds _ faultsPoint_readAlert)
    | input | checkbox | radio | select =>
        rw [spots_leaf rfl]
        exact traces_map _ (traces_buildControl holds (by decide))
    | form => exact traces_map _ (traces_buildForm holds)
    | container => exact absurd rfl other
    | page => exact absurd rfl (ne_page_of_openEntry opened)

end

mutual

/-- A component takes the ids of its node and of all nodes below it. -/
theorem traces_buildComponent {d : Value} {path : Path} {index : Nat}
    (v : Value) (there : follow? d (whole (path ++ [.item index])) = some v) :
    Traces d (buildComponent (path ++ [.item index]) v) (spotsAll path index [v]) := by
  cases opened : openEntry .anywhere (path ++ [.item index]) v with
  | error fault =>
      rw [buildComponent_error opened]
      exact traces_throw fault (fails_openEntry there fault opened) _
  | ok entry =>
      obtain ⟨kind, body⟩ := entry
      have found := entryOf?_of_openEntry opened
      have holds := holdsAt_of_entryOf? there found
      rw [spotsAll_one path index found]
      by_cases container : kind = .container
      · subst container
        -- The recursion ends since a list is smaller than the entry in whose body it stands.
        have fewer := sizeOf_entryOf?_lt found
        have smaller := sizeOf_listed_lt body "components"
        exact traces_container opened holds
          (traces_buildComponents (listed body "components") (holds.listed "components"))
      · exact traces_other opened holds container
termination_by sizeOf v

/-- Components take the ids of the nodes of a list, in order. -/
theorem traces_buildComponents {d : Value} {path : Path} {index : Nat}
    (entries : List Value) (listed : ListedAt d path index entries) :
    Traces d (buildComponents path index entries) (spotsAll path index entries) := by
  match entries, listed with
  | [], _ =>
      rw [buildComponents, spotsAll]
      exact traces_pure []
  | v :: rest, listed =>
      rw [buildComponents, spotsAll_cons]
      exact traces_bind (traces_buildComponent v listed.first) fun first =>
        traces_map (first :: ·) (traces_buildComponents rest listed.rest)
termination_by sizeOf entries

end

/-- The page takes the ids of all nodes. -/
theorem traces_buildPage {d : Value} {body : Fields} (holds : HoldsAt d [] body) :
    Traces d (buildPage body) (spots [] .page body) := by
  rw [spots]
  refine traces_after (traces_refuse holds "children" trivial) fun _ =>
    traces_bind (traces_claim holds .page) fun _ => ?_
  refine traces_lift (fails_openList holds "components") fun items listedItems => ?_
  obtain rfl := listed_of_openList listedItems
  exact traces_before (traces_buildComponents _ (holds.listed "components")) fun _ =>
    traces_after (traces_weigh holds .page) fun _ =>
      traces_after (traces_read holds faultsPoint_id) fun _ =>
        traces_after (traces_read holds
          (faultsPoint_withDefault "title" none quotes_optionalText)) fun _ =>
          traces_after (traces_read holds
            (faultsPoint_withDefault "layout" Layout.vertical (quotes_word _))) fun _ =>
            traces_pure _

/-! ## Broken rules -/

/-- The nodes of the source that is a mapping, its page first. -/
def nodes (entries : Fields) : List Spot :=
  match Value.field? "page" entries with
  | some (.map body) => spots [] .page body
  | _ => []

/-- A node stands at a path of a source, and the id under it has a text of some code points. -/
structure NamesAt (entries : Fields) (path : Path) (id : List Nat) : Prop where
  node : ∃ spot ∈ nodes entries, spot.path = path
  id : ∃ v, follow? (.map entries) (whole (path ++ [.field "id"])) = some v ∧ v ≠ .null ∧
    v.codes = id

/-- A broken rule has a place in a source: its path begins at the page and leads to a value, or it
does so without its last part. If an id is taken twice, its path is that of the id of a node, and
the node that is named as the first is another one whose id has the same text. -/
structure Placed (entries : Fields) (fault : SchemaFault) : Prop where
  starts : "page".toList <+: fault.path.text.toList
  points : PointsInto (.map entries) (whole fault.path)
  twice : ∀ id first, fault.cause = .duplicateId id first → ∃ node,
    fault.path = node ++ [.field "id"] ∧ node ≠ first ∧ NamesAt entries node id ∧
      NamesAt entries first id

theorem namesAt_of_id? {entries : Fields} {among : Path → Prop}
    (laid : Laid (.map entries) among (nodes entries)) {spot : Spot}
    (member : spot ∈ nodes entries) {id : List Nat} {path : Path}
    (named : spot.id? = some (id, path)) : spot.path = path ∧ NamesAt entries path id := by
  obtain ⟨_, names, same⟩ := Option.map_eq_some_iff.mp named
  obtain ⟨rfl, rfl⟩ := Prod.mk.inj same
  obtain ⟨v, given, rfl⟩ := Option.map_eq_some_iff.mp names
  have holds := laid.holds spot member
  exact ⟨rfl, ⟨spot, member, rfl⟩, v, holds.given given, ne_null_of_givenId? given, rfl⟩

/-- An id that is reported as taken twice is that of two nodes at different paths. -/
theorem two_of_blames {entries : Fields} {among : Path → Prop}
    (laid : Laid (.map entries) among (nodes entries)) {fault : SchemaFault}
    (blames : Blames (.map entries) [] (nodes entries) fault) (id : List Nat) (first : Path)
    (same : fault.cause = .duplicateId id first) :
    ∃ node, fault.path = node ++ [.field "id"] ∧ node ≠ first ∧ NamesAt entries node id ∧
      NamesAt entries first id := by
  obtain ⟨before, latter, after, parts, named, path, earlier⟩ := blames.twice id first same
  obtain ⟨former, member, taken⟩ := List.mem_filterMap.mp earlier
  have apart := laid.apart
  rw [parts, List.pairwise_append] at apart
  have differ := apart.2.2 former member latter List.mem_cons_self
  obtain ⟨rfl, namesFormer⟩ := namesAt_of_id? laid (by simp [parts, member]) taken
  obtain ⟨-, namesLatter⟩ := namesAt_of_id? laid (by simp [parts]) named
  exact ⟨latter.path, path, differ.symm, namesLatter, namesFormer⟩

theorem follow?_page {entries : Fields} {v : Value} (found : Value.field? "page" entries = some v) :
    follow? (.map entries) (whole []) = some v :=
  (@follow?_snoc (.map entries) _ [] rfl (.field "page")).trans found

/-- Where the page of a mapping cannot be built, this is explained by what the mapping holds. -/
theorem explains_of_page {entries body : Fields} {fault : Fault}
    (found : Value.field? "page" entries = some (.map body))
    (refused : (buildPage body).run [] = .error fault) :
    Explains (.map entries) [] (spots [] .page body) fault := by
  have traced := traces_buildPage (d := .map entries) (.inl (follow?_page found)) []
  rwa [refused] at traced

/-- **What stops the building.** A mapping breaks a rule, or it holds a number that cannot be
written. -/
theorem fault_of_build {entries : Fields} {fault : Fault} (refused : build entries = .error fault) :
    (∃ broken, fault = .schema broken) ∨
      fault = .scalar .overlong ∧ (Value.map entries).isOverlong = true := by
  unfold build at refused
  split at refused
  · cases refused
    exact .inl ⟨_, rfl⟩
  · cases refused
    exact .inl ⟨_, rfl⟩
  · rename_i body found
    cases ran : (buildPage body).run [] with
    | ok done => simp [ran] at refused
    | error other =>
        have explains := explains_of_page found ran
        rw [ran] at refused
        cases refused
        cases fault with
        | schema broken => exact .inl ⟨broken, rfl⟩
        | scalar cause => exact .inr ⟨congrArg Fault.scalar explains.1, explains.2⟩
        | malformed => exact explains.elim
  · cases refused
    exact .inl ⟨_, rfl⟩

theorem placed_of_build {entries : Fields} (valid : (Value.map entries).WellFormed)
    {fault : SchemaFault} (refused : build entries = .error (.schema fault)) :
    Placed entries fault := by
  have starts : "page".toList <+: fault.path.text.toList := by
    rw [Path.text, String.toList_append]
    exact List.prefix_append _ _
  unfold build at refused
  split at refused
  · cases refused
    exact ⟨starts, .front [] (.field "page") trivial rfl, nofun⟩
  · cases refused
    exact ⟨starts, .front [] (.field "page") trivial rfl, nofun⟩
  · rename_i body found
    have all : nodes entries = spots [] .page body := by rw [nodes, found]
    have laid := laid_spots (d := .map entries) .page (.inl (follow?_page found))
    cases ran : (buildPage body).run [] with
    | ok done => simp [ran] at refused
    | error other =>
        have blames := explains_of_page found ran
        rw [ran] at refused
        cases refused
        rw [← all] at laid blames
        exact ⟨starts, blames.points valid, two_of_blames laid blames⟩
  · rename_i other _ _ found
    cases refused
    exact ⟨starts, .whole (follow?_page found), nofun⟩

/-- The value of a source is well-formed. -/
theorem wellFormed_of_value? {source : Source} {v : Value} (value : source.value? = some v) :
    v.WellFormed := by
  have load {s : String} (loaded : (Yaml.load s).mapError Fault.ofYaml = .ok v) : v.WellFormed :=
    Yaml.wellFormed_of_load s v (ok_of_mapError loaded)
  have loaded := load_of_value? value
  cases source with
  | text s => exact load loaded
  | bytes b =>
      rw [Source.load] at loaded
      split at loaded
      · exact load loaded
      · cases loaded

/-- The error of a result. -/
def error? {ε α : Type} : Except ε α → Option ε
  | .ok _ => none
  | .error e => some e

theorem eq_of_error? {ε α : Type} {result : Except ε α} {e : ε}
    (failed : error? result = some e) : result = .error e := by
  cases result with
  | ok a => cases failed
  | error found => exact congrArg Except.error (Option.some.inj failed)

/-- **Broken rules have a place.** For a well-formed mapping, and so for every source, the path of
a broken rule begins at the page and leads to a value of the mapping, or it does so without its last
part. If an id is taken twice, its path is that of the id of one node, the node that is named as the
first is another one, and the ids of both have the text that is reported. -/
theorem places_of_fault :
    (∀ entries fault, (Value.map entries).WellFormed → build entries = .error (.schema fault) →
      Placed entries fault) ∧
    ∀ source fault, ofSource source = .error (.schema fault) →
      ∃ entries, source.value? = some (.map entries) ∧ Placed entries fault := by
  refine ⟨fun entries fault valid refused => placed_of_build valid refused,
    fun source fault refused => ?_⟩
  obtain ⟨entries, value, built⟩ := built_of_schema refused
  exact ⟨entries, value, placed_of_build (wellFormed_of_value? value) built⟩

/-- An id that a second line takes is reported at that line. -/
theorem places_of_twice :
    let source := .text "page: \x7bcomponents: [Divider: \x7bid: a\x7d, Divider: \x7bid: a\x7d]\x7d"
    let line (i : Nat) : Path := [.field "components", .item i, .body .divider]
    let fault := ⟨line 1 ++ [.field "id"], .duplicateId (Text.codes "a") (line 0)⟩
    ofSource source = .error (.schema fault) ∧
      ∃ entries, source.value? = some (.map entries) ∧ Placed entries fault := by
  intro source line fault
  have faults : error? (ofSource source) = some (.schema fault) := by decide +kernel
  have refused : ofSource source = .error (.schema fault) := eq_of_error? faults
  exact ⟨refused, places_of_fault.2 source fault refused⟩

end Wireframe.Document
