import Mathlib.Data.List.Forall2
import Wireframe.Proofs.Document.Walk
import Wireframe.Proofs.Text.Codes
import Wireframe.Proofs.Text.Spelled
import Wireframe.Proofs.Text.Utf8

/-! # Ids

While a document is built, the ids of its entries are told apart by the code points of their
texts. What a node gets as its id is what the value of the entry means. For a text or a
number, the two are one; for bytes, the text is the literal of the bytes and the meaning is
the text that they encode. Both tell bytes apart. So ids that are all bytes, or none of them,
are told apart as they should be. Bytes and a text may mean one id and have two texts, or have
one text and mean two ids (`Wireframe.Document.ids_of_source`).

An id with halves of surrogate pairs is shown without them. Two of these may be shown alike,
but they are told apart as well.
-/

namespace Wireframe

/-- A value that is bytes. -/
def Value.isBytes : Value → Bool
  | .bytes _ => true
  | _ => false

/-- The entries of a source, its page first. -/
def Source.Lists (source : Source) (listed : List (Document.Kind × Document.Fields)) : Prop :=
  ∃ entries body, source.value? = some (.map entries) ∧
    Value.field? "page" entries = some (.map body) ∧ listed = Document.outline .page body

namespace Document

open Contract (Place)

open Content

/-! ## The ids of entries -/

/-- The value that an entry gives as its id, unless it is null. -/
def givenId? (entry : Kind × Fields) : Option Value :=
  match Value.field? "id" entry.2 with
  | none | some .null => none
  | some v => some v

theorem givenId?_of_found {kind : Kind} {body : Fields} {v : Value}
    (found : Value.field? "id" body = some v) (other : v ≠ .null) :
    givenId? (kind, body) = some v := by
  rw [givenId?, found]
  cases v with
  | null => exact absurd rfl other
  | _ => rfl

theorem ne_null_of_givenId? {entry : Kind × Fields} {v : Value} (given : givenId? entry = some v) :
    v ≠ .null := by
  unfold givenId? at given
  split at given
  · cases given
  · cases given
  · cases given
    assumption

/-- The code points by which the id of an entry is told apart. -/
def idCodes? (entry : Kind × Fields) : Option (List Nat) := (givenId? entry).map Value.codes

/-- The entry at a position gives a value as its id. -/
def GivesAt (listed : List (Kind × Fields)) (i : Nat) (v : Value) : Prop :=
  listed[i]?.bind givenId? = some v

/-- The node at a position of a walk has an id. -/
def NamedAt (walk : List Node) (i : Nat) (id : String) : Prop := walk[i]?.bind Node.id? = some id

/-- What a value means is shown for its code points, unless it is bytes. -/
theorem toText_of_means {v : Value} {s : String} (means : MeansText v s)
    (other : v.isBytes = false) : v.toText = s := by
  cases v with
  | text _ | halved _ | int _ | float _ => exact Eq.symm means
  | bytes b => cases other
  | _ => cases means

theorem bytes_of_isBytes {v : Value} (isBytes : v.isBytes = true) : ∃ b, v = .bytes b := by
  cases v with
  | bytes b => exact ⟨b, rfl⟩
  | _ => cases isBytes

theorem codes_bytes_inj {b c : List UInt8}
    (same : (Value.bytes b).codes = (Value.bytes c).codes) : b = c :=
  Text.Spelled.encodeBytes_inj (String.ofList_injective (Value.toText_of_codes same))

/-- **One id, one meaning.** If two values that are bytes, or two that are not, have the same code
points, then they mean the same text. -/
theorem eq_of_codes {v w : Value} {s t : String} (alike : v.isBytes = w.isBytes)
    (first : MeansText v s) (second : MeansText w t) (same : v.codes = w.codes) : s = t := by
  cases bytes : w.isBytes with
  | false =>
      rw [← toText_of_means first (alike.trans bytes), ← toText_of_means second bytes]
      exact Value.toText_of_codes same
  | true =>
      obtain ⟨b, rfl⟩ := bytes_of_isBytes (alike.trans bytes)
      obtain ⟨c, rfl⟩ := bytes_of_isBytes bytes
      have left : Text.Utf8.decode b = .ok s.toList := first
      have right : Text.Utf8.decode c = .ok t.toList := second
      rw [codes_bytes_inj same, right] at left
      exact (String.toList_injective (Except.ok.inj left)).symm

/-- **One meaning, one id.** If two values that are bytes, or two that are not, mean the same text,
then they have the same code points, unless there are halves of surrogate pairs among these. -/
theorem codes_of_eq {v w : Value} {s : String} (alike : v.isBytes = w.isBytes)
    (first : MeansText v s) (second : MeansText w s) (plain : v.isHalved = false)
    (also : w.isHalved = false) : v.codes = w.codes := by
  rw [Value.codes_eq_iff plain also]
  cases bytes : w.isBytes with
  | false => rw [toText_of_means first (alike.trans bytes), toText_of_means second bytes]
  | true =>
      obtain ⟨b, rfl⟩ := bytes_of_isBytes (alike.trans bytes)
      obtain ⟨c, rfl⟩ := bytes_of_isBytes bytes
      have left : Text.Utf8.decode b = .ok s.toList := first
      have right : Text.Utf8.decode c = .ok s.toList := second
      rw [Text.Utf8.eq_of_decode left, Text.Utf8.eq_of_decode right]

/-! ## The ids of nodes -/

theorem bearsId_of_bears {body : Fields} {id : String} (bears : Bears body "id" MeansText id) :
    BearsId body (some id) := by
  obtain ⟨v, found, means⟩ := bears
  rw [BearsId, BearsOr, found]
  cases v with
  | null => cases means
  | _ => exact ⟨id, rfl, means⟩

/-- Whatever its kind is, a node has the id that the body of its entry gives it. -/
theorem bearsId_of_portrays {node : Node} {body : Fields} (portrays : node.Portrays body) :
    BearsId body node.id? := by
  cases node with
  | page p => exact portrays.1
  | component c =>
      cases c with
      | form c => exact bearsId_of_bears portrays.1
      | control c => cases c <;> exact portrays.1
      | _ => exact portrays.1

/-- The id of a node is the meaning of the value that its entry gives. -/
theorem givenId?_of_stands {entry : Kind × Fields} {node : Node} {id : String}
    (stands : Stands entry node) (named : node.id? = some id) :
    ∃ v, givenId? entry = some v ∧ MeansText v id := by
  have bears := bearsId_of_portrays stands.2
  rw [named, BearsId, BearsOr] at bears
  unfold givenId?
  cases found : Value.field? "id" entry.2 with
  | none =>
      rw [found] at bears
      cases bears
  | some v =>
      rw [found] at bears
      cases v with
      | null => cases bears
      | _ =>
          obtain ⟨s, same, means⟩ := bears
          cases same
          exact ⟨_, rfl, means⟩

/-! ## What steps of building claim -/

/-- A broken rule other than that an id is taken twice. -/
def Cause.IsOther : Cause → Prop
  | .duplicateId _ _ => False
  | _ => True

/-- A fault other than that an id is taken twice. -/
def Fault.IsOther : Fault → Prop
  | .schema fault => fault.cause.IsOther
  | _ => True

/-- A step of building takes the ids of some entries, in order. It reports an id as taken twice only
at an entry whose id was taken before, or is the id of an entry before it. -/
def Claims {α : Type} (step : Build α) (entries : List (Kind × Fields)) : Prop :=
  ∀ ids : Ids,
    (∀ done, step.run ids = .ok done →
      taken done.2 = taken ids ++ entries.filterMap idCodes?) ∧
    ∀ path id first, step.run ids = .error (.schema ⟨path, .duplicateId id first⟩) →
      ∃ before entry after, entries = before ++ entry :: after ∧ idCodes? entry = some id ∧
        id ∈ taken ids ++ before.filterMap idCodes?

section

variable {α β : Type} {step : Build α} {next : α → Build β} {entries others : List (Kind × Fields)}

theorem claims_pure (a : α) : Claims (pure a) [] := by
  refine fun ids => ⟨?_, nofun⟩
  rintro done ⟨⟩
  exact (List.append_nil _).symm

theorem claims_throw {fault : Fault} (other : fault.IsOther)
    (entries : List (Kind × Fields)) : Claims (throw fault : Build α) entries := by
  refine fun ids => ⟨nofun, ?_⟩
  rintro path text first ⟨⟩
  exact other.elim

theorem claims_bind (first : Claims step entries) (second : ∀ a, Claims (next a) others) :
    Claims (step >>= next) (entries ++ others) := by
  intro ids
  have run : (step >>= next).run ids = step.run ids >>= fun done => (next done.1).run done.2 := rfl
  rw [run]
  cases ran : step.run ids with
  | error fault =>
      refine ⟨nofun, ?_⟩
      rintro path text at_ ⟨⟩
      obtain ⟨before, entry, after, rfl, twice, member⟩ := (first ids).2 path text at_ ran
      refine ⟨before, entry, after ++ others, ?_, twice, member⟩
      rw [List.append_assoc, List.cons_append]
  | ok done =>
      have now := (first ids).1 done ran
      constructor
      · intro last ended
        rw [(second done.1 done.2).1 last ended, now, List.filterMap_append, List.append_assoc]
      · intro path text at_ ended
        obtain ⟨before, entry, after, rfl, twice, member⟩ :=
          (second done.1 done.2).2 path text at_ ended
        refine ⟨entries ++ before, entry, after, (List.append_assoc ..).symm, twice, ?_⟩
        rwa [List.filterMap_append, ← List.append_assoc, ← now]

/-- A step before which nothing is claimed. -/
theorem claims_after (first : Claims step []) (second : ∀ a, Claims (next a) entries) :
    Claims (step >>= next) entries := claims_bind first second

/-- A step after which nothing is claimed. -/
theorem claims_before (first : Claims step entries) (second : ∀ a, Claims (next a) []) :
    Claims (step >>= next) entries := by
  have claims := claims_bind first second
  rwa [List.append_nil] at claims

theorem claims_map (f : α → β) (claims : Claims step entries) : Claims (f <$> step) entries := by
  rw [← bind_pure_comp]
  exact claims_before claims fun a => claims_pure (f a)

theorem claims_lift {γ : Type} {result : Except Fault γ} {next : γ → Build α}
    (other : ∀ fault, result = .error fault → fault.IsOther)
    (second : ∀ x, result = .ok x → Claims (next x) entries) :
    Claims (liftM result >>= next) entries := by
  cases result with
  | error fault => exact claims_throw (other fault rfl) entries
  | ok x => exact second x rfl

theorem claims_read (path : Path) (result : Except FieldFault α) :
    Claims (Build.read path result) [] := by
  cases result with
  | error fault =>
      unfold Build.read
      split
      · contradiction
      · exact claims_throw (show Fault.IsOther (.scalar _) from trivial) []
      · rename_i found _ _
        exact claims_throw (show Fault.IsOther (.schema ⟨_, .field found⟩) from trivial) []
  | ok a => exact claims_pure a

end

theorem claims_weigh (kind : Kind) (body : Fields) : Claims (Build.weigh kind body) [] := by
  unfold Build.weigh
  split
  · exact claims_throw (show Fault.IsOther (.scalar _) from trivial) []
  · exact claims_pure ()

theorem claims_refuse (path : Path) (body : Fields) (name : String) {cause : Cause}
    (other : cause.IsOther) :
    Claims (Build.refuse path body name cause) [] := by
  unfold Build.refuse
  split
  · exact claims_throw (show Fault.IsOther (.schema ⟨_, cause⟩) from other) []
  · exact claims_pure ()

/-- Claiming takes the id of an entry or finds that it is taken. -/
theorem claims_claim (path : Path) (kind : Kind) (body : Fields) :
    Claims (Build.claim path (Value.field? "id" body)) [(kind, body)] := by
  have free (missing : givenId? (kind, body) = none) :
      Claims (pure () : Build Unit) [(kind, body)] := by
    refine fun ids => ⟨?_, nofun⟩
    rintro done ⟨⟩
    simp [idCodes?, missing]
  have given {v : Value} (found : givenId? (kind, body) = some v) (other : v ≠ .null) :
      Claims (Build.claim path (some v)) [(kind, body)] := by
    have codes : idCodes? (kind, body) = some v.codes := by rw [idCodes?, found, Option.map_some]
    cases overlong : v.isOverlong with
    | true =>
        rw [claim_overlong overlong]
        exact claims_throw (show Fault.IsOther (.scalar _) from trivial) _
    | false =>
        intro ids
        rw [run_claim other overlong]
        cases known : ids.lookup v.codes with
        | some first =>
            refine ⟨nofun, ?_⟩
            rintro at_ same before ⟨⟩
            have member : v.codes ∈ taken ids := by
              by_contra missing
              rw [(lookup_eq_none_iff ids v.codes).mpr missing] at known
              cases known
            exact ⟨[], (kind, body), [], rfl, codes, List.mem_append_left _ member⟩
        | none =>
            refine ⟨?_, nofun⟩
            rintro done ⟨⟩
            rw [taken, List.map_append, List.filterMap_cons_some codes]
            rfl
  cases found : Value.field? "id" body with
  | none => exact free (by rw [givenId?, found])
  | some v =>
      by_cases null : v = .null
      · subst null
        exact free (by rw [givenId?, found])
      · exact given (givenId?_of_found found null) null

theorem isOther_of_openEntry {slot : Slot} {path : Path} {v : Value} {fault : Fault}
    (failed : openEntry slot path v = .error fault) : fault.IsOther := by
  unfold openEntry at failed
  split at failed
  · split at failed
    · split at failed <;> cases failed <;> trivial
    · split at failed
      · cases failed
        trivial
      · split at failed <;> cases failed
        trivial
  · cases failed
    trivial

theorem isOther_of_openList {path : Path} {body : Fields} {name : String} {fault : Fault}
    (failed : openList path body name = .error fault) : fault.IsOther := by
  unfold openList at failed
  split at failed <;> cases failed
  trivial

/-! ## The builders -/

theorem claims_buildLeaf {α : Type} (kind : Kind) (path : Path) (body : Fields)
    (read : Fields → Except FieldFault α) : Claims (buildLeaf kind path body read) [(kind, body)] :=
  claims_before (claims_claim path kind body) fun _ =>
    claims_after (claims_refuse path body "components" trivial) fun _ =>
      claims_after (claims_refuse path body "children" trivial) fun _ =>
        claims_after (claims_weigh kind body) fun _ => claims_read path (read body)

theorem claims_buildControl {kind : Kind} (member : kind ∈ Place.fields.kinds) (path : Path)
    (body : Fields) : Claims (buildControl kind path body) [(kind, body)] := by
  cases kind with
  | input | checkbox | radio | select => exact claims_map _ (claims_buildLeaf _ path body _)
  | _ => simp [Place.kinds] at member

/-- The entries of a list of a form claim their ids one after the other. -/
theorem claims_buildEntries {α : Type} {place : Place} {build : Kind → Path → Fields → Build α}
    (leaves : ∀ kind ∈ place.kinds, Contract.lists kind = [])
    (builds : ∀ kind ∈ place.kinds, ∀ path body, Claims (build kind path body) [(kind, body)])
    (path : Path) (index : Nat) (entries : List Value) :
    Claims (buildEntries place.slot path build index entries) (outlineAll entries) := by
  induction entries generalizing index with
  | nil =>
      rw [outlineAll]
      exact claims_pure []
  | cons v rest ih =>
      refine claims_lift (fun fault => isOther_of_openEntry) fun opened same => ?_
      obtain ⟨kind, body⟩ := opened
      obtain ⟨member, _⟩ := entry_of_openEntry same
      rw [outlineAll_cons rest (entryOf?_of_openEntry same), outline_leaf (leaves kind member)]
      exact claims_bind (builds kind member _ body) fun first =>
        claims_map (first :: ·) (ih (index + 1))

theorem claims_buildForm (path : Path) (body : Fields) :
    Claims (buildForm path body) (outline .form body) := by
  have controls := @claims_buildEntries _ .fields buildControl (by decide)
    (fun kind member => claims_buildControl member)
  have actions := @claims_buildEntries _ .actions
    (fun kind here body => buildLeaf kind here body Button.read) (by decide)
    (fun kind _ here body => claims_buildLeaf kind here body Button.read)
  rw [outline]
  refine claims_bind (claims_claim path .form body) fun _ =>
    claims_after (claims_refuse path body "components" trivial) fun _ =>
      claims_after (claims_refuse path body "children" trivial) fun _ => ?_
  refine claims_lift (fun fault => isOther_of_openList) fun fields listedFields => ?_
  obtain rfl := listed_of_openList listedFields
  refine claims_bind (controls _ 0 _) fun _ => ?_
  refine claims_lift (fun fault => isOther_of_openList) fun items listedActions => ?_
  obtain rfl := listed_of_openList listedActions
  exact claims_before (actions _ 0 _) fun _ => claims_after (claims_weigh .form body) fun _ =>
    claims_after (claims_read path _) fun _ => claims_pure _

/-- A container claims its id before the ids of what it holds. -/
theorem claims_container {path : Path} {v : Value} {body : Fields}
    (opened : openEntry .anywhere path v = .ok (.container, body))
    (inside : ∀ here, Claims (buildComponents here 0 (listed body "components"))
      (outlineAll (listed body "components"))) :
    Claims (buildComponent path v) (outline .container body) := by
  rw [buildComponent_container opened, outline]
  refine claims_bind (claims_claim _ .container body) fun _ =>
    claims_after (claims_refuse _ body "children" trivial) fun _ => ?_
  refine claims_lift (fun fault => isOther_of_openList) fun items listedItems => ?_
  obtain rfl := listed_of_openList listedItems
  exact claims_before (inside _) fun _ => claims_after (claims_weigh .container body) fun _ =>
    claims_after (claims_read _ _) fun _ => claims_after (claims_read _ _) fun _ => claims_pure _

theorem claims_other {path : Path} {v : Value} {kind : Kind} {body : Fields}
    (opened : openEntry .anywhere path v = .ok (kind, body)) (other : kind ≠ .container) :
    Claims (buildComponent path v) (outline kind body) := by
  rw [buildComponent]
  split
  · rename_i fault failed
    cases opened.symm.trans failed
  · rename_i found
    cases opened.symm.trans found
    cases kind with
    | text | button | divider | alert =>
        rw [outline_leaf rfl]
        exact claims_map _ (claims_buildLeaf _ _ body _)
    | input | checkbox | radio | select =>
        rw [outline_leaf rfl]
        exact claims_map _ (claims_buildControl (by decide) _ body)
    | form => exact claims_map _ (claims_buildForm _ body)
    | container => exact absurd rfl other
    | page => exact absurd rfl (ne_page_of_openEntry opened)

mutual

/-- A component claims the ids of its entry and of all entries below it. -/
theorem claims_buildComponent (path : Path) (v : Value) :
    Claims (buildComponent path v) (outlineAll [v]) := by
  cases opened : openEntry .anywhere path v with
  | error fault =>
      rw [buildComponent_error opened]
      exact claims_throw (isOther_of_openEntry opened) _
  | ok entry =>
      obtain ⟨kind, body⟩ := entry
      have found := entryOf?_of_openEntry opened
      rw [outlineAll_cons [] found, outlineAll, List.append_nil]
      by_cases container : kind = .container
      · subst container
        refine claims_container opened fun here => ?_
        -- The recursion ends since a list is smaller than the entry in whose body it stands.
        have fewer := sizeOf_entryOf?_lt found
        have smaller := sizeOf_listed_lt body "components"
        exact claims_buildComponents here 0 (listed body "components")
      · exact claims_other opened container
termination_by sizeOf v

/-- Components claim the ids of the entries of a list, in order. -/
theorem claims_buildComponents (path : Path) (index : Nat) (entries : List Value) :
    Claims (buildComponents path index entries) (outlineAll entries) := by
  cases entries with
  | nil =>
      rw [buildComponents, outlineAll]
      exact claims_pure []
  | cons v rest =>
      have parts : outlineAll (v :: rest) = outlineAll [v] ++ outlineAll rest := by
        rw [outlineAll, outlineAll, outlineAll]
        split <;> simp
      rw [buildComponents, parts]
      exact claims_bind (claims_buildComponent (path ++ [.item index]) v) fun first =>
        claims_map (first :: ·) (claims_buildComponents path (index + 1) rest)
termination_by sizeOf entries

end

/-- The page claims the ids of all entries. -/
theorem claims_buildPage (body : Fields) : Claims (buildPage body) (outline .page body) := by
  rw [outline]
  refine claims_after (claims_refuse [] body "children" trivial) fun _ =>
    claims_bind (claims_claim [] .page body) fun _ => ?_
  refine claims_lift (fun fault => isOther_of_openList) fun items listedItems => ?_
  obtain rfl := listed_of_openList listedItems
  exact claims_before (claims_buildComponents _ 0 _) fun _ =>
    claims_after (claims_weigh .page body) fun _ => claims_after (claims_read [] _) fun _ =>
      claims_after (claims_read [] _) fun _ => claims_after (claims_read [] _) fun _ =>
        claims_pure _

/-! ## Documents -/

/-- The ids of an accepted page have different code points. -/
theorem nodup_of_built {body : Fields} {done : Page × Ids}
    (built : (buildPage body).run [] = .ok done) :
    ((outline .page body).filterMap idCodes?).Nodup := by
  have now := (claims_buildPage body []).1 done built
  obtain ⟨texts, _, distinct, same⟩ := ((accepts_buildPage body) [] List.nodup_nil).2 done built
  rwa [← same, now] at distinct

theorem codes_ne_of_nodup {listed : List (Kind × Fields)}
    (distinct : (listed.filterMap idCodes?).Nodup) {i j : Nat} (before : i < j) {v w : Value}
    (first : GivesAt listed i v) (second : GivesAt listed j w) : v.codes ≠ w.codes := by
  obtain ⟨e, here, given⟩ := Option.bind_eq_some_iff.mp first
  obtain ⟨f, there, other⟩ := Option.bind_eq_some_iff.mp second
  obtain ⟨inside, rfl⟩ := List.getElem?_eq_some_iff.mp here
  obtain ⟨within, rfl⟩ := List.getElem?_eq_some_iff.mp there
  have apart := List.pairwise_iff_getElem.mp (List.pairwise_filterMap.mp distinct) i j inside within
  refine apart before v.codes ?_ w.codes ?_
  · rw [idCodes?, given, Option.map_some]
  · rw [idCodes?, other, Option.map_some]

/-- Where a node has an id, its entry gives it. -/
theorem givesAt_of_namedAt {listed : List (Kind × Fields)} {walk : List Node}
    (stand : List.Forall₂ Stands listed walk) {i : Nat} {id : String} (named : NamedAt walk i id) :
    ∃ v, GivesAt listed i v ∧ MeansText v id := by
  obtain ⟨node, met, named⟩ := Option.bind_eq_some_iff.mp named
  obtain ⟨inside, rfl⟩ := List.getElem?_eq_some_iff.mp met
  have within : i < listed.length := stand.length_eq ▸ inside
  obtain ⟨v, given, means⟩ := givenId?_of_stands (stand.get within inside) named
  refine ⟨v, ?_, means⟩
  rw [GivesAt, List.getElem?_eq_getElem within]
  exact given

/-- Two nodes whose ids are shown alike stand for entries whose ids are told apart; unless one of
these holds halves of surrogate pairs, one alone gives bytes. -/
theorem one_isBytes {listed : List (Kind × Fields)} {walk : List Node}
    (stand : List.Forall₂ Stands listed walk) (distinct : (listed.filterMap idCodes?).Nodup)
    {i j : Nat} {id : String} (before : i < j) (first : NamedAt walk i id)
    (second : NamedAt walk j id) :
    ∃ v w, GivesAt listed i v ∧ GivesAt listed j w ∧ v.codes ≠ w.codes ∧
      (v.isHalved = false → w.isHalved = false → v.isBytes ≠ w.isBytes) := by
  obtain ⟨v, given, meansV⟩ := givesAt_of_namedAt stand first
  obtain ⟨w, other, meansW⟩ := givesAt_of_namedAt stand second
  have apart := codes_ne_of_nodup distinct before given other
  exact ⟨v, w, given, other, apart, fun plain also alike =>
    apart (codes_of_eq alike meansV meansW plain also)⟩

/-- Nodes have different ids if their entries are alike. -/
theorem nodup_ids {listed : List (Kind × Fields)} {walk : List Node}
    (stand : List.Forall₂ Stands listed walk) (distinct : (listed.filterMap idCodes?).Nodup)
    (plain : ∀ i v, GivesAt listed i v → v.isHalved = false)
    (alike : ∀ i j v w, GivesAt listed i v → GivesAt listed j w → v.isBytes = w.isBytes) :
    (walk.filterMap Node.id?).Nodup := by
  rw [List.Nodup, List.pairwise_filterMap, List.pairwise_iff_getElem]
  rintro i j inside within before id named _ also rfl
  have first : NamedAt walk i id := by rwa [NamedAt, List.getElem?_eq_getElem inside]
  have second : NamedAt walk j id := by rwa [NamedAt, List.getElem?_eq_getElem within]
  obtain ⟨v, w, given, other, _, differ⟩ := one_isBytes stand distinct before first second
  exact differ (plain i v given) (plain j w other) (alike i j v w given other)

/-- A source that has no value breaks no rule for documents. -/
theorem load_ne_schema (source : Source) (fault : SchemaFault) :
    source.load ≠ .error (.schema fault) := by
  have yaml (s : String) : (Yaml.load s).mapError Fault.ofYaml ≠ .error (.schema fault) := by
    cases Yaml.load s with
    | ok v => exact nofun
    | error e => cases e <;> exact nofun
  cases source with
  | text s => exact yaml s
  | bytes b =>
      rw [Source.load]
      split
      · exact yaml _
      · exact nofun

theorem load_of_value? {source : Source} {v : Value} (value : source.value? = some v) :
    source.load = .ok v := by
  rw [Source.value?] at value
  cases loaded : source.load with
  | error fault =>
      rw [loaded] at value
      cases value
  | ok w =>
      rw [loaded] at value
      cases value
      rfl

/-- A document is read from the value of a source. -/
theorem ofSource_of_value? {source : Source} {v : Value} (value : source.value? = some v) :
    ofSource source = ofValue v := by
  rw [ofSource, load_of_value? value]
  rfl

/-- A broken rule is broken by the value of a source. -/
theorem built_of_schema {source : Source} {fault : SchemaFault}
    (refused : ofSource source = .error (.schema fault)) :
    ∃ entries, source.value? = some (.map entries) ∧ build entries = .error (.schema fault) := by
  cases loaded : source.load with
  | error other =>
      -- What is no value of a source at all breaks no rule.
      rw [ofSource, loaded] at refused
      cases refused
      exact absurd loaded (load_ne_schema source fault)
  | ok v =>
      rw [ofSource, loaded] at refused
      cases v with
      | map entries => exact ⟨entries, by rw [Source.value?, loaded]; rfl, refused⟩
      | _ => cases refused

/-- An id that is reported as taken twice is that of two entries. -/
theorem two_of_duplicate {body : Fields} {path first : Path} {id : List Nat}
    (refused : (buildPage body).run [] = .error (.schema ⟨path, .duplicateId id first⟩)) :
    ∃ i j v w, i < j ∧ GivesAt (outline .page body) i v ∧ GivesAt (outline .page body) j w ∧
      v.codes = id ∧ w.codes = id := by
  obtain ⟨before, f, after, same, twice, member⟩ :=
    (claims_buildPage body []).2 path id first refused
  obtain ⟨e, earlier, once⟩ := List.mem_filterMap.mp member
  obtain ⟨v, given, rfl⟩ := Option.map_eq_some_iff.mp once
  obtain ⟨w, other, also⟩ := Option.map_eq_some_iff.mp twice
  obtain ⟨i, inside, rfl⟩ := List.mem_iff_getElem.mp earlier
  refine ⟨i, before.length, v, w, inside, ?_, ?_, rfl, also⟩
  · rw [GivesAt, same, List.getElem?_append_left inside, List.getElem?_eq_getElem inside]
    exact given
  · rw [GivesAt, same, List.getElem?_append_right (Nat.le_refl _), Nat.sub_self]
    exact other

/-- **Ids.** The nodes of a document stand for the entries of its source. If two of them have ids
that are shown alike, then the two entries give ids of different code points; one of the two is
given as bytes and the other is not, unless one holds halves of surrogate pairs. So no two nodes
have the same id if all entries give bytes, or none does, and no halves are among them. If an id is
reported as taken twice, then two entries give values of its code points; and if both of them are
bytes, or neither is, then the two values mean the same id where they mean any. -/
theorem ids_of_source (source : Source) :
    (∀ d, ofSource source = .ok d → ∃ listed, source.Lists listed ∧
      List.Forall₂ Stands listed d.walk ∧
      (∀ i j id, i < j → NamedAt d.walk i id → NamedAt d.walk j id →
        ∃ v w, GivesAt listed i v ∧ GivesAt listed j w ∧ v.codes ≠ w.codes ∧
          (v.isHalved = false → w.isHalved = false → v.isBytes ≠ w.isBytes)) ∧
      ((∀ i v, GivesAt listed i v → v.isHalved = false) →
        (∀ i j v w, GivesAt listed i v → GivesAt listed j w → v.isBytes = w.isBytes) →
          (d.walk.filterMap Node.id?).Nodup)) ∧
    ∀ path id first, ofSource source = .error (.schema ⟨path, .duplicateId id first⟩) →
      ∃ listed i j v w, source.Lists listed ∧ i < j ∧ GivesAt listed i v ∧ GivesAt listed j w ∧
        v.codes = id ∧ w.codes = id ∧
        (v.isBytes = w.isBytes → ∀ s t, MeansText v s → MeansText w t → s = t) := by
  constructor
  · intro d parsed
    obtain ⟨v, value, read⟩ := value?_of_ofSource parsed
    obtain ⟨entries, body, done, rfl, page, built, same⟩ := built_of_ofValue read
    have stand : List.Forall₂ Stands (outline .page body) d.walk := by
      rw [walk_eq_preorder, Node.preorder, same]
      exact yields_buildPage body [] done built
    have distinct := nodup_of_built built
    exact ⟨outline .page body, ⟨entries, body, value, page, rfl⟩, stand,
      fun i j id => one_isBytes stand distinct, nodup_ids stand distinct⟩
  · intro path id first refused
    obtain ⟨entries, value, built⟩ := built_of_schema refused
    unfold build at built
    split at built
    · cases built
    · cases built
    · rename_i body page
      have ran : (buildPage body).run [] = .error (.schema ⟨path, .duplicateId id first⟩) := by
        cases ran : (buildPage body).run [] with
        | ok done => simp [ran] at built
        | error fault =>
            rw [ran] at built
            cases built
            rfl
      obtain ⟨i, j, v, w, before, here, there, codesV, codesW⟩ := two_of_duplicate ran
      refine ⟨outline .page body, i, j, v, w, ⟨entries, body, value, page, rfl⟩, before, here,
        there, codesV, codesW, fun alike s t meansV meansW => ?_⟩
      exact eq_of_codes alike meansV meansW (codesV.trans codesW.symm)
    · cases built

/-- **Bytes beside a text.** A text and some bytes mean the id `abc`, and both lines get it. -/
theorem ids_clash :
    let source := .text ("page: \x7bcomponents: [Divider: \x7bid: abc\x7d, " ++
      "Divider: \x7bid: !!binary YWJj\x7d]\x7d")
    ∃ d, ofSource source = .ok d ∧ ¬ (d.walk.filterMap Node.id?).Nodup := by
  intro source
  have ids : (ofSource source).toOption.map (fun d => d.walk.filterMap Node.id?) =
      some ["abc", "abc"] := by
    decide +kernel
  cases parsed : ofSource source with
  | error fault =>
      rw [parsed] at ids
      cases ids
  | ok d =>
      rw [parsed] at ids
      have twice : d.walk.filterMap Node.id? = ["abc", "abc"] := Option.some.inj ids
      refine ⟨d, rfl, ?_⟩
      rw [twice]
      decide

end Document

end Wireframe
