import Wireframe.Proofs.Theme.Entries
import Wireframe.Proofs.Theme.Reserved

/-! # Component styles over component styles

A leaf of a tree stands in a place: the names on the way to it. Laying one tree over
another sets the places that the upper one has, and leaves the others as they are, provided
that the upper tree fits: in each group where the two meet, names are told apart by their
texts, and no group stands where the other tree has a leaf
(`Wireframe.Theme.lastValue?_overlay`). So the variables of the two trees come together leaf
by leaf, if each key is spelled by one place
(`Wireframe.Theme.Resolved.overlay_per_leaf`). A group over a leaf takes the leaf away.
-/

namespace Wireframe.Theme

open Document.Contract (sameKey_text_iff)

/-! ## Places -/

mutual

/-- The leaves of a tree, depth first, each as the texts of the names on the way to it and its
text. -/
def places : Tree → Table (List String) String
  | [] => []
  | (name, v) :: rest =>
    (placesAt v).map (fun e => (name.toText :: e.1, e.2)) ++ places rest

/-- The leaves of a value, each with the names below the value. -/
def placesAt : Value → Table (List String) String
  | .map entries =>
    match Value.field? leafName entries with
    | some .null => []
    | some leaf => [([], leafText leaf)]
    | none => places entries
  | .null => []
  | v => [([], leafText v)]

end

/-- The key of a place below a key. -/
def spell (above : String) (place : List String) : String :=
  place.foldl (fun above name => if above == "" then name else above ++ "." ++ name) above

mutual

/-- The leaves of a tree stand under the keys of their places. -/
theorem leaves_eq_places (above : String) (tree : Tree) :
    leaves above tree = (places tree).map fun e => (spell above e.1, e.2) := by
  match tree with
  | [] => rw [leaves, places, List.map_nil]
  | (name, v) :: rest =>
      rw [leaves, places, List.map_append, leavesAt_eq_places (joinKey above name) v,
        leaves_eq_places above rest, List.map_map]
      rfl

theorem leavesAt_eq_places (key : String) (v : Value) :
    leavesAt key v = (placesAt v).map fun e => (spell key e.1, e.2) := by
  match v with
  | .map entries =>
      rw [leavesAt, placesAt]
      cases Value.field? leafName entries with
      | some leaf => cases leaf <;> rfl
      | none => exact leaves_eq_places key entries
  | .null => rw [leavesAt, placesAt, List.map_nil]
  | .bool _ | .int _ | .float _ | .text _ | .halved _ | .bytes _ | .date _ | .dateTime _ | .time _
  | .list _ | .tuple _ | .set _ => rfl

end

/-! ## Trees that fit -/

/-- Names in a tree that are told apart, as names and by their texts. -/
def Distinct (tree : Tree) : Prop :=
  (tree.map Prod.fst).Pairwise fun name other =>
    ¬ name.sameKey other = true ∧ name.toText ≠ other.toText

instance (tree : Tree) : Decidable (Distinct tree) :=
  inferInstanceAs (Decidable (List.Pairwise _ _))

/-- A mapping holds no name twice. -/
def Keyed (tree : Tree) : Prop :=
  (tree.map Prod.fst).Pairwise fun name other => ¬ name.sameKey other = true

instance (tree : Tree) : Decidable (Keyed tree) :=
  inferInstanceAs (Decidable (List.Pairwise _ _))

/-- A value without any leaf in it. -/
def isHollow (v : Value) : Bool := (placesAt v).isEmpty

/-- Whether a value is a mapping. -/
def isMap : Value → Bool
  | .map _ => true
  | _ => false

mutual

/-- Whether a tree can be laid over another one such that each leaf keeps or gets a place. The names
in the upper tree are those of the lower one that have the same texts, and the values fit. -/
def fits (below : Tree) : Tree → Bool
  | [] => true
  | (key, v) :: rest =>
    below.all (fun e => e.1.sameKey key == (e.1.toText == key.toText)) &&
      fitsOn (find? key below) v && fits below rest

/-- Whether a value can be laid over what stands in its place. A leaf that is null always can, a
leaf can be laid over a leaf, and a group over a group, if the entries fit. -/
def fitsOn (below : Option Value) : Value → Bool
  | .null => true
  | .map entries =>
    match below with
    | none | some .null => true
    | some (.map under) =>
      match Value.field? leafName entries with
      | some .null => true
      | some leaf =>
        (isLeaf (.map under) || isHollow (.map under)) && !isMap leaf && decide (Keyed entries)
      | none =>
        if isLeaf (.map under) then isHollow (.map entries)
        else decide (Distinct under) && decide (Distinct entries) && fits under entries
    | some _ => isLeaf (.map entries)
  | _ =>
    match below with
    | some under => isLeaf under || isHollow under
    | none => true

end

/-! ## What stands in a place -/

theorem lastValue?_below (name : String) (leaves : Table (List String) String) (first : String)
    (place : List String) :
    Table.lastValue? (leaves.map fun e => (name :: e.1, e.2)) (first :: place) =
      if name = first then leaves.lastValue? place else none := by
  induction leaves using List.reverseRecOn with
  | nil => rw [List.map_nil]; exact (ite_self _).symm
  | append_singleton leaves e ih =>
      rw [List.map_append, Table.lastValue?_append, Table.lastValue?_append, ih, List.map_singleton,
        Table.lastValue?_singleton, Table.lastValue?_singleton]
      by_cases same : name = first
      · subst same
        simp
      · simp [same, Ne.symm same]

theorem lastValue?_places_cons (name v : Value) (rest : Tree) (first : String)
    (place : List String) :
    (places ((name, v) :: rest)).lastValue? (first :: place) =
      ((places rest).lastValue? (first :: place)).or
        (if name.toText = first then (placesAt v).lastValue? place else none) := by
  rw [places, Table.lastValue?_append, lastValue?_below]

/-- A tree has no leaf in its own place. -/
theorem lastValue?_places_nil (tree : Tree) : (places tree).lastValue? [] = none := by
  refine Table.lastValue?_eq_none fun member => ?_
  induction tree with
  | nil => cases member
  | cons e rest ih =>
      rw [places, Table.keys_append] at member
      rcases List.mem_append.mp member with here | behind
      · obtain ⟨_, inside, same⟩ := List.mem_map.mp here
        obtain ⟨_, _, rfl⟩ := List.mem_map.mp inside
        cases same
      · exact ih behind

theorem lastValue?_places_missing {tree : Tree} {first : String}
    (missing : ∀ name ∈ tree.map Prod.fst, name.toText ≠ first) (place : List String) :
    (places tree).lastValue? (first :: place) = none := by
  induction tree with
  | nil => rfl
  | cons e rest ih =>
      obtain ⟨here, others⟩ := List.forall_mem_cons.mp missing
      rw [lastValue?_places_cons, ih others, if_neg here, Option.or_none]

/-- Behind a name nothing else goes by its text. -/
theorem lastValue?_places_behind {name : Value} {rest : Tree} {first : String}
    (apart : ∀ other ∈ rest.map Prod.fst,
      ¬ name.sameKey other = true ∧ name.toText ≠ other.toText)
    (texts : name.toText = first) (place : List String) :
    (places rest).lastValue? (first :: place) = none := by
  refine lastValue?_places_missing (fun other member also => ?_) place
  exact (apart other member).2 (texts.trans also.symm)

/-- What a value, if there is one, has in a place below it. -/
def placed (v : Option Value) (place : List String) : Option String :=
  v.bind fun v => (placesAt v).lastValue? place

/-- A name is told apart from the names in a tree in the same way as its text is. -/
def Matches (tree : Tree) (key : Value) : Prop :=
  ∀ name ∈ tree.map Prod.fst, name.sameKey key = true ↔ name.toText = key.toText

section

variable {tree : Tree} {key : Value} (distinct : Distinct tree) (same : Matches tree key)

include distinct same

/-- What a tree has below a name is what is found under the name. -/
theorem lastValue?_places_found (place : List String) :
    (places tree).lastValue? (key.toText :: place) = placed (find? key tree) place := by
  induction tree with
  | nil => rfl
  | cons e rest ih =>
      obtain ⟨name, v⟩ := e
      obtain ⟨apart, others⟩ := List.pairwise_cons.mp distinct
      obtain ⟨here, behind⟩ := List.forall_mem_cons.mp same
      rw [lastValue?_places_cons]
      by_cases found : name.sameKey key = true
      · have texts : name.toText = key.toText := here.mp found
        rw [lastValue?_places_behind apart texts, Option.none_or, if_pos texts,
          find?_cons_of_same found]
        rfl
      · have differs : ¬ name.toText = key.toText := fun also => found (here.mpr also)
        rw [if_neg differs, Option.or_none, find?_cons_of_other found]
        exact ih others behind

/-- Setting an entry changes what stands below its name alone. -/
theorem lastValue?_places_put (v : Value) (first : String) (place : List String) :
    (places (Value.put key v tree)).lastValue? (first :: place) =
      if key.toText = first then (placesAt v).lastValue? place
      else (places tree).lastValue? (first :: place) := by
  induction tree with
  | nil =>
      rw [Value.put, lastValue?_places_cons]
      rfl
  | cons e rest ih =>
      obtain ⟨name, w⟩ := e
      obtain ⟨apart, others⟩ := List.pairwise_cons.mp distinct
      obtain ⟨here, behind⟩ := List.forall_mem_cons.mp same
      rw [Value.put]
      by_cases found : name.sameKey key = true
      · have texts : name.toText = key.toText := here.mp found
        rw [if_pos found, lastValue?_places_cons, lastValue?_places_cons, texts]
        by_cases below : key.toText = first
        · rw [if_pos below, if_pos below, ← below, lastValue?_places_behind apart texts,
            Option.none_or]
        · rw [if_neg below, if_neg below, if_neg below]
      · have differs : name.toText ≠ key.toText := fun also => found (here.mpr also)
        rw [if_neg found, lastValue?_places_cons, ih others behind, lastValue?_places_cons]
        by_cases below : key.toText = first
        · rw [if_pos below, if_pos below, if_neg fun also => differs (also.trans below.symm),
            Option.or_none]
        · rw [if_neg below, if_neg below]

theorem Distinct.put (v : Value) : Distinct (Value.put key v tree) := by
  rw [Distinct]
  rcases names_put key v tree with names | ⟨missing, longer⟩
  · rw [names]
    exact distinct
  · rw [longer, List.pairwise_append]
    refine ⟨distinct, List.pairwise_singleton .., fun name member other last => ?_⟩
    rw [List.mem_singleton.mp last]
    exact ⟨missing name member, fun texts => missing name member ((same name member).mpr texts)⟩

end

section

variable {tree : Tree} {key other : Value} (same : Matches tree other)
  (apart : ¬ key.sameKey other = true ∧ key.toText ≠ other.toText)

include same apart

theorem Matches.put (v : Value) : Matches (Value.put key v tree) other := by
  rw [Matches]
  rcases names_put key v tree with names | ⟨_, longer⟩
  · rw [names]
    exact same
  · rw [longer]
    intro name member
    rcases List.mem_append.mp member with inside | last
    · exact same name inside
    · rw [List.mem_singleton.mp last]
      exact iff_of_false apart.1 apart.2

theorem find?_put_of_apart (also : Matches tree key) (v : Value) :
    find? other (Value.put key v tree) = find? other tree := by
  induction tree with
  | nil => exact find?_cons_of_other apart.1 v []
  | cons e rest ih =>
      obtain ⟨name, w⟩ := e
      obtain ⟨here, behind⟩ := List.forall_mem_cons.mp same
      obtain ⟨found, others⟩ := List.forall_mem_cons.mp also
      rw [Value.put]
      split_ifs with put
      · have beside : ¬ name.sameKey other = true := by
          intro taken
          exact apart.2 ((found.mp put).symm.trans (here.mp taken))
        rw [find?_cons_of_other beside, find?_cons_of_other beside]
      · by_cases taken : name.sameKey other = true
        · rw [find?_cons_of_same taken, find?_cons_of_same taken]
        · rw [find?_cons_of_other taken, find?_cons_of_other taken, ih behind others]

end

/-! ## Laying trees over one another -/

/-- A value that is laid over another one sets the places that it has and leaves the others. -/
def Lays (below : Option Value) (v : Value) : Prop :=
  ∀ place, (placesAt (overlayValue below v)).lastValue? place =
    ((placesAt v).lastValue? place).or (placed below place)

theorem placesAt_of_isNullLeaf {v : Value} (null : isNullLeaf v = true) : placesAt v = [] := by
  cases v with
  | null => rfl
  | map entries =>
      rw [isNullLeaf] at null
      rw [placesAt]
      split at null
      · rename_i found
        rw [found]
      · cases null
  | _ => cases null

/-- Where the values of a tree set their places, the tree does so. -/
theorem lastValue?_overlay_of_lays {top : Tree} (upper : Distinct top) {below : Tree}
    (lower : Distinct below) (same : ∀ e ∈ top, Matches below e.1)
    (lays : ∀ e ∈ top, isNullLeaf e.2 = false → Lays (find? e.1 below) e.2)
    (first : String) (place : List String) :
    (places (overlay below top)).lastValue? (first :: place) =
      ((places top).lastValue? (first :: place)).or
        ((places below).lastValue? (first :: place)) := by
  induction top generalizing below with
  | nil => rfl
  | cons e rest ih =>
      obtain ⟨key, v⟩ := e
      obtain ⟨apart, others⟩ := List.pairwise_cons.mp upper
      obtain ⟨here, behind⟩ := List.forall_mem_cons.mp same
      obtain ⟨sets, setting⟩ := List.forall_mem_cons.mp lays
      rw [overlay, lastValue?_places_cons]
      cases null : isNullLeaf v with
      | true =>
          have nothing : (if key.toText = first then
              Table.lastValue? ([] : Table (List String) String) place else none) = none :=
            ite_self _
          rw [if_pos rfl, ih others lower behind setting, placesAt_of_isNullLeaf null, nothing,
            Option.or_none]
      | false =>
          rw [if_neg Bool.false_ne_true, ih others (lower.put here _) ?_ ?_,
            lastValue?_places_put lower here]
          · by_cases below : key.toText = first
            · subst below
              rw [if_pos rfl, if_pos rfl, lastValue?_places_behind apart rfl, sets null place,
                lastValue?_places_found lower here]
              rfl
            · rw [if_neg below, if_neg below, Option.or_none]
          · intro f member
            exact (behind f member).put (apart f.1 (List.mem_map_of_mem member)) _
          · intro f member filled
            rw [find?_put_of_apart (behind f member) (apart f.1 (List.mem_map_of_mem member)) here]
            exact setting f member filled

/-! ## Laying values over one another -/

/-- A tree that does not set a name leaves what is under it. -/
theorem field?_overlay_of_none {name : String} {top : Tree}
    (missing : Value.field? name top = none) (below : Tree) :
    Value.field? name (overlay below top) = Value.field? name below := by
  induction top generalizing below with
  | nil => rfl
  | cons e rest ih =>
      obtain ⟨key, v⟩ := e
      have differs : key ≠ .text name := by
        rintro rfl
        rw [field?_cons_self] at missing
        cases missing
      rw [field?_cons_of_ne differs] at missing
      rw [overlay, ih missing]
      split_ifs
      · rfl
      · exact find?_put_of_ne (isTitle_text name) differs _ below

/-- A tree that sets a name once lays its value over what is under the name. -/
theorem field?_overlay_of_some {name : String} {top : Tree} (keyed : Keyed top) {v : Value}
    (found : Value.field? name top = some v) (filled : isNullLeaf v = false) (below : Tree) :
    Value.field? name (overlay below top) =
      some (overlayValue (Value.field? name below) v) := by
  induction top generalizing below with
  | nil => cases found
  | cons e rest ih =>
      obtain ⟨key, w⟩ := e
      obtain ⟨apart, others⟩ := List.pairwise_cons.mp keyed
      rw [overlay]
      by_cases named : key = .text name
      · subst named
        rw [field?_cons_self] at found
        obtain rfl := Option.some.inj found
        have missing : Value.field? name rest = none := by
          rw [Value.field?, Option.map_eq_none_iff, List.find?_eq_none]
          intro f member taken
          rw [sameKey_text_iff] at taken
          refine apart f.1 (List.mem_map_of_mem member) ?_
          rw [taken]
          exact sameKey_text_iff.mpr rfl
        rw [if_neg (filled ▸ Bool.false_ne_true), field?_overlay_of_none missing]
        exact find?_put_self (isTitle_text name) _ below
      · rw [field?_cons_of_ne named] at found
        rw [ih others found]
        split_ifs
        · rfl
        · have kept := find?_put_of_ne (isTitle_text name) named
            (overlayValue (find? key below) w) below
          exact congrArg (fun under => some (overlayValue under v)) kept

/-- A leaf has one place, its own. -/
theorem placesAt_of_isLeaf {v : Value} (leaf : isLeaf v = true) :
    (isNullLeaf v = true ∧ placesAt v = []) ∨
      isNullLeaf v = false ∧ ∃ text, placesAt v = [([], text)] := by
  cases v with
  | null => exact .inl ⟨rfl, rfl⟩
  | map entries =>
      obtain ⟨held, found⟩ := Option.isSome_iff_exists.mp leaf
      rw [isNullLeaf, placesAt, found]
      cases held with
      | null => exact .inl ⟨rfl, rfl⟩
      | _ => exact .inr ⟨rfl, _, rfl⟩
  | _ => exact .inr ⟨rfl, _, rfl⟩

theorem lastValue?_of_isLeaf {v : Value} (leaf : isLeaf v = true ∨ isHollow v = true)
    (first : String) (place : List String) : (placesAt v).lastValue? (first :: place) = none := by
  rcases leaf with leaf | hollow
  · obtain ⟨-, none⟩ | ⟨-, text, one⟩ := placesAt_of_isLeaf leaf
    · rw [none]
      rfl
    · rw [one]
      rfl
  · rw [List.isEmpty_iff.mp hollow]
    rfl

/-- A leaf that takes the place of a leaf, or of a group without any leaf, sets that place. -/
theorem lays_of_leaf {below : Option Value} {v : Value} (leaf : isLeaf v = true)
    (filled : isNullLeaf v = false)
    (under : ∀ u, below = some u → isLeaf u = true ∨ isHollow u = true)
    (kept : placesAt (overlayValue below v) = placesAt v) : Lays below v := by
  obtain ⟨null, -⟩ | ⟨-, text, one⟩ := placesAt_of_isLeaf leaf
  · cases null.symm.trans filled
  · intro place
    rw [kept, one]
    cases place with
    | nil => rfl
    | cons first place =>
        cases below with
        | none => exact (Option.or_none).symm
        | some u =>
            rw [placed, Option.bind_some, lastValue?_of_isLeaf (under u rfl), Option.or_none]

theorem placesAt_group {entries : Tree} (bare : Value.field? leafName entries = none) :
    placesAt (.map entries) = places entries := by
  rw [placesAt, bare]

theorem isLeaf_of_not_map {v : Value} (single : ∀ entries, v = .map entries → False) :
    isLeaf v = true := by
  cases v with
  | map entries => exact (single entries rfl).elim
  | _ => rfl

/-- Whatever is laid over nothing, or over null, sets its places. -/
theorem lays_of_empty {below : Option Value} (empty : ∀ place, placed below place = none)
    {v : Value} (alone : overlayValue below v = v) : Lays below v := by
  intro place
  rw [alone, empty, Option.or_none]

/-- A group without any leaf leaves a leaf over which it is laid. -/
theorem lays_of_hollow {under entries : Tree} (leaf : isLeaf (.map under) = true)
    (bare : Value.field? leafName entries = none) (hollow : isHollow (.map entries) = true) :
    Lays (some (.map under)) (.map entries) := by
  intro place
  have kept : placesAt (.map (overlay under entries)) = placesAt (.map under) := by
    obtain ⟨held, found⟩ := Option.isSome_iff_exists.mp leaf
    rw [placesAt, placesAt, field?_overlay_of_none bare, found]
    cases held <;> rfl
  rw [overlayValue, kept, List.isEmpty_iff.mp hollow]
  rfl

/-- A group that is laid over a group sets its places if the entries do. -/
theorem lays_of_group {under entries : Tree} (lower : Value.field? leafName under = none)
    (upper : Value.field? leafName entries = none)
    (sets : ∀ place, (places (overlay under entries)).lastValue? place =
      ((places entries).lastValue? place).or ((places under).lastValue? place)) :
    Lays (some (.map under)) (.map entries) := by
  intro place
  have bare : Value.field? leafName (overlay under entries) = none :=
    (field?_overlay_of_none upper under).trans lower
  rw [overlayValue, placesAt_group bare, placesAt_group upper, sets, placed, Option.bind_some,
    placesAt_group lower]

/-- A wrapper sets the value of the wrapper or the group over which it is laid. -/
theorem placesAt_overlay_wrapper {under entries : Tree} {leaf : Value} (keyed : Keyed entries)
    (found : Value.field? leafName entries = some leaf) (single : isMap leaf = false)
    (filled : isNullLeaf (.map entries) = false) :
    placesAt (overlayValue (some (.map under)) (.map entries)) = placesAt (.map entries) := by
  have scalar : isNullLeaf leaf = false := by
    rw [isNullLeaf, found] at filled
    cases leaf with
    | null => cases filled
    | map entries => cases single
    | _ => rfl
  have apart (entries : Tree) : leaf ≠ .map entries := by
    rintro rfl
    cases single
  have held := field?_overlay_of_some keyed found scalar under
  rw [overlayValue_of_single apart] at held
  rw [overlayValue, placesAt, placesAt, held, found]
  cases leaf <;> rfl

/-- A wrapper that is laid over a wrapper, or over a group without any leaf, sets its place. -/
theorem lays_of_wrapper {under entries : Tree} {leaf : Value} (keyed : Keyed entries)
    (found : Value.field? leafName entries = some leaf) (single : isMap leaf = false)
    (filled : isNullLeaf (.map entries) = false)
    (lower : isLeaf (.map under) = true ∨ isHollow (.map under) = true) :
    Lays (some (.map under)) (.map entries) := by
  have wrapper : isLeaf (.map entries) = true := by
    rw [isLeaf, Value.hasField, found]
    rfl
  refine lays_of_leaf wrapper filled ?_ (placesAt_overlay_wrapper keyed found single filled)
  intro u same
  rw [← Option.some.inj same]
  exact lower

/-- A tree that fits sets its places. -/
theorem lastValue?_overlay_of_each {below top : Tree} (lower : Distinct below)
    (upper : Distinct top)
    (each : ∀ e ∈ top, Matches below e.1 ∧
      (isNullLeaf e.2 = false → Lays (find? e.1 below) e.2)) (place : List String) :
    (places (overlay below top)).lastValue? place =
      ((places top).lastValue? place).or ((places below).lastValue? place) := by
  cases place with
  | nil => rw [lastValue?_places_nil, lastValue?_places_nil, lastValue?_places_nil]; rfl
  | cons first place =>
      exact lastValue?_overlay_of_lays upper lower (fun e member => (each e member).1)
        (fun e member => (each e member).2) first place

mutual

/-- A value that fits sets its places. -/
theorem lays_of_fitsOn (below : Option Value) (v : Value) (fitting : fitsOn below v = true)
    (filled : isNullLeaf v = false) : Lays below v := by
  match v with
  | .map entries =>
      unfold fitsOn at fitting
      split at fitting
      · exact lays_of_empty (fun _ => rfl) (overlayValue_none _)
      · refine lays_of_empty (fun _ => rfl) ?_
        rw [overlayValue]
        nofun
      · rename_i under
        split at fitting
        · rename_i found
          rw [isNullLeaf, found] at filled
          cases filled
        · rename_i leaf _ found
          rw [Bool.and_eq_true, Bool.and_eq_true, Bool.or_eq_true, Bool.not_eq_true',
            decide_eq_true_eq] at fitting
          exact lays_of_wrapper fitting.2 found fitting.1.2 filled fitting.1.1
        · rename_i bare
          split_ifs at fitting with leaf
          · exact lays_of_hollow leaf bare fitting
          · rw [Bool.and_eq_true, Bool.and_eq_true, decide_eq_true_eq, decide_eq_true_eq]
              at fitting
            have lower : Value.field? leafName under = none := by
              simpa [isLeaf, Value.hasField] using leaf
            exact lays_of_group lower bare (lastValue?_overlay_of_each fitting.1.1 fitting.1.2
              (lays_of_fits under entries fitting.2))
      · rename_i u notNull notMap
        refine lays_of_leaf fitting filled ?_ (congrArg placesAt ?_)
        · intro other same
          rw [← Option.some.inj same]
          exact .inl (isLeaf_of_not_map notMap)
        · rw [overlayValue]
          exact fun under same => notMap under (Option.some.inj same)
  | .null => cases filled
  | .bool _ | .int _ | .float _ | .text _ | .halved _ | .bytes _ | .date _ | .dateTime _ | .time _
  | .list _ | .tuple _ | .set _ =>
      refine lays_of_leaf rfl rfl ?_ rfl
      rintro u rfl
      exact (Bool.or_eq_true (isLeaf u) (isHollow u)).mp fitting

theorem lays_of_fits (below top : Tree) (fitting : fits below top = true) :
    ∀ e ∈ top, Matches below e.1 ∧ (isNullLeaf e.2 = false → Lays (find? e.1 below) e.2) := by
  match top with
  | [] => exact nofun
  | (key, v) :: rest =>
      rw [fits, Bool.and_eq_true, Bool.and_eq_true, List.all_eq_true] at fitting
      obtain ⟨⟨same, here⟩, behind⟩ := fitting
      rw [List.forall_mem_cons]
      refine ⟨⟨?_, lays_of_fitsOn (find? key below) v here⟩, lays_of_fits below rest behind⟩
      rw [Matches, List.forall_mem_map]
      intro e member
      have told := same e member
      rw [beq_iff_eq] at told
      rw [told, beq_iff_eq]

end

/-- **Laying one tree over another.** Where a tree fits another one, each place has the value that
the upper tree gives it, or else the one of the lower tree. -/
theorem lastValue?_overlay {below top : Tree} (lower : Distinct below) (upper : Distinct top)
    (fitting : fits below top = true) (place : List String) :
    (places (overlay below top)).lastValue? place =
      ((places top).lastValue? place).or ((places below).lastValue? place) :=
  lastValue?_overlay_of_each lower upper (lays_of_fits below top fitting) place

/-! ## Keys -/

/-- No key of the leaves of two trees is spelled by two places. -/
def Clear (below top : Tree) : Prop :=
  ∀ place ∈ (places below).keys ++ (places top).keys,
    ∀ other ∈ (places below).keys ++ (places top).keys,
      spell componentKey place = spell componentKey other → place = other

/-- A place whose names have no points in them. -/
def NoPoint (place : List String) : Prop := ∀ name ∈ place, '.' ∉ name.toList

instance (place : List String) : Decidable (NoPoint place) :=
  inferInstanceAs (Decidable (∀ name ∈ place, _))

theorem keyParts_cons {c : Char} (other : c ≠ '.') (rest : List Char) :
    ∃ part parts, keyParts rest = part :: parts ∧
      keyParts (c :: rest) = (c :: part) :: parts := by
  have filled : keyParts rest ≠ [] := by
    unfold keyParts
    split
    · exact List.cons_ne_nil _ _
    · exact List.cons_ne_nil _ _
    · split <;> exact List.cons_ne_nil _ _
  obtain ⟨part, parts, same⟩ := List.exists_cons_of_ne_nil filled
  refine ⟨part, parts, same, ?_⟩
  rw [keyParts, same]
  exact other

theorem keyParts_single {name : List Char} (single : '.' ∉ name) : keyParts name = [name] := by
  induction name with
  | nil => rfl
  | cons c rest ih =>
      rw [List.mem_cons, not_or] at single
      obtain ⟨part, parts, same, joined⟩ := keyParts_cons (Ne.symm single.1) rest
      rw [joined]
      cases same.symm.trans (ih single.2)
      rfl

/-- What stands behind the last point is the last part of a key. -/
theorem keyParts_concat (before : List Char) {name : List Char} (single : '.' ∉ name) :
    keyParts (before ++ '.' :: name) = keyParts before ++ [name] := by
  induction before with
  | nil =>
      have first : keyParts ('.' :: name) = [] :: keyParts name := by rw [keyParts]
      rw [List.nil_append, first, keyParts_single single]
      rfl
  | cons c rest ih =>
      rw [List.cons_append]
      by_cases point : c = '.'
      · subst point
        rw [keyParts, ih, keyParts]
        rfl
      · obtain ⟨part, parts, same, joined⟩ := keyParts_cons point rest
        obtain ⟨first, others, also, longer⟩ := keyParts_cons point (rest ++ '.' :: name)
        rw [joined, longer]
        rw [ih, same] at also
        cases also
        rfl

theorem keyParts_spell {place : List String} (free : NoPoint place) {above : String}
    (named : above ≠ "") :
    keyParts (spell above place).toList =
      keyParts above.toList ++ place.map String.toList := by
  induction place generalizing above with
  | nil => rw [List.map_nil, List.append_nil]; rfl
  | cons name rest ih =>
      obtain ⟨single, others⟩ := List.forall_mem_cons.mp free
      have step : spell above (name :: rest) = spell (above ++ "." ++ name) rest := by
        rw [spell, List.foldl_cons, if_neg (by simpa using named)]
        rfl
      have longer : above ++ "." ++ name ≠ "" := by
        intro empty
        have chars := congrArg String.toList empty
        simp at chars
      have parts : (above ++ "." ++ name).toList = above.toList ++ '.' :: name.toList := by
        simp
      rw [step, ih others longer, parts, keyParts_concat _ single, List.map_cons,
        List.append_assoc]
      rfl

/-- Keys are clear where no name has a point in it: the parts of a key are the names. -/
theorem clear_of_noPoint {below top : Tree}
    (free : ∀ place ∈ (places below).keys ++ (places top).keys, NoPoint place) :
    Clear below top := by
  intro place member other also same
  have named : componentKey ≠ "" := by decide
  have parts : keyParts (spell componentKey place).toList =
      keyParts (spell componentKey other).toList := by rw [same]
  rw [keyParts_spell (free place member) named, keyParts_spell (free other also) named] at parts
  exact List.map_injective_iff.mpr (fun _ _ => String.toList_inj.mp)
    (List.append_cancel_left parts)

/-- Component styles come together with those over which they are laid: the trees fit, and their
keys are clear. -/
structure Joins (below top : Tree) : Prop where
  lower : Distinct below
  upper : Distinct top
  fits : fits below top = true
  clear : Clear below top

/-- Where places spell different keys, a key has the value of its place. -/
theorem lastValue?_spelled {leaves : Table (List String) String} {place : List String}
    (clear : ∀ other ∈ leaves.keys,
      spell componentKey place = spell componentKey other → place = other) :
    Table.lastValue? (leaves.map fun e => (spell componentKey e.1, e.2))
        (spell componentKey place) = leaves.lastValue? place := by
  induction leaves using List.reverseRecOn with
  | nil => rfl
  | append_singleton leaves e ih =>
      rw [Table.keys_append, List.forall_mem_append] at clear
      rw [List.map_append, Table.lastValue?_append, Table.lastValue?_append, ih clear.1,
        List.map_singleton, Table.lastValue?_singleton, Table.lastValue?_singleton]
      have here := clear.2 e.1 (List.mem_singleton_self e.1)
      by_cases same : place = e.1
      · rw [same]
        simp
      · rw [if_neg, if_neg]
        · rwa [beq_iff_eq]
        · rw [beq_iff_eq]
          exact fun spelled => same (here spelled)

section

variable {below top : Tree} (joins : Joins below top)

include joins

/-- A place that the two trees come to have is one that one of them has. -/
theorem mem_keys_overlay {place : List String}
    (member : place ∈ (places (overlay below top)).keys) :
    place ∈ (places below).keys ++ (places top).keys := by
  by_contra missing
  rw [List.mem_append, not_or] at missing
  obtain ⟨value, found⟩ := Table.exists_lastValue? member
  rw [lastValue?_overlay joins.lower joins.upper joins.fits,
    Table.lastValue?_eq_none missing.1, Table.lastValue?_eq_none missing.2] at found
  cases found

theorem lastValue?_leaves_overlay (key : String) :
    (leaves componentKey (overlay below top)).lastValue? key =
      ((leaves componentKey top).lastValue? key).or
        ((leaves componentKey below).lastValue? key) := by
  by_cases spelled : ∃ place ∈ (places below).keys ++ (places top).keys,
      spell componentKey place = key
  · obtain ⟨place, member, rfl⟩ := spelled
    have clear := joins.clear place member
    rw [leaves_eq_places, leaves_eq_places, leaves_eq_places,
      lastValue?_spelled fun other inside => clear other (mem_keys_overlay joins inside),
      lastValue?_spelled fun other inside => clear other (List.mem_append_right _ inside),
      lastValue?_spelled fun other inside => clear other (List.mem_append_left _ inside)]
    exact lastValue?_overlay joins.lower joins.upper joins.fits place
  · have missing {tree : Tree}
        (held : (places tree).keys ⊆ (places below).keys ++ (places top).keys) :
        (leaves componentKey tree).lastValue? key = none := by
      refine Table.lastValue?_eq_none fun member => ?_
      rw [leaves_eq_places] at member
      obtain ⟨_, inside, rfl⟩ := List.mem_map.mp member
      obtain ⟨e, leaf, rfl⟩ := List.mem_map.mp inside
      exact spelled ⟨e.1, held (List.mem_map_of_mem leaf), rfl⟩
    rw [missing fun place => mem_keys_overlay joins, missing (List.subset_append_right _ _),
      missing (List.subset_append_left _ _)]
    rfl

/-- No key of the lower styles is lost. -/
theorem mem_keys_of_lower {key : String} (member : key ∈ (leaves componentKey below).keys) :
    key ∈ (leaves componentKey (overlay below top)).keys := by
  by_contra missing
  obtain ⟨value, found⟩ := Table.exists_lastValue? member
  have none := lastValue?_leaves_overlay joins key
  rw [Table.lastValue?_eq_none missing, found, Option.or_some] at none
  cases none

end

theorem get?_flatten (above : String) (tree : Tree) (key : String) :
    (flatten above tree).get? key = (leaves above tree).lastValue? key := by
  rw [flatten_eq_putAll, Table.get?_putAll]
  exact Option.or_none

theorem keys_defaults (base : Base) (diagnostics : List Refusal) :
    (Resolved.defaults base diagnostics).«variables».keys =
      ((leaves "" base.tokens).keys ++ (leaves componentKey base.styles).keys).eraseDups := by
  rw [Resolved.defaults, variables_resolve, keys_putAll_nil, allLeaves, Table.keys_append,
    Table.keys_append]
  simp [leaves, Table.keys]

/-- A theme whose component styles join those of the base has all variables of the base. -/
theorem Resolved.mem_keys_of_joins {base : Base} {user : UserTheme} {theme : Resolved}
    (applied : ofUser base (.ok user) = .ok theme)
    (joins : Joins base.styles (user.components.getD [])) {key : String}
    (member : key ∈ (defaults base []).«variables».keys) : key ∈ theme.«variables».keys := by
  rw [keys_defaults, List.mem_eraseDups, List.mem_append] at member
  rw [keys_ofUser applied, List.mem_eraseDups, List.mem_append]
  rcases member with token | style
  · left
    rw [Base.tokenLeaves, Table.keys_append]
    exact List.mem_append_left _ token
  · right
    exact mem_keys_of_lower joins style

/-- **Component styles over component styles.** Where styles join those over which they are laid,
a variable has the value of the upper styles, or else that of the lower ones, and there is no other
variable. So the theme of a text keeps all variables of the base, whether the text is refused or
its component styles join those of the base. -/
theorem Resolved.overlay_per_leaf (below : Tree) :
    (∀ top, Joins below top → ∀ key,
      (flatten componentKey (overlay below top)).get? key =
        ((flatten componentKey top).get? key).or ((flatten componentKey below).get? key)) ∧
    ∀ base : Base, base.styles = below → ∀ (content source : String) (theme : Resolved),
      ofText base (some content) source = .ok theme →
      (∀ user, UserTheme.ofText content source = .ok user →
        Joins below (user.components.getD [])) →
      ∀ key ∈ (defaults base []).«variables».keys, key ∈ theme.«variables».keys := by
  constructor
  · intro top joins key
    rw [get?_flatten, get?_flatten, get?_flatten, lastValue?_leaves_overlay joins]
  · rintro base rfl content source theme resolved joins key member
    rw [ofText] at resolved
    cases loaded : UserTheme.ofText content source with
    | error failure =>
        rw [loaded] at resolved
        cases failure with
        | refused refusal =>
            cases resolved
            exact member
        | broken cause => cases resolved
    | ok user =>
        rw [loaded] at resolved
        exact mem_keys_of_joins resolved (joins user loaded) member

/-- The text of a theme with a red button and a card. -/
def redButtonText : String :=
  "theme: \x7bcomponents: \x7bbutton: \x7bprimary: \x7bcolor: red\x7d\x7d, " ++
    "card: \x7bbig: \x7bcolor: red\x7d\x7d\x7d\x7d"

/-- A tree of one name. -/
def sole (name : String) (v : Value) : Tree := [(.text name, v)]

/-- The component styles of that theme. -/
def redButton : Tree :=
  sole "button" (.map (sole "primary" (.map (sole "color" (.text "red"))))) ++
    sole "card" (.map (sole "big" (.map (sole "color" (.text "red")))))

theorem joins_redButton : Joins Base.builtin.styles redButton where
  lower := by decide +kernel
  upper := by decide +kernel
  fits := by decide +kernel
  clear := clear_of_noPoint (by decide +kernel)

/-- A red button and a card join the built-in styles, and no variable is lost. -/
theorem Resolved.keeps_of_red_button :
    (∀ key, (flatten componentKey (overlay Base.builtin.styles redButton)).get? key =
      ((flatten componentKey redButton).get? key).or
        ((flatten componentKey Base.builtin.styles).get? key)) ∧
    ∃ theme, ofText .builtin (some redButtonText) "<theme>" = .ok theme ∧
      ∀ key ∈ (defaults .builtin []).«variables».keys, key ∈ theme.«variables».keys := by
  obtain ⟨leaves, keeps⟩ := overlay_per_leaf Base.builtin.styles
  refine ⟨leaves _ joins_redButton, ?_⟩
  have found : (UserTheme.ofText redButtonText "<theme>").toOption.map
      (fun user => Base.builtin.writes user &&
        decide (arePlain (user.components.getD []) redButton = true)) = some true := by
    decide +kernel
  obtain ⟨theme, user, resolved, -, loaded, -, plain⟩ := exists_of_loads .builtin found
  refine ⟨theme, resolved, keeps _ rfl _ _ _ resolved fun other also => ?_⟩
  cases loaded.symm.trans also
  rw [eq_of_arePlain plain]
  exact joins_redButton

/-- The text of a theme with a group of colours where the built-in button has one colour. -/
def hoverText : String :=
  "theme: \x7bcomponents: \x7bbutton: \x7bprimary: \x7bcolor: \x7bhover: red\x7d\x7d\x7d\x7d\x7d"

/-- A group over a leaf takes the leaf away: the button loses its colour. -/
theorem Resolved.leaf_lost_under_group :
    ∃ theme, ofText .builtin (some hoverText) "<theme>" = .ok theme ∧ theme.diagnostics = [] ∧
      "component.button.primary.color" ∈ (defaults .builtin []).«variables».keys ∧
      "component.button.primary.color" ∉ theme.«variables».keys := by
  have lost : (UserTheme.ofText hoverText "<theme>").toOption.map (fun user =>
      Base.builtin.writes user && decide ("component.button.primary.color" ∉
        (Base.builtin.tokenLeaves user).keys ++ (Base.builtin.styleLeaves user).keys)) =
      some true := by
    decide +kernel
  obtain ⟨theme, user, resolved, loads, -, applied, missing⟩ := exists_of_loads .builtin lost
  refine ⟨theme, resolved, loads, ?_, ?_⟩
  · rw [keys_defaults, List.mem_eraseDups]
    exact List.mem_append_right _ (by decide +kernel)
  · rwa [keys_ofUser applied, List.mem_eraseDups]

end Wireframe.Theme
