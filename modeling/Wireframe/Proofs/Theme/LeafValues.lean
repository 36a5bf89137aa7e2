import Wireframe.Proofs.Theme.Entries
import Wireframe.Proofs.Theme.Reserved
import Wireframe.Proofs.Yaml.Values

/-! # The values of leaves

What stands at the leaves of a theme that loads. A leaf of its tokens is a single value or a
set, and so is a leaf of its component styles, unless a variant or a property is called
`value`: then the mapping under that name is read as one leaf
(`Wireframe.Theme.Resolved.leaves_of_text`). So the variables are the texts of single values
and of sets, over a base of which this holds, unless the styles have such a variant or
property.
-/

namespace Wireframe.Theme

open Document.Contract (sameKey_text_iff)

/-! ## Leaves and the way to them -/

/-- A leaf of a tree, behind the names on the way to it: a value that is no mapping, or what a
mapping holds as its `value`. -/
inductive Leaf : Tree → List Value → Value → Prop where
  | bare {tree : Tree} {name v : Value} (member : (name, v) ∈ tree)
    (single : ∀ entries, v ≠ .map entries) : Leaf tree [name] v
  | held {tree entries : Tree} {name leaf : Value} (member : (name, .map entries) ∈ tree)
    (found : Value.field? leafName entries = some leaf) : Leaf tree [name] leaf
  | inside {tree entries : Tree} {name leaf : Value} {way : List Value}
    (member : (name, .map entries) ∈ tree) (group : Value.field? leafName entries = none)
    (below : Leaf entries way leaf) : Leaf tree (name :: way) leaf

/-- A key with its text, where the leaves of a tree are flattened: that of a leaf that is not
null. -/
def IsEntry (tree : Tree) (above : String) (e : String × String) : Prop :=
  ∃ way leaf, Leaf tree way leaf ∧ leaf ≠ .null ∧ e = (way.foldl joinKey above, leafText leaf)

theorem IsEntry.mono {tree other : Tree} {above : String} {e : String × String}
    (entry : IsEntry tree above e) (part : tree ⊆ other) : IsEntry other above e := by
  obtain ⟨way, leaf, reached, filled, same⟩ := entry
  refine ⟨way, leaf, ?_, filled, same⟩
  cases reached with
  | bare member single => exact .bare (part member) single
  | held member found => exact .held (part member) found
  | inside member group below => exact .inside (part member) group below

mutual

/-- What flattening sets are the entries of leaves. -/
theorem isEntry_of_mem_leaves {above : String} {e : String × String} (tree : Tree)
    (member : e ∈ leaves above tree) : IsEntry tree above e := by
  match tree with
  | [] => cases member
  | (name, v) :: rest =>
      rw [leaves, List.mem_append] at member
      rcases member with first | behind
      · exact (isEntry_of_mem_leavesAt name v first).mono (List.cons_subset_cons _ (List.nil_subset rest))
      · exact (isEntry_of_mem_leaves rest behind).mono (List.subset_cons_self _ rest)

theorem isEntry_of_mem_leavesAt {above : String} {e : String × String} (name v : Value)
    (member : e ∈ leavesAt (joinKey above name) v) : IsEntry [(name, v)] above e := by
  match v with
  | .map entries =>
      rw [leavesAt] at member
      cases held : Value.field? leafName entries with
      | none =>
          rw [held] at member
          obtain ⟨way, leaf, reached, filled, same⟩ := isEntry_of_mem_leaves entries member
          exact ⟨name :: way, leaf, .inside List.mem_cons_self held reached, filled, same⟩
      | some leaf =>
          rw [held] at member
          have filled : leaf ≠ .null := by
            rintro rfl
            cases member
          refine ⟨[name], leaf, .held List.mem_cons_self held, filled, ?_⟩
          cases leaf with
          | null => exact absurd rfl filled
          | _ => exact List.mem_singleton.mp member
  | .null => cases member
  | .bool _ | .int _ | .float _ | .text _ | .halved _ | .bytes _ | .date _ | .dateTime _ | .time _
  | .list _ | .tuple _ | .set _ =>
      exact ⟨[name], _, .bare List.mem_cons_self nofun, nofun, List.mem_singleton.mp member⟩

end

/-- **What flattening sets.** The keys and texts that a tree is flattened to are those of its leaves
that are not null. -/
theorem mem_leaves_iff {tree : Tree} {above : String} {e : String × String} :
    e ∈ leaves above tree ↔ IsEntry tree above e := by
  refine ⟨isEntry_of_mem_leaves tree, ?_⟩
  rintro ⟨way, leaf, reached, filled, rfl⟩
  induction reached generalizing above with
  | bare member single =>
      rename_i name v
      refine leavesAt_subset member ?_
      cases v with
      | null => exact absurd rfl filled
      | map entries => exact absurd rfl (single entries)
      | _ => exact List.mem_singleton_self _
  | held member found =>
      rename_i name leaf
      refine leavesAt_subset member ?_
      rw [leavesAt, found]
      cases leaf with
      | null => exact absurd rfl filled
      | _ => exact List.mem_singleton_self _
  | inside member group below ih =>
      refine leavesAt_subset member ?_
      rw [leavesAt, group]
      exact ih filled

/-! ## Regular trees -/

/-- A value that a leaf may have: a single one, or a set. -/
def isLeafValue : Value → Bool
  | .set _ => true
  | v => v.isSingle

/-- Whether what stands under `value`, if anything, may be a leaf. -/
def holdsValues (entries : Tree) : Bool :=
  entries.all fun e => !e.1.sameKey (.text leafName) || isLeafValue e.2

mutual

/-- Whether the leaves of a tree have values that they may have. -/
def areRegular : Tree → Bool
  | [] => true
  | (_, v) :: rest => isRegular v && areRegular rest

/-- Whether the leaves of a value in a tree have values that they may have. -/
def isRegular : Value → Bool
  | .map entries => holdsValues entries && (Value.hasField leafName entries || areRegular entries)
  | v => isLeafValue v

end

theorem areRegular_iff {tree : Tree} :
    areRegular tree = true ↔ ∀ e ∈ tree, isRegular e.2 = true := by
  induction tree with
  | nil => exact ⟨fun _ => List.forall_mem_nil _, fun _ => rfl⟩
  | cons e rest ih => rw [areRegular, Bool.and_eq_true, ih, List.forall_mem_cons]

theorem holdsValues_iff {entries : Tree} :
    holdsValues entries = true ↔
      ∀ e ∈ entries, e.1 = .text leafName → isLeafValue e.2 = true := by
  rw [holdsValues, List.all_eq_true]
  refine forall₂_congr fun e _ => ?_
  rw [Bool.or_eq_true, Bool.not_eq_true', ← sameKey_text_iff]
  cases e.1.sameKey (.text leafName) <;> simp

theorem hasField_iff {name : String} {entries : Tree} :
    Value.hasField name entries = true ↔ .text name ∈ entries.map Prod.fst := by
  rw [Value.hasField, Value.field?, Option.isSome_map, List.find?_isSome]
  constructor
  · rintro ⟨e, member, same⟩
    rw [← sameKey_text_iff.mp same]
    exact List.mem_map_of_mem member
  · intro member
    obtain ⟨e, inside, same⟩ := List.mem_map.mp member
    exact ⟨e, inside, sameKey_text_iff.mpr same⟩

theorem isRegular_map_iff {entries : Tree} :
    isRegular (.map entries) = true ↔ holdsValues entries = true ∧
      (Value.hasField leafName entries = true ∨ areRegular entries = true) := by
  rw [isRegular, Bool.and_eq_true, Bool.or_eq_true]

/-- The leaves of a regular tree have values that they may have. -/
theorem Leaf.isLeafValue {tree : Tree} {way : List Value} {leaf : Value}
    (reached : Leaf tree way leaf) (regular : areRegular tree = true) :
    isLeafValue leaf = true := by
  induction reached with
  | bare member single =>
      rename_i name v
      have here := areRegular_iff.mp regular _ member
      cases v with
      | map entries => exact absurd rfl (single entries)
      | _ => exact here
  | held member found =>
      have here := (isRegular_map_iff.mp (areRegular_iff.mp regular _ member)).1
      obtain ⟨e, first, rfl⟩ := Option.map_eq_some_iff.mp found
      exact holdsValues_iff.mp here e (List.mem_of_find?_eq_some first)
        (sameKey_text_iff.mp (by simpa using List.find?_some first))
  | inside member group below ih =>
      have here := (isRegular_map_iff.mp (areRegular_iff.mp regular _ member)).2
      rw [Value.hasField, group] at here
      exact ih (here.resolve_left Bool.false_ne_true)

/-! ### Laying one over another -/

section

variable {key v : Value} {below top : Tree}

theorem areRegular_put (regular : areRegular below = true) (here : isRegular v = true) :
    areRegular (Value.put key v below) = true := by
  rw [areRegular_iff] at regular ⊢
  intro e member
  rcases (Value.entry_of_mem_put member).2 with same | before
  · rw [same]
    exact here
  · exact regular e before

/-- An entry behind a setting is one before it, or it has the value that was set, under a name that
counts as that which was set. -/
theorem mem_put_cases {e : Value × Value} (member : e ∈ Value.put key v below) :
    e.2 = v ∧ (e.1 = key ∨ e.1.sameKey key = true) ∨ e ∈ below := by
  induction below with
  | nil =>
      obtain rfl := List.mem_singleton.mp member
      exact .inl ⟨rfl, .inl rfl⟩
  | cons f rest ih =>
      obtain ⟨name, w⟩ := f
      rw [Value.put] at member
      split_ifs at member with same
      · rcases List.mem_cons.mp member with rfl | behind
        · exact .inl ⟨rfl, .inr same⟩
        · exact .inr (List.mem_cons_of_mem _ behind)
      · rcases List.mem_cons.mp member with rfl | behind
        · exact .inr List.mem_cons_self
        · exact (ih behind).imp_right (List.mem_cons_of_mem _)

theorem holdsValues_put (holds : holdsValues below = true)
    (here : key = .text leafName → isLeafValue v = true) :
    holdsValues (Value.put key v below) = true := by
  rw [holdsValues_iff] at holds ⊢
  intro e member named
  rcases mem_put_cases member with ⟨same, alike⟩ | before
  · rw [same]
    refine here ?_
    rcases alike with equal | alike
    · exact equal.symm.trans named
    · rw [named] at alike
      exact (sameKey_of_title (isTitle_text leafName)).mp alike
  · exact holds e before named

theorem hasField_put {name : String} (held : Value.hasField name below = true) :
    Value.hasField name (Value.put key v below) = true := by
  rw [hasField_iff] at held ⊢
  rcases names_put key v below with same | ⟨-, longer⟩
  · rwa [same]
  · rw [longer]
    exact List.mem_append_left _ held

theorem hasField_put_self (name : String) :
    Value.hasField name (Value.put (.text name) v below) = true := by
  rw [Value.hasField, show Value.field? name _ = _ from find?_put_self (isTitle_text name) v below]
  rfl

/-- What stands under `value` in both trees may be a leaf, so it may where one is laid over the
other. -/
theorem holdsValues_overlay (lower : holdsValues below = true) (upper : holdsValues top = true) :
    holdsValues (overlay below top) = true := by
  induction top generalizing below with
  | nil => exact lower
  | cons e rest ih =>
      obtain ⟨name, w⟩ := e
      obtain ⟨here, others⟩ := List.forall_mem_cons.mp (holdsValues_iff.mp upper)
      rw [overlay]
      refine ih ?_ (holdsValues_iff.mpr others)
      split_ifs
      · exact lower
      · refine holdsValues_put lower fun named => ?_
        have value := here named
        rw [overlayValue_of_single]
        · exact value
        · rintro entries rfl
          cases value

theorem hasField_overlay {name : String} (held : Value.hasField name below = true) :
    Value.hasField name (overlay below top) = true := by
  induction top generalizing below with
  | nil => exact held
  | cons e rest ih =>
      rw [overlay]
      refine ih ?_
      split_ifs
      · exact held
      · exact hasField_put held

/-- A name that the upper tree has with a value that is not null is there where it is laid over
another. -/
theorem hasField_overlay_top {name : String} (found : Value.field? name top = some v)
    (filled : isNullLeaf v = false) : Value.hasField name (overlay below top) = true := by
  induction top generalizing below with
  | nil => cases found
  | cons e rest ih =>
      obtain ⟨key, w⟩ := e
      rw [overlay]
      by_cases named : key = .text name
      · subst named
        rw [field?_cons_self] at found
        obtain rfl := Option.some.inj found
        rw [if_neg (by rw [filled]; exact Bool.false_ne_true)]
        exact hasField_overlay (hasField_put_self name)
      · rw [field?_cons_of_ne named] at found
        exact ih found

/-- What a mapping holds that is no null leaf is none either. -/
theorem filled_of_held {leaf : Value} (holds : holdsValues top = true)
    (found : Value.field? leafName top = some leaf) (filled : isNullLeaf (.map top) = false) :
    isNullLeaf leaf = false := by
  obtain ⟨e, first, rfl⟩ := Option.map_eq_some_iff.mp found
  have value := holdsValues_iff.mp holds e (List.mem_of_find?_eq_some first)
    (sameKey_text_iff.mp (by simpa using List.find?_some first))
  rw [isNullLeaf, found] at filled
  generalize e.2 = leaf at value filled
  cases leaf with
  | null => cases filled
  | map entries => cases value
  | _ => rfl

end

mutual

/-- A regular tree that is laid over another one makes a regular tree. -/
theorem areRegular_overlay {below : Tree} (top : Tree) (lower : areRegular below = true)
    (upper : areRegular top = true) : areRegular (overlay below top) = true := by
  match top with
  | [] => exact lower
  | (name, v) :: rest =>
      rw [areRegular, Bool.and_eq_true] at upper
      rw [overlay]
      refine areRegular_overlay rest ?_ upper.2
      split_ifs with null
      · exact lower
      · rw [Bool.not_eq_true] at null
        refine areRegular_put lower (isRegular_overlayValue v (fun w found => ?_) upper.1 null)
        obtain ⟨e, first, rfl⟩ := Option.map_eq_some_iff.mp found
        exact areRegular_iff.mp lower e (List.mem_of_find?_eq_some first)

/-- A regular value that is laid over another one makes a regular value. -/
theorem isRegular_overlayValue {below : Option Value} (v : Value)
    (lower : ∀ w, below = some w → isRegular w = true) (upper : isRegular v = true)
    (filled : isNullLeaf v = false) : isRegular (overlayValue below v) = true := by
  match v with
  | .map entries =>
      by_cases grouped : ∃ under, below = some (.map under)
      · obtain ⟨under, rfl⟩ := grouped
        obtain ⟨holdsLower, groupLower⟩ := isRegular_map_iff.mp (lower _ rfl)
        obtain ⟨holdsUpper, groupUpper⟩ := isRegular_map_iff.mp upper
        rw [overlayValue, isRegular_map_iff]
        refine ⟨holdsValues_overlay holdsLower holdsUpper, ?_⟩
        rcases groupLower with held | lowerEach
        · exact .inl (hasField_overlay held)
        · rcases groupUpper with held | upperEach
          · obtain ⟨leaf, found⟩ := Option.isSome_iff_exists.mp held
            exact .inl (hasField_overlay_top found (filled_of_held holdsUpper found filled))
          · exact .inr (areRegular_overlay entries lowerEach upperEach)
      · rw [overlayValue]
        · exact upper
        · exact fun under same => grouped ⟨under, same⟩
  | .null | .bool _ | .int _ | .float _ | .text _ | .halved _ | .bytes _ | .date _ | .dateTime _
  | .time _ | .list _ | .tuple _ | .set _ =>
      rw [overlayValue_of_single]
      · exact upper
      · exact nofun

end

/-! ## What a text gives -/

/-- A value as texts give it, with mappings that have no key twice. -/
structure IsGiven (v : Value) : Prop where
  spoken : v.Spoken
  valid : v.WellFormed

theorem isGiven_of_load {text : String} {v : Value} (loaded : Yaml.load text = .ok v) :
    IsGiven v :=
  ⟨Yaml.spoken_of_load text v loaded, Yaml.wellFormed_of_load text v loaded⟩

section

variable {entries : Tree} {name : String} {leaf : Value}

theorem IsGiven.entry (given : IsGiven (.map entries)) {e : Value × Value} (member : e ∈ entries) :
    IsGiven e.2 := by
  refine ⟨?_, (Value.wellFormed_map_iff.mp given.valid).2.2 e member⟩
  cases given.spoken with
  | single single => cases single
  | map held => exact held e member

theorem IsGiven.field? (given : IsGiven (.map entries))
    (found : Value.field? name entries = some leaf) : IsGiven leaf := by
  obtain ⟨e, first, rfl⟩ := Option.map_eq_some_iff.mp found
  exact given.entry (List.mem_of_find?_eq_some first)

/-- What the rules for themes take for a scalar may be a leaf. -/
theorem IsGiven.isLeafValue {v : Value} (given : IsGiven v) (scalar : IsScalar v) :
    isLeafValue v = true := by
  cases given.spoken with
  | single single => cases v <;> first | rfl | cases single
  | list => exact scalar.elim
  | set => rfl
  | map held => exact scalar.elim

/-- Under a name there is only the value that is found under it. -/
theorem eq_of_field? (distinct : Value.Distinct entries)
    (found : Value.field? name entries = some leaf) {e : Value × Value} (member : e ∈ entries)
    (named : e.1 = .text name) : e.2 = leaf := by
  induction entries with
  | nil => cases member
  | cons f rest ih =>
      obtain ⟨key, v⟩ := f
      obtain ⟨apart, others⟩ := List.pairwise_cons.mp distinct
      by_cases same : key = .text name
      · subst same
        rw [field?_cons_self] at found
        obtain rfl := Option.some.inj found
        rcases List.mem_cons.mp member with rfl | behind
        · rfl
        · have differs := apart e behind
          rw [named, sameKey_text_iff.mpr rfl] at differs
          cases differs
      · rw [field?_cons_of_ne same] at found
        rcases List.mem_cons.mp member with rfl | behind
        · exact absurd named same
        · exact ih others found behind

theorem holdsValues_of_none (missing : Value.field? leafName entries = none) :
    holdsValues entries = true := by
  rw [holdsValues_iff]
  intro e member named
  have held : Value.hasField leafName entries = true :=
    hasField_iff.mpr (named ▸ List.mem_map_of_mem member)
  rw [Value.hasField, missing] at held
  cases held

/-- A mapping that holds a value which may be a leaf is regular. -/
theorem IsGiven.isRegular_of_held (given : IsGiven (.map entries))
    (found : Value.field? leafName entries = some leaf) (value : Theme.isLeafValue leaf = true) :
    isRegular (.map entries) = true := by
  have distinct := (Value.wellFormed_map_iff.mp given.valid).2.1
  rw [isRegular_map_iff, holdsValues_iff, Value.hasField, found]
  refine ⟨fun e member named => ?_, .inl rfl⟩
  rwa [eq_of_field? distinct found member named]

/-- A mapping that holds no value is regular if what is in it is. -/
theorem isRegular_of_group (bare : Value.field? leafName entries = none)
    (each : areRegular entries = true) : isRegular (.map entries) = true :=
  isRegular_map_iff.mpr ⟨holdsValues_of_none bare, .inr each⟩

end

/-- A value that stands in a tree by the rules for themes is regular. -/
theorem IsGiven.isRegular {v : Value} (given : IsGiven v) (inTree : InTree v) :
    isRegular v = true := by
  induction inTree with
  | scalar scalar =>
      rename_i v
      have value := given.isLeafValue scalar
      cases v with
      | map entries => exact scalar.elim
      | _ => exact value
  | leaf held scalar =>
      exact given.isRegular_of_held held ((given.field? held).isLeafValue scalar)
  | group bare each ih =>
      exact isRegular_of_group bare (areRegular_iff.mpr fun e member =>
        ih e member (given.entry member))

/-- The tokens that a text gives are regular. -/
theorem GivesTokens.areRegular {theme : Tree} {tokens : Option Tree}
    (gives : GivesTokens theme tokens) (given : IsGiven (.map theme)) :
    areRegular (tokens.getD []) = true := by
  cases gives with
  | absent => rfl
  | null => rfl
  | tree found rules free retitled =>
      rw [Option.getD_some, areRegular_iff]
      intro e member
      obtain ⟨raw, inside, -, same⟩ := retitled.origin member
      rw [← same]
      exact ((given.field? found).entry inside).isRegular (rules raw inside)

/-! ## Component styles -/

/-- A mapping among component styles that is read as one leaf: a variant called `value`, or a
property called `value` that is a mapping. -/
inductive Taken (styles : Tree) : List Value → Value → Prop where
  | variant {kind v : Value} {variants : Tree} (member : (kind, .map variants) ∈ styles)
    (found : Value.field? leafName variants = some v) : Taken styles [kind] v
  | property {kind variant : Value} {variants properties entries : Tree}
    (member : (kind, .map variants) ∈ styles) (bare : Value.field? leafName variants = none)
    (below : (variant, .map properties) ∈ variants)
    (found : Value.field? leafName properties = some (.map entries)) :
    Taken styles [kind, variant] (.map entries)

/-- Component styles as texts give them: the properties of each variant of each kind are tokens. -/
def AreStyles (styles : Tree) : Prop :=
  ∀ e ∈ styles, ∃ variants, e.2 = .map variants ∧
    ∀ f ∈ variants, ∃ properties, f.2 = .map properties ∧ IsTokens properties ∧
      IsGiven (.map properties)

theorem GivesStyles.areStyles {theme : Tree} {styles : Option Tree}
    (gives : GivesStyles theme styles) (given : IsGiven (.map theme)) :
    AreStyles (styles.getD []) := by
  cases gives with
  | absent => exact nofun
  | null => exact nofun
  | tree found rules retitled =>
      rw [Option.getD_some]
      intro e member
      obtain ⟨raw, inside, -, raws, variants, opened, titled, below⟩ :=
        retitled.origin member
      refine ⟨variants, titled, fun f behind => ?_⟩
      obtain ⟨variant, among, -, same⟩ := below.origin behind
      obtain ⟨others, also, each⟩ := rules raw inside
      obtain rfl := Value.map.inj (opened.symm.trans also)
      obtain ⟨properties, group, tokens⟩ := each variant among
      have kind := (given.field? found).entry inside
      rw [opened] at kind
      have held := kind.entry among
      rw [group] at held
      exact ⟨properties, same.symm.trans group, tokens, held⟩

/-- A property called `value` may be a leaf, unless it is a mapping. -/
theorem isLeafValue_of_property {properties : Tree} {leaf : Value} (tokens : IsTokens properties)
    (given : IsGiven (.map properties)) (found : Value.field? leafName properties = some leaf)
    (single : ∀ entries, leaf ≠ .map entries) : isLeafValue leaf = true := by
  obtain ⟨e, first, rfl⟩ := Option.map_eq_some_iff.mp found
  have member := List.mem_of_find?_eq_some first
  have regular := (given.entry member).isRegular (tokens e member)
  generalize e.2 = leaf at regular single
  cases leaf with
  | map entries => exact absurd rfl (single entries)
  | _ => exact regular

section

variable {styles : Tree} {way : List Value} {leaf : Value}

/-- What is taken for a leaf is a mapping, which no leaf should be. -/
theorem Taken.not_isLeafValue (taken : Taken styles way leaf) (given : AreStyles styles) :
    isLeafValue leaf = false := by
  cases taken with
  | variant member found =>
      obtain ⟨variants, same, each⟩ := given _ member
      obtain rfl := Value.map.inj same
      obtain ⟨e, first, rfl⟩ := Option.map_eq_some_iff.mp found
      obtain ⟨properties, group, -⟩ := each e (List.mem_of_find?_eq_some first)
      rw [group]
      rfl
  | property member bare below found => rfl

/-- Component styles are regular if no mapping among them is taken for a leaf. -/
theorem AreStyles.areRegular (given : AreStyles styles) (free : ∀ way v, ¬ Taken styles way v) :
    areRegular styles = true := by
  rw [areRegular_iff]
  rintro ⟨kind, v⟩ member
  obtain ⟨variants, rfl, each⟩ := given _ member
  have bare : Value.field? leafName variants = none :=
    Option.eq_none_iff_forall_ne_some.mpr fun v found => free _ v (.variant member found)
  refine isRegular_of_group bare (areRegular_iff.mpr ?_)
  rintro ⟨variant, v⟩ below
  obtain ⟨properties, rfl, tokens, held⟩ := each _ below
  cases found : Value.field? leafName properties with
  | none => exact held.isRegular (.group found tokens)
  | some leaf =>
      refine held.isRegular_of_held found (isLeafValue_of_property tokens held found ?_)
      rintro entries rfl
      exact free _ _ (.property member bare below found)

/-- **The leaves of component styles.** A leaf has a value that it may have, unless it is a mapping
that is taken for a leaf. -/
theorem AreStyles.isLeafValue_iff (given : AreStyles styles) (reached : Leaf styles way leaf) :
    isLeafValue leaf = true ↔ ¬ Taken styles way leaf := by
  refine ⟨fun value taken => ?_, fun free => ?_⟩
  · rw [taken.not_isLeafValue given] at value
    cases value
  · cases reached with
    | bare member single =>
        obtain ⟨variants, rfl, -⟩ := given _ member
        exact absurd rfl (single variants)
    | held member found => exact absurd (.variant member found) free
    | @inside _ variants kind _ way member bare below =>
        obtain ⟨_, same, each⟩ := given _ member
        obtain rfl := Value.map.inj same
        cases below with
        | bare under single =>
            obtain ⟨properties, rfl, -⟩ := each _ under
            exact absurd rfl (single properties)
        | held under found =>
            obtain ⟨_, group, tokens, held⟩ := each _ under
            obtain rfl := Value.map.inj group
            refine isLeafValue_of_property tokens held found ?_
            rintro entries rfl
            exact free (.property member bare under found)
        | inside under group below =>
            obtain ⟨_, same, tokens, held⟩ := each _ under
            obtain rfl := Value.map.inj same
            exact below.isLeafValue (areRegular_iff.mpr fun e inside =>
              (held.entry inside).isRegular (tokens e inside))

end

/-- A mapping that is taken for a leaf is a leaf. -/
theorem Taken.leaf {styles : Tree} {way : List Value} {v : Value} (taken : Taken styles way v) :
    Leaf styles way v := by
  cases taken with
  | variant member found => exact .held member found
  | property member bare below found => exact .inside member bare (.held below found)

/-- In regular component styles no mapping is taken for a leaf. -/
theorem AreStyles.free {styles : Tree} (given : AreStyles styles)
    (regular : Theme.areRegular styles = true) (way : List Value) (v : Value) :
    ¬ Taken styles way v := by
  intro taken
  have value := taken.leaf.isLeafValue regular
  rw [taken.not_isLeafValue given] at value
  cases value

/-! ## Variables -/

/-- The component styles of a theme, which are none where it gives none. -/
def UserTheme.styleTree (user : UserTheme) : Tree := user.components.getD []

/-- The trees whose leaves are the variables of a theme, each with the key above it. -/
def Base.layers (base : Base) : Except Failure UserTheme → List (String × Tree)
  | .ok user =>
    [("", base.tokens), ("", user.tokenTree), (componentKey, overlay base.styles user.styleTree)]
  | .error _ => [("", base.tokens), (componentKey, base.styles)]

/-- A variable that stems from a leaf of a tree, whose value is one that a leaf may have. -/
def Stems (layer : String × Tree) (e : String × String) : Prop :=
  ∃ way leaf, Leaf layer.2 way leaf ∧ leaf ≠ .null ∧ isLeafValue leaf = true ∧
    e = (way.foldl joinKey layer.1, leafText leaf)

theorem stems_of_mem_leaves {layer : String × Tree} (regular : areRegular layer.2 = true)
    {e : String × String} (member : e ∈ leaves layer.1 layer.2) : Stems layer e := by
  obtain ⟨way, leaf, reached, filled, same⟩ := mem_leaves_iff.mp member
  exact ⟨way, leaf, reached, filled, reached.isLeafValue regular, same⟩

/-- The variables of a theme are leaves of its layers. -/
theorem mem_leaves_of_mem_variables {defaults : Tree} {user styles : Option Tree}
    {diagnostics : List Refusal} {e : String × String}
    (member : e ∈ (resolve defaults user styles diagnostics).«variables») :
    e ∈ leaves "" defaults ∨ e ∈ leaves "" (user.getD []) ∨
      e ∈ leaves componentKey (styles.getD []) := by
  obtain ⟨key, text⟩ := e
  have fresh : (Table.keys ([] : Variables)).Nodup := List.nodup_nil
  rw [variables_resolve] at member
  have found := Table.get?_of_mem (Table.nodup_putAll fresh _) member
  rw [Table.get?_putAll, show Table.get? ([] : Variables) key = none from rfl, Option.or_none]
    at found
  have inside := Table.mem_of_lastValue? found
  rw [allLeaves, List.append_assoc, List.mem_append, List.mem_append] at inside
  exact inside

/-- What a text that loads gives: tokens that are regular, and component styles. -/
theorem given_of_ofText {content source : String} {user : UserTheme}
    (loads : UserTheme.ofText content source = .ok user) :
    areRegular user.tokenTree = true ∧ AreStyles user.styleTree := by
  have loaded := loaded_ofText content source
  rw [loads] at loaded
  cases loaded with
  | said told =>
      obtain ⟨mapping, ⟨entries, read, found⟩, givesTokens, givesStyles⟩ := told
      have given := (isGiven_of_load read).field? found
      exact ⟨givesTokens.areRegular given, givesStyles.areStyles given⟩

/-- **The values of leaves.** If a text loads as a theme, each leaf of its tokens is a single value
or a set, and each leaf of its component styles is one exactly if it is not a mapping that is taken
for a leaf because its variant or property is called `value`. Over a base whose leaves are single
values and sets, all variables stem from leaves with such values, whether the text loads or is
refused, if no mapping in it is taken for a leaf. -/
theorem Resolved.leaves_of_text {base : Base} (tokens : areRegular base.tokens = true)
    (styles : areRegular base.styles = true) (content source : String) :
    (∀ user, UserTheme.ofText content source = .ok user →
      (∀ way leaf, Leaf user.tokenTree way leaf → isLeafValue leaf = true) ∧
        ∀ way leaf, Leaf user.styleTree way leaf →
          (isLeafValue leaf = true ↔ ¬ Taken user.styleTree way leaf)) ∧
      ∀ theme, ofText base (some content) source = .ok theme →
        (∀ user, UserTheme.ofText content source = .ok user →
          ∀ way v, ¬ Taken user.styleTree way v) →
        ∀ e ∈ theme.«variables»,
          ∃ layer ∈ base.layers (UserTheme.ofText content source), Stems layer e := by
  constructor
  · intro user loads
    obtain ⟨regular, given⟩ := given_of_ofText loads
    exact ⟨fun way leaf reached => reached.isLeafValue regular,
      fun way leaf reached => given.isLeafValue_iff reached⟩
  · intro theme resolved free e member
    rw [ofText] at resolved
    cases loads : UserTheme.ofText content source with
    | ok user =>
        obtain ⟨regular, given⟩ := given_of_ofText loads
        have laid : areRegular (overlay base.styles user.styleTree) = true :=
          areRegular_overlay _ styles (given.areRegular (free user loads))
        rw [loads] at resolved
        obtain ⟨-, rfl⟩ := ofUser_eq_ok.mp resolved
        rcases mem_leaves_of_mem_variables member with default | token | style
        · exact ⟨("", base.tokens), by simp [Base.layers], stems_of_mem_leaves tokens default⟩
        · exact ⟨("", user.tokenTree), by simp [Base.layers], stems_of_mem_leaves regular token⟩
        · exact ⟨(componentKey, overlay base.styles user.styleTree), by simp [Base.layers],
            stems_of_mem_leaves laid style⟩
    | error failure =>
        rw [loads] at resolved
        cases failure with
        | broken cause => cases resolved
        | refused refusal =>
            cases resolved
            rcases mem_leaves_of_mem_variables member with default | nothing | style
            · exact ⟨("", base.tokens), by simp [Base.layers], stems_of_mem_leaves tokens default⟩
            · cases nothing
            · exact ⟨(componentKey, base.styles), by simp [Base.layers],
                stems_of_mem_leaves styles style⟩

theorem regular_builtin :
    areRegular Base.builtin.tokens = true ∧ areRegular Base.builtin.styles = true := by
  decide +kernel

/-- The text of a theme with a number in a wrapper, a set, and a component style. -/
def setText : String :=
  "theme: \x7btokens: \x7ba: \x7bvalue: 1\x7d, b: !!set \x7bx\x7d\x7d, " ++
    "components: \x7bcard: \x7bbig: \x7bcolor: red\x7d\x7d\x7d\x7d"

/-- Over the built-in theme, the variables of such a theme stem from leaves that are single values
and sets. -/
theorem Resolved.leaves_of_set :
    areRegular Base.builtin.tokens = true ∧ areRegular Base.builtin.styles = true ∧
      ∃ theme user, ofText .builtin (some setText) "<theme>" = .ok theme ∧
        UserTheme.ofText setText "<theme>" = .ok user ∧
        (∀ way v, ¬ Taken user.styleTree way v) ∧
        ∀ e ∈ theme.«variables», ∃ layer ∈ Base.builtin.layers (.ok user), Stems layer e := by
  have regular : (UserTheme.ofText setText "<theme>").toOption.map
      (fun user => Base.builtin.writes user && decide (areRegular user.styleTree = true)) =
      some true := by
    decide +kernel
  obtain ⟨theme, user, resolved, -, loaded, -, kept⟩ := exists_of_loads .builtin regular
  have free := (given_of_ofText loaded).2.free kept
  have stems := (leaves_of_text regular_builtin.1 regular_builtin.2 setText "<theme>").2 theme
    resolved fun other also => by
      obtain rfl := Except.ok.inj (loaded.symm.trans also)
      exact free
  rw [loaded] at stems
  exact ⟨regular_builtin.1, regular_builtin.2, theme, user, resolved, loaded, free, stems⟩

/-- The text of a theme whose one token is a set. -/
def loneSetText : String := "theme: \x7btokens: \x7ba: !!set \x7bx\x7d\x7d\x7d"

/-- The text of a theme whose one variant is called `value`. -/
def valueVariantText : String :=
  "theme: \x7bcomponents: \x7bbutton: \x7bvalue: \x7bcolor: red\x7d\x7d\x7d\x7d"

/-- The properties of that variant. -/
def redProperties : Tree := [(.text "color", .text "red")]

/-- Whether the value of the first entry of a tree is a set. -/
def leadsWithSet : Tree → Bool
  | (_, .set _) :: _ => true
  | _ => false

/-- Texts load of which one leaf is a set and one a mapping. -/
theorem Resolved.collections_among_leaves :
    (∃ user, UserTheme.ofText loneSetText "<theme>" = .ok user ∧
      ∃ way items, Leaf user.tokenTree way (.set items)) ∧
    ∃ user, UserTheme.ofText valueVariantText "<theme>" = .ok user ∧
      ∃ way entries, Leaf user.styleTree way (.map entries) := by
  constructor
  · have found : (UserTheme.ofText loneSetText "<theme>").toOption.map
        (fun user => Base.builtin.writes user && decide (leadsWithSet user.tokenTree = true)) =
        some true := by
      decide +kernel
    obtain ⟨-, user, -, -, loaded, -, leads⟩ := exists_of_loads .builtin found
    refine ⟨user, loaded, ?_⟩
    generalize user.tokenTree = tokens at leads
    match tokens, leads with
    | (name, .set items) :: rest, _ =>
        exact ⟨[name], items, .bare List.mem_cons_self nofun⟩
  · have found : (UserTheme.ofText valueVariantText "<theme>").toOption.map (fun user =>
        Base.builtin.writes user && decide (arePlain user.styleTree
          [(.text "button", .map [(.text "value", .map redProperties)])] = true)) = some true := by
      decide +kernel
    obtain ⟨-, user, -, -, loaded, -, plain⟩ := exists_of_loads .builtin found
    refine ⟨user, loaded, [.text "button"], redProperties, ?_⟩
    rw [eq_of_arePlain plain]
    exact .held List.mem_cons_self rfl

end Wireframe.Theme
