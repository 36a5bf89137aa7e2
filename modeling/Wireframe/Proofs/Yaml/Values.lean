import Wireframe.Yaml.Load

/-! # Well-formed values

No mapping has a key twice and no set an item, and only scalars are keys or stand in sets. The
values of all texts are well-formed in this sense (`Wireframe.Yaml.wellFormed_of_load`). Nor does
a text put a tuple or a time of day into a mapping (`Wireframe.Yaml.spoken_of_load`).

That a key is a scalar is found out when the levels of a node are visited, before any value is
built; so what is known of the value of a node is known for nodes that have been visited.
-/

namespace Wireframe

namespace Value

/-- A value that holds no other values. -/
def isScalar : Value → Bool
  | list _ | tuple _ | set _ | map _ => false
  | _ => true

/-- A value that a scalar of a text can have. A time of day is none. -/
def isSingle : Value → Bool
  | null | bool _ | int _ | float _ | text _ | halved _ | bytes _ | date _ | dateTime _ => true
  | _ => false

theorem isScalar_of_isSingle {v : Value} (single : v.isSingle = true) : v.isScalar = true := by
  cases v <;> first | rfl | cases single

/-- No two of the entries have the same key. -/
def Distinct (entries : List (Value × Value)) : Prop :=
  entries.Pairwise fun e f => e.1.sameKey f.1 = false

/-- A value whose mappings and sets are such, at any depth. -/
inductive WellFormed : Value → Prop where
  | scalar {v : Value} (plain : v.isScalar = true) : WellFormed v
  | list {items : List Value} (held : ∀ v ∈ items, WellFormed v) : WellFormed (.list items)
  | tuple {items : List Value} (held : ∀ v ∈ items, WellFormed v) : WellFormed (.tuple items)
  | set {items : List Value} (plain : ∀ v ∈ items, v.isScalar = true)
    (distinct : items.Pairwise fun v w => v.sameKey w = false) : WellFormed (.set items)
  | map {entries : List (Value × Value)} (plain : ∀ e ∈ entries, e.1.isScalar = true)
    (distinct : Distinct entries) (held : ∀ e ∈ entries, WellFormed e.2) :
    WellFormed (.map entries)

@[simp] theorem wellFormed_null : null.WellFormed := .scalar rfl

@[simp] theorem wellFormed_int (n : Int) : (int n).WellFormed := .scalar rfl

@[simp] theorem wellFormed_text (s : String) : (text s).WellFormed := .scalar rfl

@[simp] theorem wellFormed_list_iff {items : List Value} :
    (list items).WellFormed ↔ ∀ v ∈ items, v.WellFormed := by
  constructor
  · rintro (plain | held)
    · cases plain
    · exact held
  · exact .list

@[simp] theorem wellFormed_map_iff {entries : List (Value × Value)} :
    (map entries).WellFormed ↔ (∀ e ∈ entries, e.1.isScalar = true) ∧ Distinct entries ∧
      ∀ e ∈ entries, e.2.WellFormed := by
  constructor
  · intro valid
    cases valid with
    | scalar plain => cases plain
    | map plain distinct held => exact ⟨plain, distinct, held⟩
  · rintro ⟨plain, distinct, held⟩
    exact .map plain distinct held

theorem wellFormed_of_field? {name : String} {entries : List (Value × Value)} {v : Value}
    (valid : (map entries).WellFormed) (found : field? name entries = some v) : v.WellFormed := by
  obtain ⟨e, first, rfl⟩ := Option.map_eq_some_iff.mp found
  exact (wellFormed_map_iff.mp valid).2.2 e (List.mem_of_find?_eq_some first)

/-! ## Setting entries and adding items -/

theorem entry_of_mem_put {key value : Value} {entries : List (Value × Value)} {e : Value × Value}
    (member : e ∈ put key value entries) :
    (e.1 = key ∨ ∃ f ∈ entries, e.1 = f.1) ∧ (e.2 = value ∨ e ∈ entries) := by
  induction entries with
  | nil =>
      rw [put, List.mem_singleton] at member
      subst member
      exact ⟨.inl rfl, .inl rfl⟩
  | cons f entries ih =>
      obtain ⟨k, v⟩ := f
      rw [put] at member
      split at member
      · rcases List.mem_cons.mp member with rfl | later
        · exact ⟨.inr ⟨(k, v), List.mem_cons_self, rfl⟩, .inl rfl⟩
        · exact ⟨.inr ⟨e, List.mem_cons_of_mem _ later, rfl⟩, .inr (List.mem_cons_of_mem _ later)⟩
      · rcases List.mem_cons.mp member with rfl | later
        · exact ⟨.inr ⟨(k, v), List.mem_cons_self, rfl⟩, .inr List.mem_cons_self⟩
        · obtain ⟨keys, values⟩ := ih later
          refine ⟨keys.imp_right ?_, values.imp_right (List.mem_cons_of_mem _)⟩
          rintro ⟨g, inside, same⟩
          exact ⟨g, List.mem_cons_of_mem _ inside, same⟩

/-- Setting an entry makes no key stand twice. -/
theorem distinct_put {entries : List (Value × Value)} (distinct : Distinct entries)
    (key value : Value) : Distinct (put key value entries) := by
  induction entries with
  | nil => exact List.pairwise_singleton _ _
  | cons f entries ih =>
      obtain ⟨k, v⟩ := f
      obtain ⟨first, others⟩ := List.pairwise_cons.mp distinct
      rw [put]
      split
      · exact List.pairwise_cons.mpr ⟨first, others⟩
      · rename_i differ
        refine List.pairwise_cons.mpr ⟨fun e member => ?_, ih others⟩
        rcases (entry_of_mem_put member).1 with same | ⟨g, inside, same⟩
        · rw [same]
          exact Bool.not_eq_true _ ▸ differ
        · rw [same]
          exact first g inside

/-- The mapping of some entries is well-formed if the keys are scalars and the values are
well-formed. -/
theorem wellFormed_putAll {entries : List (Value × Value)}
    (plain : ∀ e ∈ entries, e.1.isScalar = true) (held : ∀ e ∈ entries, WellFormed e.2) :
    WellFormed (.map (putAll entries [])) := by
  suffices every : ∀ into, (∀ e ∈ into, e.1.isScalar = true) → Distinct into →
      (∀ e ∈ into, WellFormed e.2) → WellFormed (.map (putAll entries into)) from
    every [] nofun .nil nofun
  induction entries with
  | nil => exact fun into plain distinct held => .map plain distinct held
  | cons f entries ih =>
      intro into plainInto distinct heldInto
      obtain ⟨plainFirst, plainOthers⟩ := List.forall_mem_cons.mp plain
      obtain ⟨heldFirst, heldOthers⟩ := List.forall_mem_cons.mp held
      refine ih plainOthers heldOthers (put f.1 f.2 into) (fun e member => ?_)
        (distinct_put distinct f.1 f.2) fun e member => ?_
      · rcases (entry_of_mem_put member).1 with same | ⟨g, inside, same⟩
        · rw [same]
          exact plainFirst
        · rw [same]
          exact plainInto g inside
      · rcases (entry_of_mem_put member).2 with same | inside
        · rw [same]
          exact heldFirst
        · exact heldInto e inside

/-- The values of a mapping are among those that were set. -/
theorem value_of_mem_putAll {entries into : List (Value × Value)} {e : Value × Value}
    (member : e ∈ putAll entries into) : (∃ f ∈ entries, e.2 = f.2) ∨ e ∈ into := by
  induction entries generalizing into with
  | nil => exact .inr member
  | cons f entries ih =>
      obtain ⟨g, inside, same⟩ | before := @ih (put f.1 f.2 into) member
      · exact .inl ⟨g, List.mem_cons_of_mem f inside, same⟩
      · exact (entry_of_mem_put before).2.imp_left fun same => ⟨f, List.mem_cons_self, same⟩

/-- The set of some scalars is well-formed. -/
theorem wellFormed_insertAll {items : List Value} (plain : ∀ v ∈ items, v.isScalar = true) :
    WellFormed (.set (items.foldl (fun found v => insertItem v found) [])) := by
  suffices every : ∀ found : List Value, (∀ v ∈ found, v.isScalar = true) →
      (found.Pairwise fun v w => v.sameKey w = false) →
      WellFormed (.set (items.foldl (fun found v => insertItem v found) found)) from
    every [] nofun .nil
  induction items with
  | nil => exact fun found plain distinct => .set plain distinct
  | cons v items ih =>
      intro found plainFound distinct
      obtain ⟨plainFirst, plainOthers⟩ := List.forall_mem_cons.mp plain
      rw [List.foldl_cons, insertItem]
      split
      · exact ih plainOthers found plainFound distinct
      · rename_i missing
        refine ih plainOthers _ (List.forall_mem_append.mpr ⟨plainFound, ?_⟩)
          (List.pairwise_append.mpr ⟨distinct, List.pairwise_singleton _ _, ?_⟩)
        · exact List.forall_mem_singleton.mpr plainFirst
        · intro w member other here
          obtain rfl := List.mem_singleton.mp here
          rw [Bool.eq_false_iff]
          exact fun same => missing (List.any_eq_true.mpr ⟨w, member, same⟩)

end Value

namespace Yaml

/-! ## What a computation makes -/

/-- Whatever a computation makes, if anything, has a property. -/
def Makes {α ε : Type} (result : Except ε α) (holds : α → Prop) : Prop :=
  ∀ a, result = .ok a → holds a

section

variable {α β ε : Type} {holds : α → Prop} {follows : β → Prop}

theorem makes_ok {a : α} (here : holds a) : Makes (.ok a : Except ε α) holds := by
  rintro _ ⟨⟩
  exact here

theorem makes_ite {c : Prop} [Decidable c] {first second : Except ε α} (yes : Makes first holds)
    (no : Makes second holds) : Makes (if c then first else second) holds := by
  split
  · exact yes
  · exact no

theorem makes_bind {result : Except ε α} {next : α → Except ε β}
    (second : ∀ a, result = .ok a → Makes (next a) follows) : Makes (result >>= next) follows := by
  cases result with
  | error e => exact nofun
  | ok a => exact second a rfl

theorem makes_map {result : Except ε α} {f : α → β} (each : ∀ a, follows (f a)) :
    Makes (f <$> result) follows := by
  cases result with
  | error e => exact nofun
  | ok a => exact makes_ok (each a)

theorem makes_mapM {f : α → Except ε β} {items : List α}
    (each : ∀ item ∈ items, Makes (f item) follows) :
    Makes (items.mapM f) fun made => ∀ b ∈ made, follows b := by
  induction items with
  | nil => exact makes_ok nofun
  | cons item items ih =>
      obtain ⟨here, others⟩ := List.forall_mem_cons.mp each
      rw [List.mapM_cons]
      refine makes_bind fun first made => makes_bind fun rest more => makes_ok ?_
      exact List.forall_mem_cons.mpr ⟨here first made, ih others rest more⟩

end

/-! ## Scalars -/

theorem isSingle_bool (text : String) : Makes (Scalar.bool text) fun v => v.isSingle = true :=
  makes_ite (makes_ok rfl) (makes_ite (makes_ok rfl) nofun)

theorem isSingle_int (text : String) : Makes (Scalar.int text) fun v => v.isSingle = true := by
  have number {n : Scalar.Result Int} {sign : Int} :
      Makes (n >>= fun n => pure (Value.int (sign * n))) fun v => v.isSingle = true :=
    makes_bind fun _ _ => makes_ok rfl
  unfold Scalar.int
  simp only
  refine makes_ite (makes_bind nofun) ?_
  split
  · exact number
  · exact number
  · exact number
  · exact number
  · exact number
  · exact makes_ite number number

theorem isSingle_float (text : String) :
    Makes (Scalar.float text) fun v => v.isSingle = true := by
  unfold Scalar.float
  simp only
  refine makes_ite (makes_bind nofun) ?_
  refine makes_ite (makes_ok rfl) ?_
  refine makes_ite (makes_ok rfl) ?_
  exact makes_ite (makes_bind fun _ _ => makes_ok rfl) (makes_bind fun _ _ => makes_ok rfl)

theorem isSingle_binary (text : String) (mark : Mark) :
    Makes (Scalar.binary text mark) fun v => v.isSingle = true := by
  unfold Scalar.binary
  simp only
  split
  · exact nofun
  · split
    · exact makes_ok rfl
    · exact nofun

theorem isSingle_timestamp (text : String) :
    Makes (Scalar.timestamp text) fun v => v.isSingle = true := by
  have form (form : Tag.TimestampForm) :
      Makes (Scalar.timestampOf form) fun v => v.isSingle = true := by
    unfold Scalar.timestampOf
    split
    · exact makes_map fun _ => rfl
    · exact makes_bind fun _ _ => makes_bind fun _ _ => makes_bind fun _ _ => makes_ok rfl
  unfold Scalar.timestamp
  split
  · exact nofun
  · split
    · rename_i read
      exact makes_ok (form _ _ read)
    · exact nofun

/-! ## Nodes -/

namespace Node

/-- The value that the shape of a node holds is a single one. -/
theorem isSingle_of_shape (n : Node) :
    Makes n.shape fun shape => ∀ v, shape = .value v → v.isSingle = true := by
  have valued {result : Except Error Value} (plain : Makes result fun v => v.isSingle = true) :
      Makes (result >>= fun v => Except.ok (Shape.value v))
        fun shape => ∀ v, shape = .value v → v.isSingle = true := by
    refine makes_bind fun v found => makes_ok ?_
    rintro _ ⟨⟩
    exact plain v found
  have lifted {result : Scalar.Result Value} (plain : Makes result fun v => v.isSingle = true) :
      Makes (ofScalar result) fun v => v.isSingle = true := by
    cases result with
    | ok v => exact makes_ok (plain v rfl)
    | error fault => exact nofun
  unfold shape
  split
  · exact makes_bind fun _ _ => valued (makes_ok rfl)
  · exact makes_bind fun text _ => valued (lifted (isSingle_bool text))
  · exact makes_bind fun text _ => valued (lifted (isSingle_int text))
  · exact makes_bind fun text _ => valued (lifted (isSingle_float text))
  · exact makes_bind fun text _ => valued (isSingle_binary text _)
  · refine makes_bind fun text _ => ?_
    split
    · exact valued (lifted (isSingle_timestamp text))
    · exact nofun
  · exact makes_bind fun text _ => valued (makes_ok rfl)
  · exact valued (makes_ok rfl)
  · exact makes_ok nofun
  · exact makes_ok nofun
  · exact makes_ok nofun
  · exact makes_ok nofun
  · exact makes_ok nofun
  · exact nofun

theorem isScalar_of_shape (n : Node) :
    Makes n.shape fun shape => ∀ v, shape = .value v → v.isScalar = true :=
  fun shape shaped v same => Value.isScalar_of_isSingle (isSingle_of_shape n shape shaped v same)

/-- What is built of a node whose shape is a value is the value. -/
theorem build_value {n : Node} {v : Value} (found : n.shape = .ok (.value v)) (levels : Nat) :
    Makes (build levels n) fun w => w = v := by
  cases levels with
  | zero => exact nofun
  | succ levels =>
      rw [build, found]
      exact makes_ok rfl

/-! ## Collections -/

/-- A part of a collection has a well-formed value, if any, and a scalar if it is a key. -/
def Part.Sound (levels : Nat) (part : Part) : Prop :=
  Makes (build levels part.node) fun v => v.WellFormed ∧ (part.isKey = true → v.isScalar = true)

/-- The collections of a level have well-formed values, if any. -/
def LevelWellFormed (levels : Nat) (level : List (Node × Shape)) : Prop :=
  ∀ c ∈ level, c.1.shape = .ok c.2 → Makes (build levels c.1) Value.WellFormed

theorem mem_pairParts {items : List Node} {found : List Part}
    (parted : pairParts items = (found, none)) :
    ∀ item ∈ items, Makes item.onlyEntry fun e =>
      ⟨e.1, false⟩ ∈ found ∧ ⟨e.2, false⟩ ∈ found := by
  induction items generalizing found with
  | nil => exact nofun
  | cons item items ih =>
      rw [pairParts] at parted
      cases opened : item.onlyEntry with
      | error e =>
          rw [opened] at parted
          cases parted
      | ok entry =>
          obtain ⟨key, value⟩ := entry
          rw [opened] at parted
          obtain ⟨rfl, ending⟩ := Prod.mk.inj parted
          refine List.forall_mem_cons.mpr ⟨?_, fun other member e made => ?_⟩
          · rw [opened]
            exact makes_ok ⟨by simp, by simp⟩
          · have behind := ih (Prod.ext rfl ending) other member e made
            exact ⟨List.mem_cons_of_mem _ (List.mem_cons_of_mem _ behind.1),
              List.mem_cons_of_mem _ (List.mem_cons_of_mem _ behind.2)⟩

variable {levels : Nat}

/-- The value of a collection whose parts are sound is well-formed. -/
theorem wellFormed_collection {n : Node} {shape : Shape} {found : List Part}
    (shaped : n.shape = .ok shape) (parted : parts shape n = (found, none))
    (sound : ∀ part ∈ found, part.Sound levels) :
    Makes (build (levels + 1) n) Value.WellFormed := by
  have entry {all : Entries} (flat : found = all.flatMap fun e => [⟨e.1, true⟩, ⟨e.2, false⟩])
      (e : Node × Node) (member : e ∈ all) :
      Makes (build levels e.1) (fun v => v.isScalar = true) ∧
        Makes (build levels e.2) Value.WellFormed := by
    have key : ⟨e.1, true⟩ ∈ found := flat ▸ List.mem_flatMap.mpr ⟨e, member, by simp⟩
    have value : ⟨e.2, false⟩ ∈ found := flat ▸ List.mem_flatMap.mpr ⟨e, member, by simp⟩
    exact ⟨fun v made => (sound _ key v made).2 rfl, fun v made => (sound _ value v made).1⟩
  rw [build, shaped]
  refine makes_bind ?_
  rintro _ ⟨⟩
  split
  · exact makes_ok (.scalar (isScalar_of_shape n _ shaped _ rfl))
  · obtain ⟨rfl, -⟩ := Prod.mk.inj parted
    refine makes_bind fun made done => makes_ok (.list (makes_mapM (fun item member => ?_) _ done))
    exact fun v built => (sound _ (List.mem_map_of_mem member) v built).1
  · refine makes_bind fun made done => makes_ok (.list (makes_mapM (fun item member => ?_) _ done))
    refine makes_bind fun e opened => ?_
    obtain ⟨key, value⟩ := mem_pairParts parted item member e opened
    refine makes_bind fun v first => makes_bind fun w second => makes_ok (.tuple ?_)
    exact List.forall_mem_cons.mpr ⟨(sound _ key v first).1,
      List.forall_mem_singleton.mpr (sound _ value w second).1⟩
  · refine makes_bind fun all merged => makes_bind fun keys done => makes_ok ?_
    simp only [parts, merged] at parted
    obtain ⟨flat, -⟩ := Prod.mk.inj parted
    refine Value.wellFormed_insertAll (makes_mapM (fun e member => ?_) _ done)
    exact (entry flat.symm e member).1
  · refine makes_bind fun all merged => makes_bind fun values done => makes_ok ?_
    simp only [parts, merged] at parted
    obtain ⟨flat, -⟩ := Prod.mk.inj parted
    have both : ∀ e ∈ values, e.1.isScalar = true ∧ e.2.WellFormed := by
      refine makes_mapM (fun e member => ?_) _ done
      obtain ⟨key, value⟩ := entry flat.symm e member
      exact makes_bind fun v first => makes_bind fun w second =>
        makes_ok ⟨key v first, value w second⟩
    exact Value.wellFormed_putAll (fun e member => (both e member).1) fun e member =>
      (both e member).2
  · exact nofun

/-! ## Levels -/

/-- Parts that have been visited are sound if the collections among them have well-formed values. -/
theorem sound_of_visitParts (found : List Part) :
    Makes (visitParts found) fun collections =>
      LevelWellFormed levels collections → ∀ part ∈ found, part.Sound levels := by
  induction found with
  | nil => exact makes_ok fun _ => nofun
  | cons part rest ih =>
      rw [visitParts]
      refine makes_bind fun shape shaped => ?_
      by_cases refused : (part.isKey && !shape.isHashable) = true
      · simp only [refused, ↓reduceIte]
        exact nofun
      · have key : part.isKey = true → shape.isHashable = true := by simpa using refused
        simp only [refused]
        refine makes_bind fun collections visited => ?_
        cases shape with
        | value v =>
            refine makes_ok fun below => List.forall_mem_cons.mpr ⟨?_, ih _ visited below⟩
            have plain := isScalar_of_shape part.node _ shaped v rfl
            intro w built
            obtain rfl := build_value shaped levels w built
            exact ⟨.scalar plain, fun _ => plain⟩
        | _ =>
            refine makes_ok fun below => ?_
            obtain ⟨here, others⟩ := List.forall_mem_cons.mp below
            refine List.forall_mem_cons.mpr ⟨fun v built => ?_, ih _ visited others⟩
            exact ⟨here shaped v built, fun isKey => nomatch key isKey⟩

/-- A level that has been visited has well-formed values if the next level has. -/
theorem wellFormed_of_visitLevel (level : List (Node × Shape)) :
    Makes (visitLevel level) fun next =>
      LevelWellFormed levels next → LevelWellFormed (levels + 1) level := by
  induction level with
  | nil => exact makes_ok fun _ => nofun
  | cons c rest ih =>
      obtain ⟨n, shape⟩ := c
      rw [visitLevel]
      cases parted : parts shape n with
      | mk found failure =>
        refine makes_bind fun collections visited => ?_
        cases failure with
        | some e => exact nofun
        | none =>
            refine makes_bind fun more others => makes_ok fun below => ?_
            obtain ⟨here, later⟩ := List.forall_mem_append.mp below
            refine List.forall_mem_cons.mpr ⟨fun shaped => ?_, ih more others later⟩
            exact wellFormed_collection shaped parted
              (sound_of_visitParts found collections visited here)

theorem wellFormed_of_visitLevels (levels : Nat) (level : List (Node × Shape)) :
    Makes (visitLevels levels level) fun _ => LevelWellFormed levels level := by
  induction levels generalizing level with
  | zero => exact makes_ok fun c _ _ => nofun
  | succ levels ih =>
      cases level with
      | nil => exact makes_ok nofun
      | cons c rest =>
          rw [visitLevels]
          · exact makes_bind fun next visited done ended =>
              wellFormed_of_visitLevel _ next visited (ih next done ended)
          · exact nofun

theorem wellFormed_toValue (root : Node) : Makes root.toValue Value.WellFormed := by
  rw [toValue]
  refine makes_bind fun collections visited => makes_bind fun done ended => ?_
  have below := wellFormed_of_visitLevels root.height collections done ended
  have sound := sound_of_visitParts _ collections visited below _ List.mem_cons_self
  exact fun v built => (sound v built).1

end Node

/-- **Loaded values.** The value of a text is well-formed: none of its mappings has a key twice, and
only scalars are keys or stand in sets. -/
theorem wellFormed_of_load (text : String) : Makes (load text) Value.WellFormed := by
  rw [load]
  refine makes_bind fun root composed => ?_
  cases root with
  | none => exact makes_ok (.scalar rfl)
  | some root => exact Node.wellFormed_toValue root

end Yaml

/-! ## What stands in mappings -/

/-- A value as texts give it: single, a list, a set, or a mapping of such values. -/
inductive Value.Spoken : Value → Prop where
  | single {v : Value} (single : v.isSingle = true) : Spoken v
  | list {items : List Value} : Spoken (.list items)
  | set {items : List Value} : Spoken (.set items)
  | map {entries : List (Value × Value)} (held : ∀ e ∈ entries, Spoken e.2) :
    Spoken (.map entries)

namespace Yaml

theorem Node.spoken_build (levels : Nat) (n : Node) : Makes (build levels n) Value.Spoken := by
  induction levels generalizing n with
  | zero => exact nofun
  | succ levels ih =>
      rw [build]
      refine makes_bind fun shape shaped => ?_
      split
      · exact makes_ok (.single (isSingle_of_shape n _ shaped _ rfl))
      · exact makes_bind fun items _ => makes_ok .list
      · exact makes_bind fun pairs _ => makes_ok .list
      · exact makes_bind fun all _ => makes_bind fun keys _ => makes_ok .set
      · refine makes_bind fun all _ => makes_bind fun values done => makes_ok (.map ?_)
        have each : ∀ f ∈ values, f.2.Spoken := by
          refine makes_mapM (fun e _ => ?_) _ done
          exact makes_bind fun key _ => makes_bind fun value built => makes_ok (ih e.2 value built)
        intro e member
        obtain ⟨f, inside, same⟩ | nothing := Value.value_of_mem_putAll member
        · rw [same]
          exact each f inside
        · cases nothing
      · exact nofun

/-- **What stands in mappings.** The value of a text is single, a list, a set, or a mapping of such
values: tuples stand in lists alone, and there is no time of day. -/
theorem spoken_of_load (text : String) : Makes (load text) Value.Spoken := by
  rw [load]
  refine makes_bind fun root composed => ?_
  cases root with
  | none => exact makes_ok (.single rfl)
  | some root =>
      dsimp only
      rw [Node.toValue]
      exact makes_bind fun collections _ => makes_bind fun done _ =>
        Node.spoken_build root.height root

end Yaml

end Wireframe
