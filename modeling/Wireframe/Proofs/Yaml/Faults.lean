import Wireframe.Proofs.Yaml.Composition
import Wireframe.Yaml.Load

/-! # Scalars at fault

A scalar is at fault if its text is no value of the type that its tag promises: a truth
value that is no word for one, a number without digits, a day that is not in the calendar.
Turning a node into a value can fail for many reasons, but it fails for the fault of a
scalar only if some node within it is at fault (`Wireframe.Yaml.Node.atFault_of_toValue`).
In particular the number of levels that building is allowed is always enough. Together with
what stops the nodes of a text from being put together, this tells when a text has no value
for another reason than a broken rule (`Wireframe.Yaml.flawed_of_load`).
-/

namespace Wireframe.Yaml

namespace Node

/-! ## Nodes at fault -/

/-- A node is another node or a part of it, at any depth. -/
inductive Within (n : Node) : Node → Prop where
  | self : Within n n
  | item {tag : Tag} {items : List Node} {mark : Mark} {item : Node} (member : item ∈ items)
    (inside : Within n item) : Within n (.sequence tag items mark)
  | key {tag : Tag} {entries : Entries} {mark : Mark} {entry : Node × Node}
    (member : entry ∈ entries) (inside : Within n entry.1) : Within n (.mapping tag entries mark)
  | value {tag : Tag} {entries : Entries} {mark : Mark} {entry : Node × Node}
    (member : entry ∈ entries) (inside : Within n entry.2) : Within n (.mapping tag entries mark)

/-- The text of a node is no value of the type that its tag promises. -/
def AtFault (n : Node) (fault : ScalarFault) : Prop :=
  ∃ text, n.scalarText = .ok text ∧
    match n.tag with
    | .bool => Scalar.bool text = .error fault
    | .int => Scalar.int text = .error fault
    | .float => Scalar.float text = .error fault
    | .timestamp =>
      if n.kind = .scalar then Scalar.timestamp text = .error fault
      else fault = .notTimestampText
    | _ => False

/-- No part of a node has a certain fault. -/
def Sound (fault : ScalarFault) (root : Node) : Prop :=
  ∀ n : Node, n.Within root → ¬ n.AtFault fault

/-- A key that stands for itself is a text, and no text is at fault. -/
theorem sound_asKey {fault : ScalarFault} {n : Node} (sound : Sound fault n) :
    Sound fault n.asKey := by
  unfold asKey
  split
  · rintro m ⟨⟩ ⟨text, _, absurd⟩
    exact absurd
  · exact sound

theorem height_asKey (n : Node) : n.asKey.height = n.height := by
  unfold asKey
  split <;> rfl

theorem height_le_itemsHeight {items : List Node} {item : Node} (member : item ∈ items) :
    item.height ≤ itemsHeight items := by
  induction items with
  | nil => cases member
  | cons first rest ih =>
      rw [itemsHeight]
      rcases List.mem_cons.mp member with rfl | later
      · exact Nat.le_max_left _ _
      · exact Nat.le_trans (ih later) (Nat.le_max_right _ _)

theorem height_le_entriesHeight {entries : Entries} {e : Node × Node} (member : e ∈ entries) :
    e.1.height ≤ entriesHeight entries ∧ e.2.height ≤ entriesHeight entries := by
  induction entries with
  | nil => cases member
  | cons first rest ih =>
      obtain ⟨key, value⟩ := first
      rw [entriesHeight]
      rcases List.mem_cons.mp member with rfl | later
      · dsimp only
        omega
      · have := ih later
        omega

/-! ## What a computation gives -/

/-- A result has a property, or it fails for something else than a certain fault of a scalar. -/
def Gives {α : Type} (fault : ScalarFault) (result : Except Error α) (holds : α → Prop) : Prop :=
  match result with
  | .ok a => holds a
  | .error e => e ≠ .scalar fault

section

variable {α β : Type} {fault : ScalarFault} {holds : α → Prop} {follows : β → Prop}

theorem gives_broken (problem : Problem) (mark : Mark) :
    Gives fault (.error (.broken problem mark)) holds := nofun

theorem gives_bind {result : Except Error α} {next : α → Except Error β}
    (first : Gives fault result holds) (second : ∀ a, holds a → Gives fault (next a) follows) :
    Gives fault (result >>= next) follows := by
  cases result with
  | error e => exact first
  | ok a => exact second a first

theorem gives_mapM {f : α → Except Error β} {items : List α}
    (each : ∀ item ∈ items, Gives fault (f item) follows) :
    Gives fault (items.mapM f) fun made => ∀ b ∈ made, follows b := by
  induction items with
  | nil => exact fun b member => by cases member
  | cons item items ih =>
      rw [List.mapM_cons]
      refine gives_bind (each item List.mem_cons_self) fun first here => ?_
      refine gives_bind (ih fun other member => each other (List.mem_cons_of_mem item member))
        fun others all => ?_
      exact List.forall_mem_cons.mpr ⟨here, all⟩

/-- What is known of a result may be weakened, and a result is what it is. -/
theorem gives_of_gives {result : Except Error α} {other : α → Prop}
    (gives : Gives fault result holds) (weaker : ∀ a, result = .ok a → holds a → other a) :
    Gives fault result other := by
  cases result with
  | error e => exact gives
  | ok a => exact weaker a rfl gives

/-- Steps that fail for something else than the fault, one after the other, do so together. -/
theorem gives_each {f : α → Except Error β} {items : List α}
    (each : ∀ item ∈ items, Gives fault (f item) fun _ => True) :
    Gives fault (items.mapM f) fun _ => True :=
  gives_of_gives (gives_mapM each) fun _ _ _ => trivial

theorem gives_discard {result : Except Error α} (gives : Gives fault result holds) :
    Gives fault (discard result) fun _ => True := by
  cases result with
  | error e => exact gives
  | ok a => trivial

end

variable {fault : ScalarFault}

/-! ## The text of a node -/

mutual

theorem gives_scalarText (n : Node) : Gives fault n.scalarText fun _ => True := by
  match n with
  | .scalar _ text _ => trivial
  | .sequence _ _ mark => exact gives_broken _ mark
  | .mapping _ entries mark =>
      rw [scalarText]
      exact gives_entryText mark entries

theorem gives_entryText (mark : Mark) (entries : Entries) :
    Gives fault (scalarText.entryText mark entries) fun _ => True := by
  match entries with
  | [] => exact gives_broken _ mark
  | (key, value) :: rest =>
      rw [scalarText.entryText]
      split
      · exact gives_scalarText value
      · exact gives_entryText mark rest

end

/-! ## Merging -/

/-- A property of nodes that passes on to their parts and to keys that stand for themselves. -/
structure Hereditary (holds : Node → Prop) : Prop where
  item : ∀ {tag items mark}, holds (.sequence tag items mark) → ∀ item ∈ items, holds item
  entry : ∀ {tag entries mark}, holds (.mapping tag entries mark) →
    ∀ e ∈ entries, holds e.1 ∧ holds e.2
  asKey : ∀ {n : Node}, holds n → holds n.asKey

theorem hereditary_sound : Hereditary (Sound fault) where
  item sound _ member := fun n inside => sound n (.item member inside)
  entry sound _ member :=
    ⟨fun n inside => sound n (.key member inside), fun n inside => sound n (.value member inside)⟩
  asKey := sound_asKey

theorem hereditary_height (levels : Nat) : Hereditary fun n => n.height ≤ levels where
  item low _ member := by
    rw [height] at low
    have := height_le_itemsHeight member
    omega
  entry low _ member := by
    rw [height] at low
    have := height_le_entriesHeight member
    omega
  asKey low := by rwa [height_asKey]

theorem Hereditary.and {holds also : Node → Prop} (first : Hereditary holds)
    (second : Hereditary also) : Hereditary fun n => holds n ∧ also n where
  item both item member := ⟨first.item both.1 item member, second.item both.2 item member⟩
  entry both e member :=
    have here := first.entry both.1 e member
    have there := second.entry both.2 e member
    ⟨⟨here.1, there.1⟩, ⟨here.2, there.2⟩⟩
  asKey both := ⟨first.asKey both.1, second.asKey both.2⟩

/-- A property holds of all keys and values of some entries. -/
def AllHold (holds : Node → Prop) (entries : Entries) : Prop :=
  ∀ e ∈ entries, holds e.1 ∧ holds e.2

theorem allHold_append {holds : Node → Prop} {left right : Entries} (first : AllHold holds left)
    (second : AllHold holds right) : AllHold holds (left ++ right) := by
  intro e member
  rcases List.mem_append.mp member with inLeft | inRight
  · exact first e inLeft
  · exact second e inRight

section

variable {holds : Node → Prop} (hereditary : Hereditary holds)

include hereditary

mutual

/-- Merging gives keys and values of the mapping and of the mappings that it names. -/
theorem gives_mergedEntries (entries : Entries) (all : AllHold holds entries) :
    Gives fault (mergedEntries entries) fun merged =>
      AllHold holds merged.1 ∧ AllHold holds merged.2 := by
  match entries with
  | [] =>
      rw [mergedEntries]
      exact ⟨nofun, nofun⟩
  | (key, value) :: rest =>
      obtain ⟨here, others⟩ := List.forall_mem_cons.mp all
      rw [mergedEntries]
      split
      · refine gives_bind (gives_mergeSource value here.2) fun merged named => ?_
        refine gives_bind (gives_mergedEntries rest others) fun found both => ?_
        exact ⟨allHold_append named both.1, both.2⟩
      · refine gives_bind (gives_mergedEntries rest others) fun found both => ?_
        exact ⟨both.1, List.forall_mem_cons.mpr ⟨⟨hereditary.asKey here.1, here.2⟩, both.2⟩⟩

theorem gives_mergeSource (n : Node) (here : holds n) :
    Gives fault (mergeSource n) (AllHold holds) := by
  match n with
  | .mapping _ entries _ =>
      rw [mergeSource]
      refine gives_bind (gives_mergedEntries entries (hereditary.entry here)) fun found both => ?_
      exact allHold_append both.1 both.2
  | .sequence _ items _ =>
      rw [mergeSource]
      refine gives_bind (gives_mergeItems items (hereditary.item here)) fun merged each => ?_
      intro e member
      obtain ⟨entries, inside, found⟩ := List.mem_flatten.mp member
      exact each entries (List.mem_reverse.mp inside) e found
  | .scalar _ _ mark =>
      rw [mergeSource]
      exact gives_broken _ mark

theorem gives_mergeItems (items : List Node) (all : ∀ item ∈ items, holds item) :
    Gives fault (mergeItems items) fun merged => ∀ entries ∈ merged, AllHold holds entries := by
  match items with
  | [] =>
      rw [mergeItems]
      exact nofun
  | .mapping _ entries _ :: rest =>
      obtain ⟨here, others⟩ := List.forall_mem_cons.mp all
      rw [mergeItems]
      refine gives_bind (gives_mergedEntries entries (hereditary.entry here)) fun found both => ?_
      refine gives_bind (gives_mergeItems rest others) fun merged each => ?_
      exact List.forall_mem_cons.mpr ⟨allHold_append both.1 both.2, each⟩
  | .sequence _ _ mark :: _ =>
      rw [mergeItems]
      exact gives_broken _ mark
  | .scalar _ _ mark :: _ =>
      rw [mergeItems]
      exact gives_broken _ mark

end

theorem gives_allEntries (entries : Entries) (all : AllHold holds entries) :
    Gives fault (allEntries entries) (AllHold holds) :=
  gives_bind (gives_mergedEntries hereditary entries all) fun _ both =>
    allHold_append both.1 both.2

theorem gives_onlyEntry (n : Node) (here : holds n) :
    Gives fault n.onlyEntry fun e => holds e.1 ∧ holds e.2 := by
  unfold onlyEntry
  split
  · exact hereditary.entry here _ List.mem_cons_self
  · exact gives_broken _ _
  · exact gives_broken _ _

end

/-! ## Shapes -/

theorem gives_ofScalar {result : Scalar.Result Value} (valued : result ≠ .error fault) :
    Gives fault (ofScalar result) fun _ => True := by
  cases result with
  | ok v => trivial
  | error other =>
      rintro ⟨⟩
      exact valued rfl

theorem gives_binary (text : String) (mark : Mark) :
    Gives fault (Scalar.binary text mark) fun _ => True := by
  unfold Scalar.binary
  dsimp only
  split
  · exact gives_broken _ mark
  · split
    · trivial
    · exact gives_broken _ mark

/-- The value of a scalar is read from its text, and fails for the fault that the reading finds. -/
theorem gives_read {n : Node} {read : String → Scalar.Result Value}
    (valued : ∀ text, n.scalarText = .ok text → read text ≠ .error fault) :
    Gives fault (do return Shape.value (← ofScalar (read (← n.scalarText)))) fun _ => True := by
  have text : Gives fault n.scalarText fun text => n.scalarText = .ok text :=
    gives_of_gives (gives_scalarText n) fun text found _ => found
  refine gives_bind text fun s found => ?_
  exact gives_bind (gives_ofScalar (valued s found)) fun _ _ => trivial

/-- The shape of a node is found unless the node itself is at fault. -/
theorem gives_shape {n : Node} (sound : ¬ n.AtFault fault) :
    Gives fault n.shape fun _ => True := by
  unfold shape
  split <;> rename_i tag
  · exact gives_bind (gives_discard (gives_scalarText n)) fun _ _ => trivial
  · exact gives_read fun s found failed => sound ⟨s, found, by simpa only [tag] using failed⟩
  · exact gives_read fun s found failed => sound ⟨s, found, by simpa only [tag] using failed⟩
  · exact gives_read fun s found failed => sound ⟨s, found, by simpa only [tag] using failed⟩
  · refine gives_bind (gives_scalarText n) fun s _ => ?_
    exact gives_bind (gives_binary s n.mark) fun _ _ => trivial
  · have text : Gives fault n.scalarText fun text => n.scalarText = .ok text :=
      gives_of_gives (gives_scalarText n) fun text found _ => found
    refine gives_bind text fun s found => ?_
    cases n with
    | scalar tag' text mark =>
        refine gives_bind (gives_ofScalar fun failed => sound ⟨s, found, ?_⟩) fun _ _ => trivial
        simpa only [tag, kind, ↓reduceIte] using failed
    | sequence tag' items mark => cases found
    | mapping tag' entries mark =>
        rintro ⟨⟩
        exact sound ⟨s, found, by simp only [tag, kind, reduceCtorEq, ↓reduceIte]⟩
  · exact gives_bind (gives_scalarText n) fun _ _ => trivial
  · trivial
  · trivial
  · trivial
  · trivial
  · trivial
  · trivial
  · exact gives_broken _ _

/-! ## Levels -/

/-- All nodes of a level have no part at fault. -/
def LevelSound (fault : ScalarFault) (level : List (Node × Shape)) : Prop :=
  ∀ c ∈ level, Sound fault c.1

theorem levelSound_append {left right : List (Node × Shape)} (first : LevelSound fault left)
    (second : LevelSound fault right) : LevelSound fault (left ++ right) := by
  intro c member
  rcases List.mem_append.mp member with inLeft | inRight
  · exact first c inLeft
  · exact second c inRight

theorem gives_visitParts {parts : List Part} (sound : ∀ part ∈ parts, Sound fault part.node) :
    Gives fault (visitParts parts) (LevelSound fault) := by
  induction parts with
  | nil =>
      rw [visitParts]
      exact nofun
  | cons part rest ih =>
      obtain ⟨here, others⟩ := List.forall_mem_cons.mp sound
      rw [visitParts]
      refine gives_bind (gives_shape (here part.node .self)) fun shape _ => ?_
      by_cases refused : (part.isKey && !shape.isHashable) = true
      · simp only [refused, ↓reduceIte]
        exact gives_broken _ _
      · simp only [refused]
        refine gives_bind (ih others) fun collections all => ?_
        cases shape with
        | value v => exact all
        | _ => exact List.forall_mem_cons.mpr ⟨here, all⟩

/-- The parts of a collection have no part at fault, and what ends them early is no fault of a
scalar. -/
def PartsSound (fault : ScalarFault) (found : List Part × Option Error) : Prop :=
  (∀ part ∈ found.1, Sound fault part.node) ∧ ∀ e, found.2 = some e → e ≠ .scalar fault

theorem partsSound_broken (problem : Problem) (mark : Mark) :
    PartsSound fault ([], some (.broken problem mark)) := by
  refine ⟨nofun, ?_⟩
  rintro e ⟨⟩ ⟨⟩

theorem sound_pairParts {items : List Node} (sound : ∀ item ∈ items, Sound fault item) :
    PartsSound fault (pairParts items) := by
  induction items with
  | nil => exact ⟨nofun, nofun⟩
  | cons item rest ih =>
      obtain ⟨here, others⟩ := List.forall_mem_cons.mp sound
      have entry : Gives fault item.onlyEntry fun e => Sound fault e.1 ∧ Sound fault e.2 :=
        gives_onlyEntry hereditary_sound item here
      rw [pairParts]
      cases opened : item.onlyEntry with
      | error e =>
          rw [opened] at entry
          refine ⟨nofun, ?_⟩
          rintro _ ⟨⟩
          exact entry
      | ok pair =>
          rw [opened] at entry
          obtain ⟨each, ending⟩ := ih others
          refine ⟨?_, ending⟩
          exact List.forall_mem_cons.mpr ⟨entry.1, List.forall_mem_cons.mpr ⟨entry.2, each⟩⟩

theorem sound_entryParts {entries : Entries} (all : AllHold (Sound fault) entries) :
    PartsSound fault (match allEntries entries with
      | .error e => ([], some e)
      | .ok all => (all.flatMap fun entry => [⟨entry.1, true⟩, ⟨entry.2, false⟩], none)) := by
  have merged : Gives fault (allEntries entries) (AllHold (Sound fault)) :=
    gives_allEntries hereditary_sound entries all
  cases found : allEntries entries with
  | error e =>
      rw [found] at merged
      refine ⟨nofun, ?_⟩
      rintro _ ⟨⟩
      exact merged
  | ok all =>
      rw [found] at merged
      refine ⟨fun part member => ?_, nofun⟩
      obtain ⟨entry, inside, among⟩ := List.mem_flatMap.mp member
      obtain ⟨key, value⟩ := merged entry inside
      rcases List.mem_cons.mp among with rfl | last
      · exact key
      · obtain rfl := List.mem_singleton.mp last
        exact value

theorem sound_parts {n : Node} (sound : Sound fault n) (shape : Shape) :
    PartsSound fault (parts shape n) := by
  unfold parts
  split
  · exact ⟨nofun, nofun⟩
  · refine ⟨fun part member => ?_, nofun⟩
    obtain ⟨item, inside, rfl⟩ := List.mem_map.mp member
    exact hereditary_sound.item sound item inside
  · exact partsSound_broken _ _
  · exact sound_pairParts (hereditary_sound.item sound)
  · exact partsSound_broken _ _
  · exact sound_entryParts (hereditary_sound.entry sound)
  · exact sound_entryParts (hereditary_sound.entry sound)
  · exact partsSound_broken _ _
  · exact partsSound_broken _ _

theorem gives_visitLevel {level : List (Node × Shape)} (sound : LevelSound fault level) :
    Gives fault (visitLevel level) (LevelSound fault) := by
  induction level with
  | nil =>
      rw [visitLevel]
      exact nofun
  | cons c rest ih =>
      obtain ⟨n, shape⟩ := c
      obtain ⟨here, others⟩ := List.forall_mem_cons.mp sound
      obtain ⟨each, ending⟩ := sound_parts here shape
      rw [visitLevel]
      generalize parts shape n = found at each ending
      obtain ⟨parts, failure⟩ := found
      refine gives_bind (gives_visitParts each) fun collections all => ?_
      cases failure with
      | some e => exact ending e rfl
      | none =>
          refine gives_bind (ih others) fun more below => ?_
          exact levelSound_append all below

theorem gives_visitLevels (levels : Nat) {level : List (Node × Shape)}
    (sound : LevelSound fault level) : Gives fault (visitLevels levels level) fun _ => True := by
  induction levels generalizing level with
  | zero => trivial
  | succ levels ih =>
      cases level with
      | nil => trivial
      | cons c rest =>
          rw [visitLevels]
          · exact gives_bind (gives_visitLevel sound) fun next below => ih below
          · exact nofun

/-! ## Building -/

/-- No part at fault, and at most so many levels. -/
def Fits (fault : ScalarFault) (levels : Nat) (n : Node) : Prop :=
  Sound fault n ∧ n.height ≤ levels

theorem Fits.item {levels : Nat} {tag : Tag} {items : List Node} {mark : Mark}
    (fits : Fits fault (levels + 1) (.sequence tag items mark)) :
    ∀ item ∈ items, Fits fault levels item := by
  obtain ⟨sound, low⟩ := fits
  intro item member
  rw [height] at low
  have := height_le_itemsHeight member
  exact ⟨hereditary_sound.item sound item member, by omega⟩

theorem Fits.entry {levels : Nat} {tag : Tag} {entries : Entries} {mark : Mark}
    (fits : Fits fault (levels + 1) (.mapping tag entries mark)) :
    AllHold (Fits fault levels) entries := by
  obtain ⟨sound, low⟩ := fits
  intro e member
  rw [height] at low
  have := height_le_entriesHeight member
  obtain ⟨key, value⟩ := hereditary_sound.entry sound e member
  exact ⟨⟨key, by omega⟩, ⟨value, by omega⟩⟩

/-- Building a node that has no part at fault, with at least as many levels as it has, does not fail
for the fault of a scalar. -/
theorem gives_build {levels : Nat} {n : Node} (fits : Fits fault levels n) :
    Gives fault (build levels n) fun _ => True := by
  induction levels generalizing n with
  | zero =>
      have low := fits.2
      cases n <;> simp [height] at low
  | succ levels ih =>
      have hereditary : Hereditary (Fits fault levels) :=
        hereditary_sound.and (hereditary_height levels)
      rw [build]
      refine gives_bind (gives_shape (fits.1 n .self)) fun shape _ => ?_
      split
      · trivial
      · exact gives_bind (gives_each fun item member => ih (fits.item item member))
          fun _ _ => trivial
      · refine gives_bind (gives_each fun item member => ?_) fun _ _ => trivial
        refine gives_bind (gives_onlyEntry hereditary item (fits.item item member)) fun e both => ?_
        exact gives_bind (ih both.1) fun _ _ => gives_bind (ih both.2) fun _ _ => trivial
      · refine gives_bind (gives_allEntries hereditary _ fits.entry) fun all each => ?_
        exact gives_bind (gives_each fun e member => ih (each e member).1) fun _ _ => trivial
      · refine gives_bind (gives_allEntries hereditary _ fits.entry) fun all each => ?_
        refine gives_bind (gives_each fun e member => ?_) fun _ _ => trivial
        exact gives_bind (ih (each e member).1) fun _ _ =>
          gives_bind (ih (each e member).2) fun _ _ => trivial
      · exact gives_broken _ _

/-- **A scalar at fault.** A node has no value because of the fault of a scalar only if some part of
it is at fault. -/
theorem atFault_of_toValue {root : Node} (failed : root.toValue = .error (.scalar fault)) :
    ∃ n : Node, n.Within root ∧ n.AtFault fault := by
  refine Classical.byContradiction fun missing => ?_
  have sound : Sound fault root := fun n inside held => missing ⟨n, inside, held⟩
  have gives : Gives fault root.toValue fun _ => True := by
    rw [toValue]
    refine gives_bind (gives_visitParts (List.forall_mem_cons.mpr ⟨sound, nofun⟩))
      fun collections all => ?_
    refine gives_bind (gives_visitLevels root.height all) fun _ _ => ?_
    exact gives_build ⟨sound, Nat.le_refl _⟩
  rw [failed] at gives
  exact gives rfl

end Node

/-! ## Texts -/

/-- A text has a fault that is no broken rule of the language: an escape in it is for a number that
is no code point, an alias in it has the name of an anchor, so that a node may contain itself, or
the text of some node is no value of the type that its tag promises. -/
inductive Flawed (text : String) (fault : ScalarFault) : Prop where
  | escape (overflows : Overflows text.toList fault)
  | loop (endless : fault = .endless) (loops : Node.Loops (tokens text.toList).1)
  | scalar {root n : Node} (composed : Node.ofText text.toList = .ok (some root))
    (inside : n.Within root) (atFault : n.AtFault fault)

/-- A text has no value because of the fault of a scalar only if it has that fault. -/
theorem flawed_of_load {text : String} {fault : ScalarFault}
    (failed : load text = .error (.scalar fault)) : Flawed text fault := by
  rw [load] at failed
  cases composed : Node.ofText text.toList with
  | error e =>
      rw [composed] at failed
      cases failed
      obtain overflows | ⟨endless, loops⟩ := Node.flaw_of_ofText composed
      · exact .escape overflows
      · exact .loop endless loops
  | ok root =>
      rw [composed] at failed
      cases root with
      | none => cases failed
      | some root =>
          obtain ⟨n, inside, atFault⟩ := Node.atFault_of_toValue failed
          exact .scalar composed inside atFault

end Wireframe.Yaml
