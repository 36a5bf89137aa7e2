import Mathlib.Tactic.SplitIfs
import Wireframe.Proofs.Export.JsxTags
import Wireframe.Proofs.Export.PugReading
import Wireframe.Proofs.Text.Words

/-! # What Pug writes for an element

The line that is written for an element is read back with the tag and the attributes of the
element (`Wireframe.Export.Pug.content?_head`). Classes and ids come first there, which
changes neither the classes of the element nor its other attributes (`allClasses_written`,
`arranged_written`). An id whose characters the shorthand can hold is written as it is, with
the line feed at its end that the test for such ids passes over.
-/

namespace Wireframe.Export.Pug

open Markup (IsName)

/-! ## Names -/

/-- A text that is read as a name. -/
def Holds (s : List Char) : Prop := s ≠ [] ∧ ∀ c ∈ s, continuesName c = true

theorem continuesName_nameChar : ∀ c ∈ Markup.nameChars, continuesName c = true :=
  List.all_iff_forall_prop.mp (by decide)

theorem holds_of_isName {name : String} (valid : IsName name) : Holds name.toList := by
  have inside := valid.mem
  obtain ⟨first, rest, spelled, _⟩ := valid
  exact ⟨by simp [spelled], fun c member => continuesName_nameChar c (inside c member)⟩

theorem name_run {s : List Char} (inside : ∀ c ∈ s, continuesName c = true) (rest : List Char)
    (outside : ∀ c ∈ rest.head?, continuesName c = false) :
    (s ++ rest).takeWhile continuesName = s ∧ (s ++ rest).dropWhile continuesName = rest := by
  refine ⟨Markup.takeWhile_run inside outside, ?_⟩
  rw [List.dropWhile_append_of_pos inside]
  cases rest with
  | nil => rfl
  | cons c rest => exact List.dropWhile_cons_of_neg (by simp [outside c rfl])

theorem withoutFinalBreak_of_oneLine {s : List Char} (whole : Text.oneLine s = true) :
    Jsx.withoutFinalBreak s = s := by
  unfold Jsx.withoutFinalBreak
  split_ifs with feed
  · have last : '\n' ∈ s := List.mem_of_getLast? (by simpa using feed)
    cases Text.oneLine_iff.mp whole '\n' last
  · rfl

theorem holds_of_opensName {c : Char} {rest : List Char}
    (name : (opensName c && rest.all continuesName) = true) : Holds (c :: rest) := by
  simp only [Bool.and_eq_true, List.all_eq_true] at name
  refine ⟨by simp, ?_⟩
  rw [List.forall_mem_cons]
  exact ⟨by simp [continuesName, name.1], name.2⟩

/-- A name that the shorthand can hold is read as a name, apart from a line feed at its end. -/
theorem holds_withoutFinalBreak {s : List Char} (short : isShorthandName s = true) :
    Holds (Jsx.withoutFinalBreak s) := by
  have hyphen : continuesName '-' = true := by decide
  unfold isShorthandName at short
  split at short
  · rename_i name same
    rw [same]
    cases name with
    | nil => cases short
    | cons c rest =>
        obtain ⟨_, inside⟩ := holds_of_opensName short
        exact ⟨by simp, List.forall_mem_cons.mpr ⟨hyphen, inside⟩⟩
  · rename_i name _
    revert short
    cases Jsx.withoutFinalBreak s with
    | nil =>
        intro short
        cases short
    | cons c rest =>
        intro short
        exact holds_of_opensName short

theorem holds_of_isShorthandName {s : List Char} (short : isShorthandName s = true)
    (whole : Text.oneLine s = true) : Holds s := by
  rw [← withoutFinalBreak_of_oneLine whole]
  exact holds_withoutFinalBreak short

theorem Holds.oneLine {s : List Char} (holds : Holds s) : Text.oneLine s = true := by
  rw [Text.oneLine_iff]
  intro c member
  have named := holds.2 c member
  cases ends : Text.endsLine c with
  | false => rfl
  | true =>
      simp only [Text.endsLine, Bool.or_eq_true, beq_iff_eq] at ends
      rcases ends with rfl | rfl
      · revert named
        decide
      · revert named
        decide

/-! ## The shorthand -/

/-- The attributes that the shorthand of an attribute is read as. -/
def short (a : Attribute) : List Attribute :=
  match a.2 with
  | none => []
  | some v =>
    let classes := Text.words v.toList
    if a.1 == "class" && v != "" && classes.all isShorthandName then
      classes.map fun c => (a.1, some (String.ofList c))
    else if a.1 == "id" && v != "" && isShorthandName v.toList then [a]
    else []

/-- Whether an attribute stands in parentheses. -/
def inParentheses (a : Attribute) : Bool := (placed a).isRight

/-- The attributes of an element in the order in which they are written. -/
def written (attributes : List Attribute) : List Attribute :=
  attributes.flatMap short ++ attributes.filter inParentheses

/-- Whether an attribute does not break the line of its element: no line ends in an id that is
written behind the tag. -/
def KeepsLine (a : Attribute) : Prop :=
  a.1 = "id" → ∀ v ∈ a.2, isShorthandName v.toList = true → Text.oneLine v.toList = true

/-- A class or an id as the shorthand writes it. -/
def mark (a : Attribute) : List Char :=
  (if a.1 == "class" then '.' else '#') :: (a.2.getD "").toList

/-- A class or an id that the shorthand is read as. -/
def IsMark (a : Attribute) : Prop :=
  (a.1 = "class" ∨ a.1 = "id") ∧ ∃ v, a.2 = some v ∧ Holds v.toList

/-- An attribute as parentheses hold it. -/
def spelling (a : Attribute) : String :=
  match a.2 with
  | none => a.1
  | some v => a.1 ++ "=" ++ Text.quoted v

theorem placed_short (a : Attribute) :
    (∃ t, placed a = .inl t ∧ t.toList = (short a).flatMap mark) ∨
      placed a = .inr (spelling a) ∧ short a = [] := by
  obtain ⟨name, value⟩ := a
  cases value with
  | none => exact .inr ⟨rfl, rfl⟩
  | some v =>
      simp only [placed, short, spelling]
      split_ifs with classes ids
      · left
        simp only [Bool.and_eq_true, beq_iff_eq] at classes
        refine ⟨_, rfl, ?_⟩
        simp [mark, classes.1.1, List.flatMap_map]
      · left
        simp only [Bool.and_eq_true, beq_iff_eq] at ids
        refine ⟨_, rfl, ?_⟩
        simp [mark, ids.1.1]
      · exact .inr ⟨rfl, rfl⟩

/-- What is written behind a tag is read as marks if no id breaks its line. -/
theorem isMark_of_mem_short {a : Attribute} (kept : KeepsLine a) : ∀ m ∈ short a, IsMark m := by
  obtain ⟨name, value⟩ := a
  intro m member
  cases value with
  | none => cases member
  | some v =>
      simp only [short] at member
      split_ifs at member with classes ids
      · simp only [Bool.and_eq_true, beq_iff_eq, List.all_eq_true] at classes
        obtain ⟨word, listed, rfl⟩ := List.mem_map.mp member
        have whole := Text.oneLine_of_filled (Text.mem_words listed).2
        refine ⟨.inl classes.1.1, _, rfl, ?_⟩
        simpa using holds_of_isShorthandName (classes.2 word listed) whole
      · simp only [Bool.and_eq_true, beq_iff_eq] at ids
        obtain rfl := List.mem_singleton.mp member
        have whole := kept ids.1.1 v rfl ids.2
        exact ⟨.inr ids.1.1, v, rfl, holds_of_isShorthandName ids.2 whole⟩
      · cases member

theorem toList_shorthand (attributes : List Attribute) :
    (shorthand attributes).toList = (attributes.flatMap short).flatMap mark := by
  unfold shorthand
  induction attributes with
  | nil => rfl
  | cons a attributes ih =>
      rw [String.toList_join] at ih ⊢
      rcases placed_short a with ⟨t, here, text⟩ | ⟨here, nothing⟩
      · simp [here, text, ih]
      · simp [here, nothing, ih]

theorem head_marks (marks : List Attribute) {rest : List Char}
    (outside : ∀ c ∈ rest.head?, continuesName c = false) :
    ∀ c ∈ (marks.flatMap mark ++ rest).head?, continuesName c = false := by
  have dot : continuesName '.' = false := by decide
  have hash : continuesName '#' = false := by decide
  intro c ahead
  cases marks with
  | nil => exact outside c ahead
  | cons next marks =>
      simp only [List.flatMap_cons, mark, List.cons_append, List.head?_cons,
        Option.mem_some_iff] at ahead
      split_ifs at ahead
      · rw [← ahead, dot]
      · rw [← ahead, hash]

theorem shorthand?_marks {marks : List Attribute} (each : ∀ a ∈ marks, IsMark a)
    {rest : List Char}
    (outside : ∀ c ∈ rest.head?, continuesName c = false ∧ marked? c = none) :
    shorthand? (marks.flatMap mark ++ rest) = some (marks, rest) := by
  induction marks with
  | nil =>
      rw [List.flatMap_nil, List.nil_append]
      cases rest with
      | nil => rw [shorthand?]
      | cons c rest =>
          rw [shorthand?]
          simp [(outside c rfl).2]
  | cons a marks ih =>
      rw [List.forall_mem_cons] at each
      obtain ⟨⟨kind, v, given, filled, inside⟩, others⟩ := each
      obtain ⟨name, value⟩ := a
      obtain rfl : value = some v := given
      have behind := head_marks marks fun c ahead => (outside c ahead).1
      obtain ⟨taken, dropped⟩ := name_run inside _ behind
      have known : marked? (if name == "class" then '.' else '#') = some name := by
        rcases kind with same | same
        · simp only at same
          subst same
          rfl
        · simp only at same
          subst same
          rfl
      rw [List.flatMap_cons, mark, List.cons_append, List.cons_append, List.append_assoc,
        shorthand?]
      simp only [Option.getD_some, known, taken, dropped, ih others]
      simp [filled]

/-! ## Parentheses -/

theorem attribute?_spelling {a : Attribute} (valid : IsName a.1) (rest : List Char)
    (outside : ∀ c ∈ rest.head?, c = ' ' ∨ c = ')') :
    attribute? ((spelling a).toList ++ rest) = some (a, rest) := by
  obtain ⟨name, value⟩ := a
  obtain ⟨filled, inside⟩ := holds_of_isName valid
  cases value with
  | none =>
      have ends : ∀ c ∈ rest.head?, continuesName c = false := by
        intro c ahead
        rcases outside c ahead with rfl | rfl <;> decide
      have unset : (rest.head? == some '=') = false := by
        rw [beq_eq_false_iff_ne]
        intro equals
        rcases outside '=' equals with same | same <;> cases same
      obtain ⟨taken, dropped⟩ := name_run inside rest ends
      simp only [attribute?, spelling, taken, dropped, unset, String.ofList_toList]
      simp [filled]
  | some v =>
      have equals : continuesName '=' = false := by decide
      have read := Text.quoted?_quoted v rest
      obtain ⟨taken, dropped⟩ :=
        name_run inside ('=' :: ((Text.quoted v).toList ++ rest)) (by simpa using equals)
      have spelled : (spelling (name, some v)).toList ++ rest =
          name.toList ++ '=' :: ((Text.quoted v).toList ++ rest) := by
        simp [spelling]
      rw [spelled]
      simp only [attribute?, taken, dropped, List.head?_cons, beq_self_eq_true, ↓reduceIte,
        List.drop_succ_cons, List.drop_zero, read, String.ofList_toList]
      simp [filled]

/-- Attributes with blanks between them. -/
def spaced (attributes : List Attribute) : List Char :=
  [' '].intercalate (attributes.map fun a => (spelling a).toList)

theorem attributes?_spaced (first : Attribute) (more : List Attribute)
    (valid : ∀ a ∈ first :: more, IsName a.1) (rest : List Char) :
    attributes? (spaced (first :: more) ++ ')' :: rest) = some (first :: more, rest) := by
  induction more generalizing first with
  | nil =>
      have read := attribute?_spelling (valid first List.mem_cons_self) (')' :: rest) (by simp)
      rw [attributes?]
      simp [spaced, read]
  | cons next more ih =>
      rw [List.forall_mem_cons] at valid
      have split : spaced (first :: next :: more) ++ ')' :: rest =
          (spelling first).toList ++ ' ' :: (spaced (next :: more) ++ ')' :: rest) := by
        simp [spaced]
      have read := attribute?_spelling valid.1 (' ' :: (spaced (next :: more) ++ ')' :: rest)) (by simp)
      rw [split, attributes?, read]
      simp only [ih next valid.2]
      rw [if_pos (by simp; omega)]
      rfl

theorem toList_parenthesised (attributes : List Attribute) :
    (parenthesised attributes).toList =
      match attributes.filter inParentheses with
      | [] => []
      | first :: more => '(' :: (spaced (first :: more) ++ [')']) := by
  have texts : (attributes.filterMap fun a => (placed a).getRight?) =
      (attributes.filter inParentheses).map spelling := by
    induction attributes with
    | nil => rfl
    | cons a attributes ih =>
        rcases placed_short a with ⟨t, here, _⟩ | ⟨here, _⟩
        · simp [inParentheses, here, ih]
        · simp [inParentheses, here, ih]
  unfold parenthesised
  rw [texts]
  cases attributes.filter inParentheses with
  | nil => rfl
  | cons first more => simp [spaced, Function.comp_def]

/-- What may follow the attributes of an element. -/
def Closes (rest : List Char) : Prop := ∀ c ∈ rest.head?, c = '='

theorem parenthesised?_written {attributes : List Attribute}
    (valid : ∀ a ∈ attributes, IsName a.1) {rest : List Char} (closes : Closes rest) :
    parenthesised? ((parenthesised attributes).toList ++ rest) =
      some (attributes.filter inParentheses, rest) := by
  have kept : ∀ a ∈ attributes.filter inParentheses, IsName a.1 :=
    fun a member => valid a (List.mem_filter.mp member).1
  rw [toList_parenthesised]
  generalize attributes.filter inParentheses = held at kept
  cases held with
  | nil =>
      rw [List.nil_append]
      cases rest with
      | nil => rfl
      | cons c rest =>
          obtain rfl := closes c rfl
          rfl
  | cons first more =>
      have read := attributes?_spaced first more kept rest
      simpa [parenthesised?] using read

/-! ## Heads -/

/-- A text behind an element. -/
def behindHead : Option String → List Char
  | none => []
  | some s => '=' :: ' ' :: (Text.quoted s).toList

theorem closes_behindHead (shown : Option String) : Closes (behindHead shown) := by
  cases shown <;> simp [Closes, behindHead]

theorem head_parenthesised (attributes : List Attribute) {rest : List Char}
    (closes : Closes rest) :
    ∀ c ∈ ((parenthesised attributes).toList ++ rest).head?,
      continuesName c = false ∧ marked? c = none := by
  rw [toList_parenthesised]
  cases attributes.filter inParentheses with
  | nil =>
      intro c ahead
      rw [closes c ahead]
      decide
  | cons first more =>
      intro c ahead
      rw [← Option.some.inj ahead]
      decide

theorem shown?_behindHead (s : String) : shown? (behindHead (some s)) = some s := by
  have read := Text.quoted?_quoted s []
  rw [List.append_nil] at read
  simp [behindHead, shown?, read]

/-- An element is read from its tag, if it has one, and from what comes behind that. -/
theorem element?_parts {s name : List Char} {attributes : List Attribute}
    (named : ∀ a ∈ attributes, IsName a.1) {shown : Option String}
    (taken : s.takeWhile continuesName = name)
    (marks : shorthand? (s.dropWhile continuesName) =
      some (attributes.flatMap short, (parenthesised attributes).toList ++ behindHead shown))
    (something : (name.isEmpty && (attributes.flatMap short).isEmpty) = false) :
    element? s =
      some (.element (if name.isEmpty then "div" else String.ofList name) (written attributes)
        shown) := by
  have held := parenthesised?_written named (closes_behindHead shown)
  simp only [element?, taken, marks, something, Bool.false_eq_true, ↓reduceIte, held]
  cases shown with
  | none => rfl
  | some text =>
      have read := shown?_behindHead text
      rw [behindHead] at read ⊢
      simp [read, written]

theorem toList_head (tag : String) (attributes : List Attribute) :
    (head tag attributes).toList =
      (if tag == "div" && shorthand attributes != "" then [] else tag.toList) ++
        ((attributes.flatMap short).flatMap mark ++ (parenthesised attributes).toList) := by
  have spelled := toList_shorthand attributes
  unfold head
  dsimp only
  split_ifs <;> simp [spelled]

/-- **Heads are read back.** The line of an element is read as the element with its attributes as
they are written. -/
theorem content?_head {tag : String} (valid : IsName tag) {attributes : List Attribute}
    (named : ∀ a ∈ attributes, IsName a.1) (kept : ∀ a ∈ attributes, KeepsLine a)
    (shown : Option String) :
    content? ((head tag attributes).toList ++ behindHead shown) =
      some (.element tag (written attributes) shown) := by
  have each : ∀ m ∈ attributes.flatMap short, IsMark m := by
    intro m member
    obtain ⟨a, inside, found⟩ := List.mem_flatMap.mp member
    exact isMark_of_mem_short (kept a inside) m found
  have outside := head_parenthesised attributes (closes_behindHead shown)
  have marks := shorthand?_marks each outside
  have spelled := toList_shorthand attributes
  have front := head_marks (attributes.flatMap short) fun c ahead => (outside c ahead).1
  by_cases omitted : (tag == "div" && shorthand attributes != "") = true
  · have text : (head tag attributes).toList ++ behindHead shown =
        (attributes.flatMap short).flatMap mark ++
          ((parenthesised attributes).toList ++ behindHead shown) := by
      simp [toList_head, omitted]
    simp only [Bool.and_eq_true, beq_iff_eq, bne_iff_ne, ne_eq] at omitted
    have marked : attributes.flatMap short ≠ [] := by
      intro none
      rw [none, List.flatMap_nil, String.toList_eq_nil_iff] at spelled
      exact omitted.2 spelled
    have elsewhere : ((attributes.flatMap short).flatMap mark ++
        ((parenthesised attributes).toList ++ behindHead shown)).head? ≠ some '=' := by
      cases listed : attributes.flatMap short with
      | nil => exact absurd listed marked
      | cons a more =>
          simp only [List.flatMap_cons, mark, List.cons_append, List.head?_cons]
          split_ifs <;> decide
    obtain ⟨taken, dropped⟩ := name_run (s := []) (by simp) _ front
    rw [List.nil_append] at taken dropped
    rw [text, content?, if_neg (by simpa using elsewhere), omitted.1]
    exact element?_parts named taken (by rw [dropped, marks]) (by simpa using marked)
  · have text : (head tag attributes).toList ++ behindHead shown =
        tag.toList ++ ((attributes.flatMap short).flatMap mark ++
          ((parenthesised attributes).toList ++ behindHead shown)) := by
      simp [toList_head, omitted]
    obtain ⟨filled, inside⟩ := holds_of_isName valid
    obtain ⟨taken, dropped⟩ := name_run inside _ front
    have begins : tag.toList.isEmpty = false := by simpa using filled
    have elsewhere : (tag.toList ++ ((attributes.flatMap short).flatMap mark ++
        ((parenthesised attributes).toList ++ behindHead shown))).head? ≠ some '=' := by
      intro equals
      rw [List.head?_append_of_ne_nil _ filled] at equals
      have named := inside '=' (List.mem_of_mem_head? equals)
      revert named
      decide
    have read := element?_parts named taken (by rw [dropped, marks]) (by simp [begins])
    rw [text, content?, if_neg (by simpa using elsewhere), read, begins]
    simp

/-! ## The order of attributes -/

theorem name_of_mem_short {a m : Attribute} (member : m ∈ short a) : m.1 = a.1 := by
  obtain ⟨name, value⟩ := a
  cases value with
  | none => cases member
  | some v =>
      simp only [short] at member
      split_ifs at member with classes ids
      · obtain ⟨word, _, rfl⟩ := List.mem_map.mp member
        rfl
      · rw [List.mem_singleton.mp member]
      · cases member

/-- What only attributes of one name contribute to is the same in the order in which attributes are
written, since no name comes twice. -/
theorem flatMap_written {β : Type} (name : String) (f : Attribute → List β)
    (others : ∀ a : Attribute, a.1 ≠ name → f a = [])
    (same : ∀ a : Attribute, a.1 = name →
      (short a).flatMap f ++ (if inParentheses a then f a else []) = f a)
    {attributes : List Attribute} (distinct : (attributes.map Prod.fst).Nodup) :
    (written attributes).flatMap f = attributes.flatMap f := by
  have nothing (more : List Attribute) (apart : ∀ a ∈ more, a.1 ≠ name) :
      more.flatMap f = [] := by
    rw [List.flatMap_eq_nil_iff]
    exact fun a member => others a (apart a member)
  have unmarked (a : Attribute) (apart : a.1 ≠ name) : (short a).flatMap f = [] := by
    apply nothing
    intro m member
    rw [name_of_mem_short member]
    exact apart
  unfold written
  induction attributes with
  | nil => rfl
  | cons a attributes ih =>
      rw [List.map_cons, List.nodup_cons] at distinct
      obtain ⟨fresh, distinct⟩ := distinct
      have behind := ih distinct
      have split : (((a :: attributes).flatMap short ++
          (a :: attributes).filter inParentheses)).flatMap f =
            (short a).flatMap f ++ (attributes.flatMap short).flatMap f ++
              ((if inParentheses a then f a else []) ++
                (attributes.filter inParentheses).flatMap f) := by
        rw [List.filter_cons]
        split_ifs <;> simp
      rw [List.flatMap_append] at behind
      rw [split, List.flatMap_cons]
      by_cases here : a.1 = name
      · have elsewhere : ∀ b ∈ attributes, b.1 ≠ name := by
          intro b member twice
          rw [here, ← twice] at fresh
          exact fresh (List.mem_map_of_mem member)
        have none := nothing attributes elsewhere
        rw [none, List.append_eq_nil_iff] at behind
        rw [behind.1, behind.2, none, List.append_nil, List.append_nil, same a here]
        simp
      · rw [unmarked a here, others a here, ite_self, List.nil_append, List.nil_append,
          List.nil_append]
        exact behind

theorem allClasses_written {attributes : List Attribute}
    (distinct : (attributes.map Prod.fst).Nodup) :
    allClasses (written attributes) = allClasses attributes := by
  apply flatMap_written "class" classNames _ _ distinct
  · intro a apart
    simp [classNames, apart]
  · intro a named
    obtain ⟨name, value⟩ := a
    obtain rfl : name = "class" := named
    cases value with
    | none => simp [short, inParentheses, placed]
    | some v =>
        by_cases classes : (v != "" && (Text.words v.toList).all isShorthandName) = true
        · have words : (Text.words v.toList).flatMap (fun word =>
              classNames ("class", some (String.ofList word))) =
                (Text.words v.toList).map String.ofList := by
            rw [List.map_eq_flatMap]
            apply List.flatMap_congr
            intro word listed
            obtain ⟨something, filled⟩ := Text.mem_words listed
            simp [classNames, Text.words_of_word something filled]
          have given : classNames ("class", some v) =
              (Text.words v.toList).map String.ofList := rfl
          simp [short, inParentheses, placed, classes, List.flatMap_map, words, given]
        · simp [short, inParentheses, placed, classes]

theorem filter_eq_flatMap {α : Type} (p : α → Bool) (all : List α) :
    all.filter p = all.flatMap fun a => if p a then [a] else [] := by
  induction all with
  | nil => rfl
  | cons a all ih =>
      rw [List.filter_cons, List.flatMap_cons, ← ih]
      split_ifs <;> rfl

/-- Written attributes are the attributes of the element, apart from where ids stand. -/
theorem arranged_written {attributes : List Attribute}
    (distinct : (attributes.map Prod.fst).Nodup) :
    arranged (written attributes) = arranged attributes := by
  have ids : (written attributes).filter (·.1 == "id") = attributes.filter (·.1 == "id") := by
    rw [filter_eq_flatMap, filter_eq_flatMap]
    apply flatMap_written "id" _ _ _ distinct
    · intro a apart
      simp [apart]
    · intro a named
      obtain ⟨name, value⟩ := a
      obtain rfl : name = "id" := named
      cases value with
      | none => simp [short, inParentheses, placed]
      | some v =>
          by_cases marked : (v != "" && isShorthandName v.toList) = true
          · simp [short, inParentheses, placed, marked]
          · simp [short, inParentheses, placed, marked]
  have others : (written attributes).filter (fun a => !(a.1 == "id" || a.1 == "class")) =
      attributes.filter fun a => !(a.1 == "id" || a.1 == "class") := by
    have marks (a : Attribute) :
        (short a).filter (fun m => !(m.1 == "id" || m.1 == "class")) = [] := by
      obtain ⟨name, value⟩ := a
      cases value with
      | none => rfl
      | some v =>
          simp only [short]
          split_ifs with classes ids
          · simp only [Bool.and_eq_true, beq_iff_eq] at classes
            simp [classes.1.1]
          · simp only [Bool.and_eq_true, beq_iff_eq] at ids
            simp [ids.1.1]
          · rfl
    have plain (a : Attribute) (other : (!(a.1 == "id" || a.1 == "class")) = true) :
        inParentheses a = true := by
      obtain ⟨name, value⟩ := a
      simp only [Bool.not_eq_true', Bool.or_eq_false_iff] at other
      cases value with
      | none => rfl
      | some v => simp [inParentheses, placed, other]
    rw [written, List.filter_append, List.filter_flatMap, List.flatMap_eq_nil_iff.mpr
      fun a _ => marks a, List.nil_append, List.filter_filter]
    apply List.filter_congr
    intro a _
    cases other : !(a.1 == "id" || a.1 == "class") with
    | false => rfl
    | true => rw [plain a other, Bool.and_self]
  rw [arranged, ids, others, arranged]

/-- **Elements are kept.** The attributes as they are written make the same node. -/
theorem element_written (tag : String) {attributes : List Attribute}
    (distinct : (attributes.map Prod.fst).Nodup) (children : List Node) :
    element tag (written attributes) children = element tag attributes children := by
  rw [element, allClasses_written distinct, arranged_written distinct, element]

/-! ## Lines that break -/

theorem oneLine_of_isName {name : String} (valid : IsName name) :
    Text.oneLine name.toList = true :=
  Text.oneLine_of_filled fun c member => (Markup.nameChar_facts c (valid.mem c member)).2.2.1

/-- What is written behind a tag for an attribute breaks the line exactly if a line ends in it. -/
theorem oneLine_short (a : Attribute) :
    Text.oneLine ((short a).flatMap mark) = true ↔ KeepsLine a := by
  obtain ⟨name, value⟩ := a
  cases value with
  | none => simp [short, KeepsLine]
  | some v =>
      simp only [short, KeepsLine]
      split_ifs with classes ids
      · simp only [Bool.and_eq_true, beq_iff_eq] at classes
        have words : ∀ w ∈ Text.words v.toList, Text.oneLine w = true :=
          fun w listed => Text.oneLine_of_filled (Text.mem_words listed).2
        simpa [classes.1.1, mark] using words
      · simp only [Bool.and_eq_true, beq_iff_eq] at ids
        simp [ids.1.1, ids.2, mark]
      · simp only [Bool.and_eq_true, beq_iff_eq, bne_iff_ne, ne_eq, not_and] at ids
        simp only [List.flatMap_nil, Text.oneLine_nil, true_iff]
        rintro rfl w given named
        obtain rfl := Option.some.inj given
        by_cases empty : v = ""
        · subst empty
          rfl
        · exact absurd named (ids ⟨rfl, empty⟩)

theorem oneLine_spelling {a : Attribute} (valid : IsName a.1) :
    Text.oneLine (spelling a).toList = true := by
  have named := oneLine_of_isName valid
  obtain ⟨name, value⟩ := a
  cases value with
  | none => simpa [spelling] using named
  | some v => simp [spelling, named, Text.oneLine_quoted]

theorem oneLine_spaced {attributes : List Attribute} (valid : ∀ a ∈ attributes, IsName a.1) :
    Text.oneLine (spaced attributes) = true := by
  have blank : Text.oneLine [' '] = true := by decide
  unfold spaced
  induction attributes with
  | nil => rfl
  | cons first more ih =>
      rw [List.forall_mem_cons] at valid
      have here := oneLine_spelling valid.1
      cases more with
      | nil => simpa using here
      | cons next more =>
          have behind := ih valid.2
          simp only [List.map_cons, List.intercalate_cons_cons, Text.oneLine_append, here, blank,
            Bool.true_and] at behind ⊢
          exact behind

theorem oneLine_parenthesised {attributes : List Attribute}
    (named : ∀ a ∈ attributes, IsName a.1) :
    Text.oneLine (parenthesised attributes).toList = true := by
  have kept : ∀ a ∈ attributes.filter inParentheses, IsName a.1 :=
    fun a member => named a (List.mem_filter.mp member).1
  have inside := oneLine_spaced kept
  rw [toList_parenthesised]
  generalize attributes.filter inParentheses = held at inside
  cases held with
  | nil => rfl
  | cons first more => simp [inside]

/-- The head of an element breaks its line exactly if one of its attributes does. -/
theorem oneLine_head {tag : String} (valid : IsName tag) {attributes : List Attribute}
    (named : ∀ a ∈ attributes, IsName a.1) :
    Text.oneLine (head tag attributes).toList = true ↔ ∀ a ∈ attributes, KeepsLine a := by
  have tagged := oneLine_of_isName valid
  have marks : Text.oneLine ((attributes.flatMap short).flatMap mark) = true ↔
      ∀ a ∈ attributes, KeepsLine a := by
    rw [List.flatMap_assoc, Text.oneLine_flatMap, List.all_eq_true]
    simp only [oneLine_short]
  rw [← marks, toList_head]
  split_ifs <;> simp [tagged, oneLine_parenthesised named]

end Wireframe.Export.Pug
