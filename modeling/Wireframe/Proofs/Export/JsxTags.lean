import Wireframe.Proofs.Export.JsxReading
import Wireframe.Proofs.Markup.Regular

/-! # What JSX writes for an element

The nodes that trees denote, and the tags that are written for their elements: an attribute
is read back as the property that it becomes, whatever characters its value holds, and a
tag as a tag with the properties of its element.
-/

namespace Wireframe.Export.Jsx

open Markup (IsName)

/-! ## What a tree denotes -/

/-- The property that an attribute becomes. What is selected is told by the select instead. -/
def property (a : Attribute) : Option Property :=
  if a.1 == "selected" then none
  else
    some (propName a.1,
      match a.2 with
      | none => .set
      | some value => .text value)

/-- The property that tells what is selected in a select at first. -/
def selectProperty (tag : String) (m : Markup) : List Property :=
  if tag == "select" then
    match selectedValues m with
    | [] => []
    | first :: more =>
      if m.hasAttribute "multiple" then [("defaultValue", .texts (first :: more))]
      else [("defaultValue", .text first)]
  else []

/-- The properties of an element. -/
def properties (tag : String) (attributes : List Attribute) (m : Markup) : List Property :=
  attributes.filterMap property ++ selectProperty tag m

/-- The nodes that trees denote, given how each text looks. -/
def denoted (look : String → String) : List Markup → List Node
  | [] => []
  | .text s :: rest => .text (look s) :: denoted look rest
  | .element tag attributes children :: rest =>
    .element tag (properties tag attributes (.element tag attributes children))
        (denoted look children) ::
      denoted look rest

/-- How a text looks: what stands as it is shows what raw text shows. -/
def shownText (s : String) : String :=
  if isPlainText s.toList then String.ofList (clean s.toList) else s

/-! ## Indentation and lists -/

theorem oneLine_indent (depth : Nat) : Text.oneLine (indent depth).toList = true := by
  rw [Text.oneLine_iff]
  intro c member
  rw [indent, String.toList_ofList] at member
  rw [List.eq_of_mem_replicate member]
  decide

/-- The items of a list of literals, up to its end. -/
def listed (items : List String) : List Char :=
  ", ".toList.intercalate (items.map fun s => (Text.quoted s).toList)

theorem quotedAll?_listed (first : String) (more : List String) (rest : List Char) :
    quotedAll? (listed (first :: more) ++ ']' :: rest) = some (first :: more, rest) := by
  induction more generalizing first with
  | nil =>
      have read := Text.quoted?_quoted first (']' :: rest)
      rw [quotedAll?]
      simp [listed, read]
  | cons next more ih =>
      have split : listed (first :: next :: more) ++ ']' :: rest =
          (Text.quoted first).toList ++ ',' :: ' ' :: (listed (next :: more) ++ ']' :: rest) := by
        simp [listed]
      have opening : Text.isBlank '"' = false := by decide
      have blank : Text.isBlank ' ' = true := by decide
      have front : (' ' :: (listed (next :: more) ++ ']' :: rest)).dropWhile Text.isBlank =
          listed (next :: more) ++ ']' :: rest := by
        cases more <;> simp [listed, Text.toList_quoted, Text.Quoted.encode, opening, blank]
      rw [split, quotedAll?, Text.quoted?_quoted]
      simp only [front, ih]
      rw [if_pos (by simp only [List.length_append, List.length_cons]; omega)]
      rfl

/-! ## Properties -/

/-- What may follow a property in a tag. -/
def Ends (rest : List Char) : Prop := ∀ c ∈ rest.head?, c = ' ' ∨ c = '>'

/-- A text that is read as a property, whatever follows it in a tag. -/
def Writes (text : List Char) (p : Property) : Prop :=
  (∀ c ∈ text.head?, Text.isBlank c = false) ∧
    ∀ rest, Ends rest → property? (text ++ rest) = some (p, rest)

/-- A name as JSX reads it. -/
def IsPropName (name : String) : Prop :=
  name.toList ≠ [] ∧ ∀ c ∈ name.toList, isNameChar c = true

theorem isNameChar_nameChar : ∀ c ∈ Markup.nameChars, isNameChar c = true :=
  List.all_iff_forall_prop.mp (by decide)

theorem isNameChar_facts {c : Char} (named : isNameChar c = true) :
    Text.isBlank c = false ∧ c ≠ '=' ∧ c ≠ '/' ∧ c ≠ '>' := by
  refine ⟨?_, ?_, ?_, ?_⟩
  · have range : c.toNat = 45 ∨ 48 ≤ c.toNat ∧ c.toNat ≤ 57 ∨ 65 ≤ c.toNat ∧ c.toNat ≤ 90 ∨
        97 ≤ c.toNat ∧ c.toNat ≤ 122 := by
      simp only [isNameChar, Text.isAsciiLetter, Text.isAsciiDigit, Bool.or_eq_true,
        Bool.and_eq_true, decide_eq_true_eq, Char.le_def, UInt32.le_iff_toNat_le,
        beq_iff_eq] at named
      rcases named with ((small | capital) | digit) | rfl
      · exact .inr (.inr (.inr small))
      · exact .inr (.inr (.inl capital))
      · exact .inr (.inl digit)
      · exact .inl rfl
    simp only [Text.isBlank, Text.isWhiteSpace, Bool.or_eq_false_iff, Bool.and_eq_false_iff,
      decide_eq_false_iff_not, beq_eq_false_iff_ne]
    omega
  · rintro rfl
    revert named
    decide
  · rintro rfl
    revert named
    decide
  · rintro rfl
    revert named
    decide

theorem isPropName_of_isName {name : String} (valid : IsName name) : IsPropName name := by
  have inside := valid.mem
  obtain ⟨first, rest, spelled, _⟩ := valid
  exact ⟨by simp [spelled], fun c member => isNameChar_nameChar c (inside c member)⟩

theorem isPropName_propName {name : String} (valid : IsName name) :
    IsPropName (propName name) := by
  have filled : renamed.all (fun entry => !entry.2.toList.isEmpty) = true := by decide
  have valids : renamed.all (fun entry => entry.2.toList.all isNameChar) = true := by decide
  unfold propName
  cases found : renamed.lookup name with
  | none => exact isPropName_of_isName valid
  | some other =>
      obtain ⟨before, after, split, _⟩ := List.lookup_eq_some_iff.mp found
      have listed : (name, other) ∈ renamed := by simp [split]
      refine ⟨?_, List.all_eq_true.mp (List.all_eq_true.mp valids _ listed)⟩
      have something := List.all_eq_true.mp filled _ listed
      simpa using something

theorem name_run {name : String} (valid : IsPropName name) (rest : List Char)
    (outside : ∀ c ∈ rest.head?, isNameChar c = false) :
    (name.toList ++ rest).takeWhile isNameChar = name.toList ∧
      (name.toList ++ rest).dropWhile isNameChar = rest := by
  refine ⟨Markup.takeWhile_run valid.2 outside, ?_⟩
  rw [List.dropWhile_append_of_pos valid.2]
  cases rest with
  | nil => rfl
  | cons c rest => exact List.dropWhile_cons_of_neg (by simp [outside c rfl])

theorem Ends.outside {rest : List Char} (ends : Ends rest) :
    ∀ c ∈ rest.head?, isNameChar c = false := by
  intro c ahead
  rcases ends c ahead with rfl | rfl <;> decide

theorem IsPropName.head_not_blank {name : String} (valid : IsPropName name) (rest : List Char) :
    ∀ c ∈ (name.toList ++ rest).head?, Text.isBlank c = false := by
  obtain ⟨filled, inside⟩ := valid
  cases spelled : name.toList with
  | nil => exact absurd spelled filled
  | cons first others =>
      rw [spelled] at inside
      simpa using (isNameChar_facts (inside first List.mem_cons_self)).1

theorem writes_set {name : String} (valid : IsPropName name) : Writes name.toList (name, .set) := by
  refine ⟨by simpa using valid.head_not_blank [], ?_⟩
  intro rest ends
  obtain ⟨taken, dropped⟩ := name_run valid rest ends.outside
  have unset : (rest.head? == some '=') = false := by
    rw [beq_eq_false_iff_ne]
    intro equals
    rcases ends '=' equals with same | same <;> cases same
  simp [property?, taken, dropped, unset, valid.1]

/-- A name with a value behind an equals sign is a property with the value. -/
theorem writes_value {name : String} (valid : IsPropName name) {text : List Char} {value : Value}
    (read : ∀ rest, value? (text ++ rest) = some (value, rest)) :
    Writes (name.toList ++ '=' :: text) (name, value) := by
  refine ⟨valid.head_not_blank _, ?_⟩
  intro rest ends
  have outside : isNameChar '=' = false := by decide
  obtain ⟨taken, dropped⟩ := name_run valid ('=' :: (text ++ rest)) (by simpa using outside)
  simp [property?, taken, dropped, valid.1, read rest]

theorem mem_withoutFinalBreak {c : Char} {s : List Char} (member : c ∈ s) :
    c ∈ withoutFinalBreak s ∨ c = '\n' := by
  unfold withoutFinalBreak
  split_ifs with feed
  · have filled : s ≠ [] := List.ne_nil_of_mem member
    rw [← List.dropLast_append_getLast filled] at member
    rcases List.mem_append.mp member with before | last
    · exact .inl before
    · right
      rw [List.getLast?_eq_getLast_of_ne_nil filled, beq_iff_eq, Option.some.injEq] at feed
      rw [List.mem_singleton.mp last, feed]
  · exact .inl member

/-- A value that stands as it is holds no quote and begins no reference. -/
theorem plainValue_facts {s : List Char} (plain : isPlainValue s = true) :
    ∀ c ∈ s, c ≠ '"' ∧ c ≠ '&' := by
  intro c member
  rcases mem_withoutFinalBreak member with inside | rfl
  · have kept := List.all_eq_true.mp plain c inside
    simp only [isPlainValueChar, Bool.not_eq_true', Bool.or_eq_false_iff,
      beq_eq_false_iff_ne] at kept
    exact kept.1
  · decide

theorem value?_plain {s : String} (plain : isPlainValue s.toList = true) (rest : List Char) :
    value? (('"' :: s.toList ++ ['"']) ++ rest) = some (.text s, rest) := by
  have inside := plainValue_facts plain
  have unquoted : ∀ c ∈ s.toList, (c != '"') = true := by simpa using fun c m => (inside c m).1
  have taken : (s.toList ++ '"' :: rest).takeWhile (· != '"') = s.toList :=
    Markup.takeWhile_run unquoted (by simp)
  have dropped : (s.toList ++ '"' :: rest).dropWhile (· != '"') = '"' :: rest := by
    rw [List.dropWhile_append_of_pos unquoted]
    simp
  have unreferenced : '&' ∉ s.toList := fun member => (inside _ member).2 rfl
  simp [value?, taken, dropped, unreferenced]

theorem value?_expression (s : String) (rest : List Char) :
    value? ((expression s).toList ++ rest) = some (.text s, rest) := by
  have read := Text.quoted?_quoted s ('\x7d' :: rest)
  simp only [Text.quoted, Text.Quoted.encode, String.toList_ofList, List.cons_append,
    List.append_assoc, List.nil_append] at read
  simp [expression, Text.quoted, Text.Quoted.encode, value?, read]

theorem toList_list (items : List String) :
    ((Json.list (items.map .text)).write .spaced).toList = '[' :: (listed items ++ [']']) := by
  have unicode : Json.Style.spaced.asciiOnly = false := rfl
  have comma : Json.Style.spaced.comma = ", " := rfl
  have quoted : Json.writeItems .spaced (items.map .text) = items.map Text.quoted := by
    induction items with
    | nil => rfl
    | cons s items ih => simp [Json.writeItems, Json.write, Json.Style.quote, unicode, ih]
  simp [Json.write, quoted, listed, comma, Function.comp_def]

theorem value?_list (first : String) (more : List String) (rest : List Char) :
    value? ('\x7b' :: '[' :: (listed (first :: more) ++ ']' :: '\x7d' :: rest)) =
      some (.texts (first :: more), rest) := by
  simp [value?, quotedAll?_listed]

/-- Each attribute is written as the property that it becomes. -/
theorem writes_attributes (attributes : List Attribute) (names : ∀ a ∈ attributes, IsName a.1) :
    List.Forall₂ Writes ((attributes.filterMap prop).map String.toList)
      (attributes.filterMap property) := by
  induction attributes with
  | nil => exact .nil
  | cons a attributes ih =>
      rw [List.forall_mem_cons] at names
      obtain ⟨valid, others⟩ := names
      obtain ⟨name, value⟩ := a
      have named := isPropName_propName valid
      by_cases selected : name = "selected"
      · simp only [List.filterMap_cons, prop, property, selected, beq_self_eq_true, ↓reduceIte]
        exact ih others
      · simp only [List.filterMap_cons, prop, property, beq_eq_false_iff_ne.mpr selected,
          Bool.false_eq_true, ↓reduceIte]
        cases value with
        | none => exact .cons (writes_set named) (ih others)
        | some value =>
            by_cases plain : isPlainValue value.toList = true
            · simp only [plain, ↓reduceIte, List.map_cons]
              refine .cons ?_ (ih others)
              have written := writes_value named (value?_plain plain)
              simpa using written
            · simp only [plain, Bool.false_eq_true, ↓reduceIte, List.map_cons]
              refine .cons ?_ (ih others)
              have written := writes_value named (value?_expression value)
              simpa using written

theorem writes_selectDefault (tag : String) (m : Markup) :
    List.Forall₂ Writes ((selectDefault tag m).map String.toList) (selectProperty tag m) := by
  have named : IsPropName "defaultValue" := ⟨by decide, List.all_eq_true.mp (by decide)⟩
  have spelled (s : String) :
      ("defaultValue=" ++ s).toList = "defaultValue".toList ++ '=' :: s.toList :=
    String.toList_append
  unfold selectDefault selectProperty
  cases tag == "select" with
  | false => exact .nil
  | true =>
      cases selectedValues m with
      | nil => exact .nil
      | cons first more =>
          cases m.hasAttribute "multiple" with
          | true =>
              have list : ("defaultValue=\x7b" ++
                  (Json.list ((first :: more).map .text)).write .spaced ++ "\x7d").toList =
                  "defaultValue".toList ++
                    '=' :: '\x7b' :: '[' :: (listed (first :: more) ++ [']', '\x7d']) := by
                have joined := toList_list (first :: more)
                rw [String.toList_append, String.toList_append, joined]
                simp only [List.append_assoc, List.cons_append]
                rfl
              simp only [↓reduceIte, List.map_singleton, list]
              exact .cons (writes_value named (by simpa using value?_list first more)) .nil
          | false =>
              simp only [Bool.false_eq_true, ↓reduceIte, List.map_singleton, spelled]
              exact .cons (writes_value named (value?_expression first)) .nil

/-! ## Tags -/

/-- Texts that are written as properties are read as them, each behind a blank, up to the end of the
tag. -/
theorem properties?_writes {texts : List (List Char)} {found : List Property}
    (written : List.Forall₂ Writes texts found) {ending : List Char} (ends : Ends ending)
    (stops : property? (ending.dropWhile Text.isBlank) = none) :
    properties? (texts.flatMap (' ' :: ·) ++ ending) =
      some (found, ending.dropWhile Text.isBlank) := by
  induction written with
  | nil =>
      rw [List.flatMap_nil, List.nil_append, properties?]
      simp only [stops]
  | @cons text p texts found first _ ih =>
      obtain ⟨unblank, read⟩ := first
      have blank : Text.isBlank ' ' = true := by decide
      have behind : Ends (texts.flatMap (' ' :: ·) ++ ending) := by
        cases texts with
        | nil => exact ends
        | cons next texts =>
            intro c ahead
            exact .inl (by simpa using ahead.symm)
      -- Only the blank in front of the property is dropped, since no property begins with one.
      have front : (' ' :: (text ++ (texts.flatMap (' ' :: ·) ++ ending))).dropWhile
          Text.isBlank = text ++ (texts.flatMap (' ' :: ·) ++ ending) := by
        rw [List.dropWhile_cons_of_pos blank]
        cases text with
        | nil =>
            have nothing := read _ (show Ends [] by simp [Ends])
            simp [property?] at nothing
        | cons c text => exact List.dropWhile_cons_of_neg (by simp [unblank c rfl])
      rw [List.flatMap_cons, List.cons_append, List.cons_append, List.append_assoc, properties?]
      simp only [front, read _ behind, ih]
      rw [if_pos (by simp only [List.length_append, List.length_cons]; omega)]
      rfl

theorem toList_props (tag : String) (attributes : List Attribute) (m : Markup) :
    (props tag attributes m).toList =
      ((attributes.filterMap prop ++ selectDefault tag m).map String.toList).flatMap
        (' ' :: ·) := by
  simp [props, List.flatMap_map]

/-- What stands between the name of a tag and its end is read as the properties of the element. -/
theorem properties?_props (tag : String) (attributes : List Attribute)
    (names : ∀ a ∈ attributes, IsName a.1) (m : Markup) {ending : List Char} (ends : Ends ending)
    (stops : property? (ending.dropWhile Text.isBlank) = none) :
    properties? ((props tag attributes m).toList ++ ending) =
      some (properties tag attributes m, ending.dropWhile Text.isBlank) := by
  rw [toList_props, List.map_append]
  exact properties?_writes
    (List.rel_append (writes_attributes attributes names) (writes_selectDefault tag m)) ends stops

/-- The end of a tag, behind which nothing of it comes. -/
theorem props_outside (tag : String) (attributes : List Attribute) (m : Markup)
    {ending : List Char} (ends : Ends ending) :
    ∀ c ∈ ((props tag attributes m).toList ++ ending).head?, isNameChar c = false := by
  rw [toList_props]
  generalize (attributes.filterMap prop ++ selectDefault tag m).map String.toList = texts
  cases texts with
  | nil => exact ends.outside
  | cons text texts =>
      intro c ahead
      rw [← Option.some.inj ahead]
      decide

theorem token?_opening {tag : String} (valid : IsName tag) (attributes : List Attribute)
    (names : ∀ a ∈ attributes, IsName a.1) (m : Markup) (closed : Bool) (ending : List Char)
    {behind : List Char} (written : ending = if closed then ' ' :: '/' :: '>' :: behind
      else '>' :: behind) :
    token? ('<' :: (tag.toList ++ ((props tag attributes m).toList ++ ending))) =
      some (.opening tag (properties tag attributes m) closed, behind) := by
  have propNamed := isPropName_of_isName valid
  have ends : Ends ending := by
    cases closed <;> simp [written, Ends]
  have blank : Text.isBlank ' ' = true := by decide
  have slash : Text.isBlank '/' = false := by decide
  have bracket : Text.isBlank '>' = false := by decide
  have front : ending.dropWhile Text.isBlank =
      if closed then '/' :: '>' :: behind else '>' :: behind := by
    cases closed <;> simp [written, blank, slash, bracket]
  have stops : property? (ending.dropWhile Text.isBlank) = none := by
    have slash : isNameChar '/' = false := by decide
    have bracket : isNameChar '>' = false := by decide
    rw [front]
    cases closed <;> simp [property?, slash, bracket]
  have found := properties?_props tag attributes names m ends stops
  obtain ⟨taken, dropped⟩ := name_run propNamed _ (props_outside tag attributes m ends)
  have unslashed : ((tag.toList ++ ((props tag attributes m).toList ++ ending)).head? ==
      some '/') = false := by
    obtain ⟨filled, inside⟩ := propNamed
    cases spelled : tag.toList with
    | nil => exact absurd spelled filled
    | cons first others =>
        rw [spelled] at inside
        simpa using (isNameChar_facts (inside first List.mem_cons_self)).2.2.1
  simp only [token?, beq_self_eq_true, ↓reduceIte, unslashed, Bool.false_eq_true, opening?, taken,
    dropped, found, front, String.ofList_toList]
  cases closed <;> rfl

theorem token?_closing {tag : String} (valid : IsName tag) (rest : List Char) :
    token? ('<' :: '/' :: (tag.toList ++ '>' :: rest)) = some (.closing tag, rest) := by
  have bracket : isNameChar '>' = false := by decide
  obtain ⟨taken, dropped⟩ :=
    name_run (isPropName_of_isName valid) ('>' :: rest) (by simpa using bracket)
  simp [token?, closing?, taken, dropped]

theorem token?_expression (s : String) (rest : List Char) :
    token? ((expression s).toList ++ rest) = some (.literal s, rest) := by
  have read := Text.quoted?_quoted s ('\x7d' :: rest)
  simp only [Text.quoted, Text.Quoted.encode, String.toList_ofList, List.cons_append,
    List.append_assoc, List.nil_append] at read
  simp [expression, Text.quoted, Text.Quoted.encode, token?, read]

/-- A character of raw text. -/
def isRaw (c : Char) : Bool := !(c == '<' || c == '\x7b' || c == '>' || c == '\x7d' || c == '&')

theorem token?_raw {c : Char} (plain : isRaw c = true) (rest : List Char) :
    token? (c :: rest) = some (.raw c, rest) := by
  simp only [isRaw, Bool.not_eq_true', Bool.or_eq_false_iff] at plain
  obtain ⟨⟨⟨⟨less, brace⟩, greater⟩, closing⟩, ampersand⟩ := plain
  simp [token?, less, brace, greater, closing, ampersand]

end Wireframe.Export.Jsx
