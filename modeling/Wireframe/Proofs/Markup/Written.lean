import Mathlib.Data.Bool.AllAny
import Mathlib.Tactic.SplitIfs
import Wireframe.Markup.Read

/-! # Tokens of written markup

What the tokenizer makes of markup that was written from a tree. A text that was escaped
comes back as it was (`resolveReferences_escape`), a start tag comes back with its
attributes in order and with their values as they were (`lexemeAtFront_startTag`), and an
end tag with its name (`lexemeAtFront_endTag`). The values may hold any characters; only
the names of tags and attributes are restricted, to small letters, digits and hyphens.
-/

namespace Wireframe.Markup

/-! ## Escaped texts -/

/-- The reference that writes a character resolves to it, whatever follows. -/
theorem resolveFrom_escapeChar (c : Char) (rest : List Char) :
    resolveFrom 0 (escapeChar c ++ rest) = c :: resolveFrom 0 rest := by
  by_cases amp : c = '&'
  · subst amp; rfl
  by_cases lt : c = '<'
  · subst lt; rfl
  by_cases gt : c = '>'
  · subst gt; rfl
  by_cases single : c = '\''
  · subst single; rfl
  by_cases double : c = '"'
  · subst double; rfl
  have plain : escapeChar c = [c] := by simp [escapeChar, amp, lt, gt, single, double]
  simp [plain, resolveFrom, amp]

/-- A text that was escaped resolves to itself. -/
theorem resolveReferences_escape (s : List Char) :
    resolveReferences (s.flatMap escapeChar) = s := by
  unfold resolveReferences
  induction s with
  | nil => rfl
  | cons c s ih => rw [List.flatMap_cons, resolveFrom_escapeChar, ih]

/-- The reference for a character holds none that could end a text or a quoted value. -/
theorem mem_escapeChar {c d : Char} (written : c ∈ escapeChar d) : c ≠ '<' ∧ c ≠ '"' := by
  have apart (s : List Char) (outside : '<' ∉ s ∧ '"' ∉ s) (inside : c ∈ s) :
      c ≠ '<' ∧ c ≠ '"' :=
    ⟨fun same => outside.1 (same ▸ inside), fun same => outside.2 (same ▸ inside)⟩
  unfold escapeChar at written
  split_ifs at written with amp lt gt single double
  · exact apart _ (by decide) written
  · exact apart _ (by decide) written
  · exact apart _ (by decide) written
  · exact apart _ (by decide) written
  · exact apart _ (by decide) written
  · obtain rfl := List.mem_singleton.mp written
    simp only [beq_iff_eq] at lt double
    exact ⟨lt, double⟩

theorem mem_escape {c : Char} {s : List Char} (member : c ∈ s.flatMap escapeChar) :
    c ≠ '<' ∧ c ≠ '"' := by
  obtain ⟨_, _, written⟩ := List.mem_flatMap.mp member
  exact mem_escapeChar written

theorem escapeChar_ne_nil (c : Char) : escapeChar c ≠ [] := by
  have resolved := resolveFrom_escapeChar c []
  intro empty
  rw [empty] at resolved
  cases resolved

theorem escape_ne_nil {s : List Char} (filled : s ≠ []) : s.flatMap escapeChar ≠ [] := by
  simpa [List.flatMap_eq_nil_iff, escapeChar_ne_nil] using List.exists_mem_of_ne_nil s filled

/-! ## Names -/

/-- The small letters. -/
def smallLetters : List Char := "abcdefghijklmnopqrstuvwxyz".toList

/-- The characters that stand in names of tags and attributes. -/
def nameChars : List Char := smallLetters ++ "0123456789-".toList

/-- A name that begins with a small letter and goes on with small letters, digits and hyphens. -/
def IsName (name : String) : Prop :=
  ∃ first rest, name.toList = first :: rest ∧ first ∈ smallLetters ∧ ∀ c ∈ rest, c ∈ nameChars

/-- Whether a text is a name, by looking at its characters. -/
def isName (name : String) : Bool :=
  match name.toList with
  | [] => false
  | first :: rest => smallLetters.contains first && rest.all nameChars.contains

theorem isName_iff {name : String} : isName name = true ↔ IsName name := by
  unfold isName IsName
  cases name.toList with
  | nil => simp
  | cons first rest =>
      simp only [Bool.and_eq_true, List.contains_iff_mem, List.all_eq_true, List.cons.injEq]
      constructor
      · rintro ⟨small, others⟩
        exact ⟨first, rest, ⟨rfl, rfl⟩, small, others⟩
      · rintro ⟨_, _, ⟨rfl, rfl⟩, small, others⟩
        exact ⟨small, others⟩

instance (name : String) : Decidable (IsName name) := decidable_of_iff _ isName_iff

theorem IsName.mem {name : String} (valid : IsName name) : ∀ c ∈ name.toList, c ∈ nameChars := by
  obtain ⟨first, rest, spelled, small, others⟩ := valid
  intro c member
  rw [spelled] at member
  cases member with
  | head => exact List.mem_append_left _ small
  | tail _ member => exact others c member

/-- What the tokenizer asks of a character within a name holds of all characters of names. -/
theorem nameChar_facts : ∀ c ∈ nameChars,
    isTagChar c = true ∧ isEndTagChar c = true ∧ Text.isBlank c = false ∧ c ≠ '/' ∧ c ≠ '=' ∧
      c ≠ '>' :=
  List.all_iff_forall_prop.mp (by decide)

theorem smallLetter_isAsciiLetter : ∀ c ∈ smallLetters, Text.isAsciiLetter c = true :=
  List.all_iff_forall_prop.mp (by decide)

theorem lowerChar_nameChar : ∀ c ∈ nameChars,
    c.toNat ≠ 0x130 ∧ c.toNat ≠ 0x3A3 ∧ Text.lowerChar c = c :=
  List.all_iff_forall_prop.mp (by decide)

theorem lowerFrom_nameChars (s : List Char) : ∀ (before : Option Char),
    (∀ c ∈ s, c ∈ nameChars) → Text.lowerFrom before s = s := by
  induction s with
  | nil => intro before _; rfl
  | cons c s ih =>
      intro before names
      obtain ⟨dotted, sigma, same⟩ := lowerChar_nameChar c (names c List.mem_cons_self)
      have tail := ih (some c) fun d member => names d (List.mem_cons_of_mem _ member)
      simp [Text.lowerFrom, dotted, sigma, same, tail]

/-- A name is in lower case already. -/
theorem IsName.lowerName {name : String} (valid : IsName name) :
    lowerName name.toList = name := by
  unfold Markup.lowerName Text.lower
  rw [String.toList_ofList, lowerFrom_nameChars _ _ valid.mem, String.ofList_toList]

/-- A run of characters that pass a test ends where one follows that does not. -/
theorem takeWhile_run {p : Char → Bool} {run rest : List Char} (inside : ∀ c ∈ run, p c = true)
    (outside : ∀ c ∈ rest.head?, p c = false) : (run ++ rest).takeWhile p = run := by
  rw [List.takeWhile_append_of_pos inside]
  cases rest with
  | nil => simp
  | cons c rest => simp [outside c rfl]

/-! ## Attributes -/

/-- An attribute as a start tag writes it, without the blank before it. -/
def spelling : Attribute → List Char
  | (name, none) => name.toList
  | (name, some value) => name.toList ++ '=' :: '"' :: (value.toList.flatMap escapeChar ++ ['"'])

/-- Attributes as a start tag writes them, each behind a blank. -/
def spellings (attributes : List Attribute) : List Char :=
  attributes.flatMap fun a => ' ' :: spelling a

theorem toList_writeAttribute (a : Attribute) :
    (writeAttribute a).toList = ' ' :: spelling a := by
  obtain ⟨name, value⟩ := a
  cases value with
  | none => simp [writeAttribute, spelling]
  | some value => simp [writeAttribute, spelling, escape]

theorem toList_startTag (tag : String) (attributes : List Attribute) :
    (startTag tag attributes).toList = '<' :: (tag.toList ++ (spellings attributes ++ ['>'])) := by
  simp [startTag, spellings, List.flatMap_map, toList_writeAttribute]

/-- Behind an attribute within a start tag comes a blank with the next one, or the end. -/
theorem spellings_head (attributes : List Attribute) (rest : List Char) :
    ∀ c ∈ (spellings attributes ++ '>' :: rest).head?, c = ' ' ∨ c = '>' := by
  cases attributes with
  | nil => simp [spellings]
  | cons a attributes => simp [spellings]

/-- An attribute with a valid name is written from a small letter on. -/
theorem spelling_eq_cons {a : Attribute} (valid : IsName a.1) :
    ∃ first more, spelling a = first :: more ∧ first ∈ smallLetters := by
  obtain ⟨name, value⟩ := a
  obtain ⟨first, others, spelled, small, _⟩ := valid
  simp only at spelled
  cases value with
  | none => exact ⟨first, others, by simp [spelling, spelled], small⟩
  | some value => exact ⟨first, _, by simp [spelling, spelled]; rfl, small⟩

theorem gap_blank (rest : List Char) : gap (' ' :: rest) = gap rest + 1 := by
  rw [gap]
  · rfl
  · simp

theorem gap_none {c : Char} (rest : List Char) (slash : c ≠ '/')
    (blank : Text.isBlank c = false) : gap (c :: rest) = 0 := by
  rw [gap]
  · simp [slash, blank]
  · simp [slash]

/-- The gap behind an attribute is the blank before the next one, if there is a next one. -/
theorem gap_spellings (attributes : List Attribute) (rest : List Char)
    (names : ∀ a ∈ attributes, IsName a.1) :
    gap (spellings attributes ++ '>' :: rest) = if attributes = [] then 0 else 1 := by
  cases attributes with
  | nil => exact gap_none rest (by decide) (by decide)
  | cons a attributes =>
      obtain ⟨first, more, spelled, small⟩ := spelling_eq_cons (names a List.mem_cons_self)
      obtain ⟨_, _, blank, slash, _, _⟩ := nameChar_facts first (List.mem_append_left _ small)
      simp only [spellings, List.flatMap_cons, spelled, List.cons_append, reduceCtorEq, ↓reduceIte]
      rw [gap_blank, gap_none _ slash blank]

/-- The name of an attribute is read up to its equals sign, or up to what follows it. -/
theorem attributeName_run {name : String} (valid : IsName name) (rest : List Char)
    (outside : ∀ c ∈ rest.head?, c = '=' ∨ c = ' ' ∨ c = '>') :
    attributeName (name.toList ++ rest) = name.toList := by
  obtain ⟨first, others, spelled, small, inside⟩ := valid
  obtain ⟨_, _, blank, slash, _, bracket⟩ := nameChar_facts first (List.mem_append_left _ small)
  rw [spelled, List.cons_append, attributeName]
  simp only [blank, Bool.false_or, slash, bracket, beq_iff_eq, Bool.or_eq_true, or_self,
    ↓reduceIte, List.cons.injEq, true_and]
  apply takeWhile_run
  · intro c member
    obtain ⟨_, _, blank, slash, equals, bracket⟩ := nameChar_facts c (inside c member)
    simp [blank, slash, equals, bracket]
  · intro c member
    rcases outside c member with rfl | rfl | rfl <;> decide

/-- Up to a quote that closes it, a value in quotes is what stands between them. -/
theorem through?_run {run rest : List Char} {c : Char} (inside : ∀ d ∈ run, d ≠ c) :
    through? c (run ++ c :: rest) = some (run.length + 1) := by
  have before : (run ++ c :: rest).takeWhile (· != c) = run :=
    takeWhile_run (by simpa using inside) (by simp)
  simp [through?, before]

/-- A quoted value is read up to its closing quote, whatever follows. -/
theorem valueAtFront?_quoted (value rest : List Char) (inside : ∀ c ∈ value, c ≠ '"') :
    valueAtFront? ('=' :: '"' :: (value ++ '"' :: rest)) = some (value, value.length + 3) := by
  have closing : through? '"' (value ++ '"' :: rest) = some (value.length + 1) :=
    through?_run inside
  have equals : Text.isBlank '=' = false := by decide
  have quote : Text.isBlank '"' = false := by decide
  have marks : ('=' :: '"' :: (value ++ '"' :: rest)).takeWhile Text.isBlank = [] := by
    simp [equals]
  have signs : ('=' :: '"' :: (value ++ '"' :: rest)).takeWhile (· == '=') = ['='] := by simp
  have blanks : ('"' :: (value ++ '"' :: rest)).takeWhile Text.isBlank = [] := by simp [quote]
  unfold valueAtFront?
  simp only [marks, signs, blanks, List.length_nil, List.length_cons, List.drop_zero, Nat.zero_add,
    Nat.add_zero, List.drop_succ_cons, Nat.reduceBEq, Bool.false_eq_true, beq_self_eq_true,
    Bool.or_true, ↓reduceIte, closing, Nat.add_one_sub_one, List.take_left, Option.some.injEq,
    Prod.mk.injEq, true_and]
  omega

/-- Where no equals sign follows a name, there is no value. -/
theorem valueAtFront?_none {rest : List Char}
    (outside : ∀ c ∈ (rest.dropWhile Text.isBlank).head?, c ≠ '=') : valueAtFront? rest = none := by
  have dropped : rest.drop (rest.takeWhile Text.isBlank).length =
      rest.dropWhile Text.isBlank := by
    calc rest.drop (rest.takeWhile Text.isBlank).length
        = (rest.takeWhile Text.isBlank ++ rest.dropWhile Text.isBlank).drop
            (rest.takeWhile Text.isBlank).length := by rw [List.takeWhile_append_dropWhile]
      _ = rest.dropWhile Text.isBlank := List.drop_left
  have signs : (rest.dropWhile Text.isBlank).takeWhile (· == '=') = [] := by
    cases ahead : rest.dropWhile Text.isBlank with
    | nil => rfl
    | cons c more =>
        have := outside c (by simp [ahead])
        simp [this]
  unfold valueAtFront?
  simp only [dropped, signs, List.length_nil, beq_self_eq_true, ↓reduceIte]

/-- No equals sign comes first behind the blanks that follow an attribute. -/
theorem spellings_no_equals (attributes : List Attribute) (rest : List Char)
    (names : ∀ a ∈ attributes, IsName a.1) :
    ∀ c ∈ ((spellings attributes ++ '>' :: rest).dropWhile Text.isBlank).head?, c ≠ '=' := by
  cases attributes with
  | nil =>
      have bracket : Text.isBlank '>' = false := by decide
      simp [spellings, bracket]
  | cons a attributes =>
      obtain ⟨first, more, spelled, small⟩ := spelling_eq_cons (names a List.mem_cons_self)
      obtain ⟨_, _, blank, _, equals, _⟩ := nameChar_facts first (List.mem_append_left _ small)
      have space : Text.isBlank ' ' = true := by decide
      simp [spellings, spelled, space, blank, equals]

/-- An attribute comes back with its name and its value as they were. -/
theorem attributeAtFront?_spelling (a : Attribute) (attributes : List Attribute)
    (valid : IsName a.1) (names : ∀ b ∈ attributes, IsName b.1) (rest : List Char) :
    attributeAtFront? ' ' (spelling a ++ (spellings attributes ++ '>' :: rest)) =
      some (a, (spelling a).length + gap (spellings attributes ++ '>' :: rest)) := by
  obtain ⟨name, value⟩ := a
  have opens : opensAttribute ' ' = true := by decide
  simp only at valid
  have filled : name.toList.isEmpty = false := by
    obtain ⟨first, others, spelled, _, _⟩ := valid
    simp [spelled]
  cases value with
  | none =>
      have named := attributeName_run valid (spellings attributes ++ '>' :: rest)
        fun c ahead => .inr (spellings_head attributes rest c ahead)
      have valueless := valueAtFront?_none (spellings_no_equals attributes rest names)
      unfold attributeAtFront?
      simp only [spelling, named, filled, opens, Bool.not_true, Bool.or_self, Bool.false_eq_true,
        ↓reduceIte, List.drop_left, valueless, valid.lowerName]
  | some value =>
      have resolved := resolveReferences_escape value.toList
      have inside : ∀ c ∈ value.toList.flatMap escapeChar, c ≠ '"' :=
        fun c member => (mem_escape member).2
      simp only [spelling]
      generalize value.toList.flatMap escapeChar = escaped at resolved inside ⊢
      generalize spellings attributes ++ '>' :: rest = behind
      have named := attributeName_run valid ('=' :: '"' :: (escaped ++ '"' :: behind)) (by simp)
      have quoted := valueAtFront?_quoted escaped behind inside
      have passed : (escaped ++ '"' :: behind).drop (escaped.length + 1) = behind := by simp
      unfold attributeAtFront?
      simp only [List.append_assoc, List.cons_append, List.nil_append, named, filled, opens,
        Bool.not_true, Bool.or_self, Bool.false_eq_true, ↓reduceIte, List.drop_left, quoted,
        List.drop_succ_cons, passed, resolved, valid.lowerName, String.ofList_toList]
      simp

/-- Passing over the characters of a beginning leads to what follows it, with its last character
as the one before. -/
theorem attributesBy_append (read : Char → List Char → Option (Attribute × Nat))
    (passed rest : List Char) : ∀ before : Char,
      attributesBy read passed.length before (passed ++ rest) =
        attributesBy read 0 (passed.getLastD before) rest := by
  induction passed with
  | nil => intro before; rfl
  | cons c passed ih =>
      intro before
      rw [List.length_cons, List.cons_append, attributesBy, ih c]
      cases passed <;> rfl

/-- No attribute begins with the bracket that ends a tag. -/
theorem attributes_end (before : Char) (rest : List Char) :
    attributes before ('>' :: rest) = ([], '>' :: rest) := by
  have absent : attributeAtFront? before ('>' :: rest) = none := by
    simp [attributeAtFront?, attributeName]
  rw [attributes, attributesBy, absent]

/-- An attribute at the front is followed by the attributes behind the characters it takes. -/
theorem attributes_cons {a : Attribute} {before : Char} {taken rest : List Char}
    (filled : taken ≠ [])
    (found : attributeAtFront? before (taken ++ rest) = some (a, taken.length)) :
    attributes before (taken ++ rest) =
      (a :: (attributes (taken.getLastD before) rest).1,
        (attributes (taken.getLastD before) rest).2) := by
  cases taken with
  | nil => exact absurd rfl filled
  | cons c taken =>
      have passed := attributesBy_append attributeAtFront? taken rest c
      rw [List.cons_append] at found ⊢
      rw [attributes, attributesBy, found]
      simp only [List.length_cons, Nat.add_one_sub_one, passed]
      cases taken <;> rfl

/-- Attributes come back in order, from the first one on. -/
theorem attributes_spelling (attributes : List Attribute) (rest : List Char) :
    ∀ a : Attribute, IsName a.1 → (∀ b ∈ attributes, IsName b.1) →
      Markup.attributes ' ' (spelling a ++ (spellings attributes ++ '>' :: rest)) =
        (a :: attributes, '>' :: rest) := by
  induction attributes with
  | nil =>
      intro a valid names
      obtain ⟨first, more, spelled, _⟩ := spelling_eq_cons valid
      have found := attributeAtFront?_spelling a [] valid names rest
      rw [gap_spellings [] rest names] at found
      simp only [spellings, List.flatMap_nil, List.nil_append, ↓reduceIte, Nat.add_zero] at found ⊢
      rw [attributes_cons (by simp [spelled]) found, attributes_end]
  | cons b attributes ih =>
      intro a valid names
      have found := attributeAtFront?_spelling a (b :: attributes) valid names rest
      rw [gap_spellings _ rest names] at found
      have split : spelling a ++ (spellings (b :: attributes) ++ '>' :: rest) =
          (spelling a ++ [' ']) ++ (spelling b ++ (spellings attributes ++ '>' :: rest)) := by
        simp [spellings]
      rw [split] at found ⊢
      have taken : (spelling a).length + 1 = (spelling a ++ [' ']).length := by simp
      simp only [reduceCtorEq, ↓reduceIte, taken] at found
      rw [attributes_cons (by simp) found, List.getLastD_concat,
        ih b (names b List.mem_cons_self) fun c member => names c (List.mem_cons_of_mem _ member)]

/-! ## Tags -/

/-- The name of a tag is read up to the blank before its attributes, or up to its end. -/
theorem takeWhile_tag {tag : String} (valid : IsName tag) (attributes : List Attribute)
    (rest : List Char) :
    (tag.toList ++ (spellings attributes ++ '>' :: rest)).takeWhile isTagChar = tag.toList := by
  apply takeWhile_run
  · intro c member
    exact (nameChar_facts c (valid.mem c member)).1
  · intro c ahead
    rcases spellings_head attributes rest c ahead with rfl | rfl <;> decide

/-- What stands between the name of a start tag and its end is read as its attributes. -/
theorem attributes_behind_tag (attributes : List Attribute) (names : ∀ a ∈ attributes, IsName a.1)
    (before : List Char) (rest : List Char) :
    let behind := spellings attributes ++ '>' :: rest
    Markup.attributes (((before ++ behind).drop (before.length + gap behind - 1)).headD '<')
        (behind.drop (gap behind)) = (attributes, '>' :: rest) := by
  intro behind
  cases attributes with
  | nil =>
      have none : gap behind = 0 := gap_spellings [] rest names
      rw [none]
      exact attributes_end _ rest
  | cons a attributes =>
      have one : gap behind = 1 := gap_spellings (a :: attributes) rest names
      have spelled : behind = ' ' :: (spelling a ++ (spellings attributes ++ '>' :: rest)) := by
        simp [behind, spellings]
      rw [one, Nat.add_sub_cancel, List.drop_left, spelled]
      exact attributes_spelling attributes rest a (names a List.mem_cons_self)
        fun b member => names b (List.mem_cons_of_mem _ member)

/-- **Start tags come back.** A start tag that was written is one token with the tag and the
attributes it was written from, whatever follows it. Raw text follows it if its element holds raw
text. -/
theorem startTagAtFront?_written {tag : String} (valid : IsName tag)
    (attributes : List Attribute) (names : ∀ a ∈ attributes, IsName a.1) (rest : List Char) :
    startTagAtFront? ((startTag tag attributes).toList ++ rest) =
      some ⟨[.startTag tag attributes false], (startTag tag attributes).toList.length,
        if rawElements.contains tag then some tag else none⟩ := by
  have spelled : (startTag tag attributes).toList ++ rest =
      '<' :: (tag.toList ++ (spellings attributes ++ '>' :: rest)) := by
    simp [toList_startTag]
  have length : (startTag tag attributes).toList.length =
      tag.toList.length + (spellings attributes).length + 2 := by
    simp [toList_startTag]
    omega
  have found := attributes_behind_tag attributes names ('<' :: tag.toList) rest
  rw [spelled, length]
  unfold startTagAtFront?
  simp only [List.drop_succ_cons, List.drop_zero, takeWhile_tag valid, Nat.add_comm 1,
    List.drop_left]
  simp only [List.length_cons, List.cons_append, Nat.add_right_comm _ 1, Nat.add_sub_cancel]
    at found
  simp only [found, valid.lowerName, List.length_cons, List.length_append, Option.some.injEq,
    Lexeme.mk.injEq, true_and, and_true]
  omega

/-- An end tag that was written holds nothing but its name. -/
theorem plainEndTag?_run {tag : String} (valid : IsName tag) (rest : List Char) :
    plainEndTag? ('<' :: '/' :: (tag.toList ++ '>' :: rest)) =
      some (tag.toList, tag.toList.length + 3) := by
  have name : (tag.toList ++ '>' :: rest).takeWhile isEndTagChar = tag.toList := by
    apply takeWhile_run
    · intro c member
      exact (nameChar_facts c (valid.mem c member)).2.1
    · intro c ahead
      obtain rfl := Option.mem_some_iff.mp ahead
      decide
  obtain ⟨first, others, spelled, small, _⟩ := valid
  have blank := (nameChar_facts first (List.mem_append_left _ small)).2.2.1
  have before : (tag.toList ++ '>' :: rest).takeWhile Text.isBlank = [] := by
    simp [spelled, blank]
  have after : ('>' :: rest).takeWhile Text.isBlank = [] :=
    List.takeWhile_cons_of_neg (by decide)
  have letter : (tag.toList.head?.map Text.isAsciiLetter).getD false = true := by
    simp [spelled, smallLetter_isAsciiLetter first small]
  unfold plainEndTag?
  simp only [before, List.length_nil, List.drop_zero, name, Nat.zero_add, List.drop_left, after,
    letter, List.head?_cons, beq_self_eq_true, Bool.and_self, ↓reduceIte, Option.some.injEq,
    Prod.mk.injEq, true_and]
  omega

/-- **End tags come back.** An end tag that was written is one token with the tag it was written
from, whatever follows it. -/
theorem endTagAtFront?_endTag {tag : String} (valid : IsName tag) (rest : List Char) :
    endTagAtFront? ((endTag tag).toList ++ rest) =
      some ⟨[.endTag tag], (endTag tag).toList.length, none⟩ := by
  have spelled : (endTag tag).toList ++ rest =
      ('<' :: '/' :: tag.toList) ++ '>' :: rest := by
    simp [endTag]
  have length : (endTag tag).toList.length = tag.toList.length + 3 := by
    simp [endTag]
  have inside : ∀ c ∈ '<' :: '/' :: tag.toList, c ≠ '>' := by
    intro c member
    rcases List.mem_cons.mp member with rfl | member
    · decide
    rcases List.mem_cons.mp member with rfl | member
    · decide
    exact (nameChar_facts c (valid.mem c member)).2.2.2.2.2
  have closed := @through?_run _ rest _ inside
  rw [spelled, length]
  unfold endTagAtFront?
  simp only [closed]
  simp only [List.cons_append, plainEndTag?_run valid, valid.lowerName]

/-! ## Lexemes -/

theorem lexemeAtFront_written {tag : String} (valid : IsName tag) (attributes : List Attribute)
    (names : ∀ a ∈ attributes, IsName a.1) (rest : List Char) :
    lexemeAtFront ((startTag tag attributes).toList ++ rest) =
      .ok ⟨[.startTag tag attributes false], (startTag tag attributes).toList.length,
        if rawElements.contains tag then some tag else none⟩ := by
  have found := startTagAtFront?_written valid attributes names rest
  obtain ⟨first, others, spelled, small, _⟩ := valid
  have opening : (startTag tag attributes).toList ++ rest =
      '<' :: first :: (others ++ (spellings attributes ++ '>' :: rest)) := by
    simp [toList_startTag, spelled]
  rw [opening] at found ⊢
  simp only [lexemeAtFront, smallLetter_isAsciiLetter first small, ↓reduceIte, found,
    Option.getD_some]

theorem lexemeAtFront_startTag {tag : String} (valid : IsName tag)
    (plain : rawElements.contains tag = false) (attributes : List Attribute)
    (names : ∀ a ∈ attributes, IsName a.1) (rest : List Char) :
    lexemeAtFront ((startTag tag attributes).toList ++ rest) =
      .ok ⟨[.startTag tag attributes false], (startTag tag attributes).toList.length, none⟩ := by
  have found := lexemeAtFront_written valid attributes names rest
  rwa [plain] at found

theorem lexemeAtFront_endTag {tag : String} (valid : IsName tag) (rest : List Char) :
    lexemeAtFront ((endTag tag).toList ++ rest) =
      .ok ⟨[.endTag tag], (endTag tag).toList.length, none⟩ := by
  have found := endTagAtFront?_endTag valid rest
  have opening : (endTag tag).toList ++ rest = '<' :: '/' :: (tag.toList ++ '>' :: rest) := by
    simp [endTag]
  have letter : Text.isAsciiLetter '/' = false := by decide
  rw [opening] at found ⊢
  simp only [lexemeAtFront, letter, Bool.false_eq_true, ↓reduceIte, beq_self_eq_true, found,
    Option.getD_some]

/-- **Texts come back.** A text that was escaped is one token with the text as it was, up to the
next tag. -/
theorem lexemeAtFront_escape {s : List Char} (filled : s ≠ []) {rest : List Char}
    (outside : ∀ c ∈ rest.head?, c = '<') :
    lexemeAtFront (s.flatMap escapeChar ++ rest) =
      .ok ⟨[.text (String.ofList s)], (s.flatMap escapeChar).length, none⟩ := by
  have run : (s.flatMap escapeChar ++ rest).takeWhile (· != '<') = s.flatMap escapeChar := by
    apply takeWhile_run
    · intro c member
      simpa using (mem_escape member).1
    · intro c ahead
      simp [outside c ahead]
  have resolved := resolveReferences_escape s
  have inside : ∀ c ∈ s.flatMap escapeChar, c ≠ '<' := fun c member => (mem_escape member).1
  have written := escape_ne_nil filled
  generalize s.flatMap escapeChar = escaped at run resolved inside written ⊢
  cases escaped with
  | nil => exact absurd rfl written
  | cons c escaped =>
      have different := inside c List.mem_cons_self
      rw [List.cons_append] at run ⊢
      unfold lexemeAtFront
      split
      · rename_i same
        exact absurd (List.cons.inj same).1 different
      · rename_i same
        exact absurd (List.cons.inj same).1 different
      · simp only [run, textToken, resolved]

end Wireframe.Markup
