import Mathlib.Data.List.TakeWhile
import Mathlib.Tactic.SplitIfs
import Wireframe.Export.Jsx
import Wireframe.Proofs.Text.Literal

/-! # Reading JSX

The trees that JSX shows, and how they are read. Between tags stand raw text and string
expressions. Raw text is cut at every line break, and the trimmed pieces that are not
empty are joined by single spaces; what is left is one text. A value between quotes is
taken as it stands, and a string expression for what it denotes. Character references
and expressions of any other kind are not read.
-/

namespace Wireframe.Export.Jsx

/-- What a property is set to: nothing but that it is set, a string, or a list of strings. -/
inductive Value where
  | set
  | text (s : String)
  | texts (all : List String)
deriving DecidableEq, Repr

/-- A property with its value. -/
abbrev Property := String × Value

/-- A text, or an element with its properties and what it holds. -/
inductive Node where
  | text (s : String)
  | element (tag : String) (properties : List Property) (children : List Node)

/-! ## Raw text -/

/-- A character at which raw text is cut. -/
def cutsText (c : Char) : Bool :=
  c == '\n' || c == '\r' || c.toNat == 0x2028 || c.toNat == 0x2029

/-- What raw text shows. -/
def clean (s : List Char) : List Char :=
  [' '].intercalate (((s.splitOnP cutsText).map Text.trim).filter fun piece => !piece.isEmpty)

/-! ## Tokens -/

/-- A token: a character of raw text, a string expression, or a tag. -/
inductive Token where
  | raw (c : Char)
  | literal (s : String)
  | opening (tag : String) (properties : List Property) (closed : Bool)
  | closing (tag : String)

/-- A character of a name. -/
def isNameChar (c : Char) : Bool := Text.isAsciiLetter c || Text.isAsciiDigit c || c == '-'

/-- The strings in a list of literals, read from behind its bracket, and what follows the list. -/
def quotedAll? (s : List Char) : Option (List String × List Char) :=
  match Text.quoted? s with
  | some (first, ']' :: rest) => some ([first], rest)
  | some (first, ',' :: rest) =>
    let next := rest.dropWhile Text.isBlank
    if next.length < s.length then
      (quotedAll? next).map fun (more, behind) => (first :: more, behind)
    else none
  | _ => none
termination_by s.length

/-- The value of a property, read from behind the equals sign, and what follows it. -/
def value? : List Char → Option (Value × List Char)
  | '"' :: rest =>
    let value := rest.takeWhile (· != '"')
    match rest.dropWhile (· != '"') with
    | [] => none
    | _ :: behind =>
      if value.contains '&' then none else some (.text (String.ofList value), behind)
  | '\x7b' :: '[' :: rest =>
    match quotedAll? rest with
    | some (all, '\x7d' :: behind) => some (.texts all, behind)
    | _ => none
  | '\x7b' :: rest =>
    match Text.quoted? rest with
    | some (s, '\x7d' :: behind) => some (.text s, behind)
    | _ => none
  | _ => none

/-- The property at the front of a text, and what follows it. -/
def property? (s : List Char) : Option (Property × List Char) :=
  let name := s.takeWhile isNameChar
  let behind := s.dropWhile isNameChar
  if name.isEmpty then none
  else if behind.head? == some '=' then
    (value? (behind.drop 1)).map fun (value, rest) => ((String.ofList name, value), rest)
  else some ((String.ofList name, .set), behind)

/-- The properties in a tag, and what follows them and the blanks behind them. -/
def properties? (s : List Char) : Option (List Property × List Char) :=
  let front := s.dropWhile Text.isBlank
  match property? front with
  | none => some ([], front)
  | some (first, rest) =>
    if rest.length < s.length then
      (properties? rest).map fun (more, behind) => (first :: more, behind)
    else none
termination_by s.length

/-- The tag that ends an element, read from behind its slash. -/
def closing? (s : List Char) : Option (Token × List Char) :=
  match s.dropWhile isNameChar with
  | '>' :: rest => some (.closing (String.ofList (s.takeWhile isNameChar)), rest)
  | _ => none

/-- The tag that begins an element, read from behind its bracket. -/
def opening? (s : List Char) : Option (Token × List Char) :=
  let tag := String.ofList (s.takeWhile isNameChar)
  match properties? (s.dropWhile isNameChar) with
  | some (found, '>' :: rest) => some (.opening tag found false, rest)
  | some (found, '/' :: '>' :: rest) => some (.opening tag found true, rest)
  | _ => none

/-- The token at the front of a text, and what follows it. -/
def token? : List Char → Option (Token × List Char)
  | [] => none
  | c :: rest =>
    if c == '<' then
      if rest.head? == some '/' then closing? (rest.drop 1) else opening? rest
    else if c == '\x7b' then
      match Text.quoted? rest with
      | some (s, '\x7d' :: behind) => some (.literal s, behind)
      | _ => none
    else if c == '>' || c == '\x7d' || c == '&' then none
    else some (.raw c, rest)

/-! ## Trees -/

/-- What has been read: the raw text that is still open, the nodes that stand in the innermost
element so far, the last first, and the elements around it with the nodes before them. -/
structure Partial where
  raw : List Char
  nodes : List Node
  enclosing : List (String × List Property × List Node)

namespace Partial

/-- Ends the raw text that is open. -/
def flush (p : Partial) : Partial :=
  ⟨[], if (clean p.raw).isEmpty then p.nodes else .text (String.ofList (clean p.raw)) :: p.nodes,
    p.enclosing⟩

/-- Takes the next token. -/
def step (p : Partial) : Token → Option Partial
  | .raw c => some { p with raw := p.raw ++ [c] }
  | .literal s => some { p.flush with nodes := .text s :: p.flush.nodes }
  | .opening tag properties closed =>
    if closed then
      some { p.flush with nodes := .element tag properties [] :: p.flush.nodes }
    else some ⟨[], [], (tag, properties, p.flush.nodes) :: p.enclosing⟩
  | .closing tag =>
    match p.enclosing with
    | [] => none
    | (opened, properties, before) :: enclosing =>
      if opened == tag then
        some ⟨[], .element tag properties p.flush.nodes.reverse :: before, enclosing⟩
      else none

end Partial

/-- Reads a text on from what has been read. -/
def readFrom (p : Partial) (s : List Char) : Option Partial :=
  if s.isEmpty then some p
  else
    match token? s with
    | none => none
    | some (t, rest) =>
      if rest.length < s.length then
        match p.step t with
        | none => none
        | some q => readFrom q rest
      else none
termination_by s.length

/-- Reads a text as nodes. -/
def read? (s : List Char) : Option (List Node) :=
  match readFrom ⟨[], [], []⟩ s with
  | some p => if p.enclosing.isEmpty then some p.flush.nodes.reverse else none
  | none => none

example : (read? "<p id=\"a\">x\r y</p>\n".toList).isSome = true := by cbv

/-! ## What raw text shows -/

section

open Text

theorem trim_sublist (s : List Char) : (trim s).Sublist s := by
  have start : (trimStart s).Sublist s := List.dropWhile_sublist _
  have ending : (trim s).reverse.Sublist (trimStart s).reverse := by
    rw [trim, trimEnd, List.reverse_reverse]
    exact List.dropWhile_sublist _
  exact (List.reverse_sublist.mp ending).trans start

theorem trim_blank {c : Char} (blank : isBlank c = true) (s : List Char) :
    trim (c :: s) = trim s := by
  rw [trim, trim, trimStart, List.dropWhile_cons_of_pos blank, ← trimStart]

theorem trimStart_concat {c : Char} (s : List Char) (filled : trimStart s ≠ []) :
    trimStart (s ++ [c]) = trimStart s ++ [c] := by
  unfold trimStart at filled ⊢
  induction s with
  | nil => exact absurd rfl filled
  | cons d s ih =>
      by_cases blank : isBlank d = true
      · rw [List.dropWhile_cons_of_pos blank] at filled
        rw [List.cons_append, List.dropWhile_cons_of_pos blank, List.dropWhile_cons_of_pos blank]
        exact ih filled
      · rw [List.cons_append, List.dropWhile_cons_of_neg blank, List.dropWhile_cons_of_neg blank,
          List.cons_append]

theorem trim_concat_blank {c : Char} (blank : isBlank c = true) (s : List Char) :
    trim (s ++ [c]) = trim s := by
  by_cases empty : trimStart s = []
  · have all : ∀ d ∈ s, isBlank d = true := List.dropWhile_eq_nil_iff.mp empty
    have dropped : trimStart (s ++ [c]) = [] := by
      rw [trimStart, List.dropWhile_eq_nil_iff]
      simpa [blank, or_imp, forall_and] using all
    rw [trim, trim, empty, dropped]
  · rw [trim, trim, trimStart_concat s empty, trimEnd, trimEnd, List.reverse_append]
    simp [blank]

theorem not_blank_of_trim {c : Char} {s : List Char} (trimmed : trim (c :: s) = c :: s) :
    isBlank c = false := by
  by_contra blank
  rw [trim_blank (by simpa using blank)] at trimmed
  have shorter := (trim_sublist s).length_le
  rw [trimmed, List.length_cons] at shorter
  omega

theorem trim_ne_nil {c : Char} (filled : isBlank c = false) (s : List Char) :
    trim (c :: s) ≠ [] := by
  intro empty
  have all := List.dropWhile_eq_nil_iff.mp (List.reverse_eq_nil_iff.mp empty)
  have blank := all c (by simp [trimStart, filled])
  rw [filled] at blank
  cases blank

end

theorem isBlank_of_cutsText {c : Char} (cuts : cutsText c = true) : Text.isBlank c = true := by
  simp only [cutsText, Bool.or_eq_true, beq_iff_eq] at cuts
  rcases cuts with ((rfl | rfl) | separator) | separator
  · decide
  · decide
  · simp [Text.isBlank, Text.isWhiteSpace, separator]
  · simp [Text.isBlank, Text.isWhiteSpace, separator]

/-- The trimmed pieces of raw text that are not empty. -/
def pieces (s : List Char) : List (List Char) :=
  ((s.splitOnP cutsText).map Text.trim).filter fun piece => !piece.isEmpty

theorem clean_eq (s : List Char) : clean s = [' '].intercalate (pieces s) := rfl

theorem pieces_blank_cons {c : Char} (blank : Text.isBlank c = true) (s : List Char) :
    pieces (c :: s) = pieces s := by
  unfold pieces
  rw [List.splitOnP_cons_eq_if_modifyHead]
  split_ifs
  · simp [Text.trim, Text.trimStart, Text.trimEnd]
  · cases s.splitOnP cutsText with
    | nil => rfl
    | cons first more =>
        rw [List.modifyHead_cons, List.map_cons, List.map_cons, trim_blank blank]

theorem splitOnP_concat {c : Char} (within : cutsText c = false) (s : List Char) :
    ∃ before last, s.splitOnP cutsText = before ++ [last] ∧
      (s ++ [c]).splitOnP cutsText = before ++ [last ++ [c]] := by
  induction s with
  | nil => exact ⟨[], [], by simp, by simp [List.splitOnP_cons_eq_if_modifyHead, within]⟩
  | cons d s ih =>
      obtain ⟨before, last, split, longer⟩ := ih
      rw [List.cons_append, List.splitOnP_cons_eq_if_modifyHead,
        List.splitOnP_cons_eq_if_modifyHead, split, longer]
      split_ifs
      · exact ⟨[] :: before, last, rfl, rfl⟩
      · cases before with
        | nil => exact ⟨[], d :: last, rfl, rfl⟩
        | cons first before => exact ⟨(d :: first) :: before, last, rfl, rfl⟩

theorem pieces_concat_blank {c : Char} (blank : Text.isBlank c = true) (s : List Char) :
    pieces (s ++ [c]) = pieces s := by
  unfold pieces
  by_cases cuts : cutsText c = true
  · rw [List.splitOnP_append_cons _ _ cuts]
    simp [Text.trim, Text.trimStart, Text.trimEnd]
  · obtain ⟨before, last, split, longer⟩ := splitOnP_concat (by simpa using cuts) s
    simp only [split, longer, List.map_append, List.map_cons, List.map_nil,
      trim_concat_blank blank]

/-- Blanks around raw text show nothing. -/
theorem clean_blanks (before s after : List Char)
    (blankBefore : ∀ c ∈ before, Text.isBlank c = true)
    (blankAfter : ∀ c ∈ after, Text.isBlank c = true) :
    clean (before ++ s ++ after) = clean s := by
  rw [clean_eq, clean_eq]
  congr 1
  -- The blanks behind come off first, whatever is before them, and then those in front.
  have behind (t : List Char) : pieces (t ++ after) = pieces t := by
    induction after generalizing t with
    | nil => rw [List.append_nil]
    | cons c after ih =>
        rw [List.forall_mem_cons] at blankAfter
        rw [← List.singleton_append, ← List.append_assoc, ih blankAfter.2,
          pieces_concat_blank blankAfter.1]
  rw [behind]
  induction before with
  | nil => rfl
  | cons c before ih =>
      rw [List.forall_mem_cons] at blankBefore
      rw [List.cons_append, pieces_blank_cons blankBefore.1, ih blankBefore.2]

theorem clean_of_blank {s : List Char} (blank : ∀ c ∈ s, Text.isBlank c = true) :
    clean s = [] := by
  have none := clean_blanks s [] [] blank (by simp)
  rw [List.append_nil, List.append_nil] at none
  rw [none]
  rfl

theorem clean_ne_nil {c : Char} (filled : Text.isBlank c = false) (s : List Char) :
    clean (c :: s) ≠ [] := by
  have within : cutsText c = false := by
    by_contra cuts
    rw [isBlank_of_cutsText (by simpa using cuts)] at filled
    cases filled
  rw [clean_eq, pieces, List.splitOnP_cons_eq_if_modifyHead, within]
  cases split : s.splitOnP cutsText with
  | nil => exact absurd split (List.splitOnP_ne_nil _ _)
  | cons first more =>
      have kept := trim_ne_nil filled first
      simp only [Bool.false_eq_true, ↓reduceIte, List.modifyHead_cons, List.map_cons]
      rw [List.filter_cons_of_pos (by simpa using kept)]
      generalize (List.map Text.trim more).filter _ = others
      cases others with
      | nil => simpa using kept
      | cons next others => simp [kept]

/-- Raw text on one line without blanks at its ends shows itself. -/
theorem clean_of_trimmed {s : List Char} (trimmed : Text.trim s = s)
    (whole : ∀ c ∈ s, cutsText c = false) : clean s = s := by
  rw [clean_eq, pieces, List.splitOnP_eq_singleton whole, List.map_singleton, trimmed]
  cases s <;> simp

theorem cutsText_of_mem_splitOnP {s piece : List Char} (member : piece ∈ s.splitOnP cutsText) :
    ∀ c ∈ piece, cutsText c = false := by
  induction s generalizing piece with
  | nil =>
      rw [List.splitOnP_nil, List.mem_singleton] at member
      simp [member]
  | cons d s ih =>
      rw [List.splitOnP_cons_eq_if_modifyHead] at member
      split_ifs at member with cuts
      · rcases List.mem_cons.mp member with rfl | member
        · simp
        · exact ih member
      · cases split : s.splitOnP cutsText with
        | nil => exact absurd split (List.splitOnP_ne_nil _ _)
        | cons first more =>
            rw [split] at member ih
            rw [List.modifyHead_cons] at member
            rcases List.mem_cons.mp member with rfl | member
            · simpa [cuts] using ih List.mem_cons_self
            · exact ih (List.mem_cons_of_mem _ member)

/-- No line breaks within what raw text shows. -/
theorem cutsText_of_mem_clean {c : Char} {s : List Char} (shown : c ∈ clean s) :
    cutsText c = false := by
  have apart : cutsText ' ' = false := by decide
  have inside : ∀ piece ∈ pieces s, ∀ d ∈ piece, cutsText d = false := by
    intro piece member d held
    obtain ⟨found, _⟩ := List.mem_filter.mp member
    obtain ⟨whole, split, rfl⟩ := List.mem_map.mp found
    exact cutsText_of_mem_splitOnP split d ((trim_sublist whole).mem held)
  rw [clean_eq] at shown
  generalize pieces s = all at shown inside
  induction all with
  | nil => simp at shown
  | cons first more ih =>
      rw [List.forall_mem_cons] at inside
      cases more with
      | nil => exact inside.1 c (by simpa using shown)
      | cons next more =>
          rw [List.intercalate_cons_cons, List.append_assoc] at shown
          rcases List.mem_append.mp shown with held | shown
          · exact inside.1 c held
          rcases List.mem_append.mp shown with between | shown
          · rw [List.mem_singleton.mp between]
            exact apart
          · exact ih shown inside.2

end Wireframe.Export.Jsx
