import Mathlib.Data.List.Chain
import Wireframe.Proofs.Markup.Contents

/-! # Raw text

Raw text ends only at an end tag. A text in which no end tag begins is all of the raw text in
front of one (`Wireframe.Markup.tokensFrom_rawElement`).

Pieces of markup whose tokens do not depend on what follows are put together by
`Wireframe.Markup.Gives.append`.
-/

namespace Wireframe.Markup

/-! ## End tags in raw text -/

/-- A text in which no end tag begins. -/
def Quiet (s : List Char) : Prop := s.IsChain fun c d => ¬(c = '<' ∧ d = '/')

theorem sameLetter_nameChar : ∀ c ∈ nameChars, sameLetter c c = true :=
  List.all_iff_forall_prop.mp (by decide)

theorem sameLetters {s : List Char} (named : ∀ c ∈ s, c ∈ nameChars) :
    (s.zip s).all (fun (a, b) => sameLetter a b) = true := by
  induction s with
  | nil => rfl
  | cons c s ih =>
      rw [List.forall_mem_cons] at named
      simp [sameLetter_nameChar c named.1, ih named.2]

/-- The end tag of the element ends its raw text. -/
theorem rawEnd?_endTag {tag : String} (valid : IsName tag) (rest : List Char) :
    rawEnd? tag.toList ((endTag tag).toList ++ rest) = some (endTag tag).toList.length := by
  have spelled : (endTag tag).toList ++ rest = '<' :: '/' :: (tag.toList ++ '>' :: rest) := by
    simp [endTag]
  have length : (endTag tag).toList.length = tag.toList.length + 3 := by simp [endTag]
  have letters := sameLetters valid.mem
  have bracket : afterBlanks? ['>'] ('>' :: rest) = some 1 := by
    have blank : Text.isBlank '>' = false := by decide
    simp [afterBlanks?, blank]
  obtain ⟨first, others, named, small, _⟩ := valid
  have blank := (nameChar_facts first (List.mem_append_left _ small)).2.2.1
  have before : (tag.toList ++ '>' :: rest).takeWhile Text.isBlank = [] := by
    simp [named, blank]
  rw [spelled, length]
  simp only [rawEnd?, before, List.length_nil, List.drop_zero, Nat.zero_add, List.take_left,
    beq_self_eq_true, letters, Bool.and_self, ↓reduceIte, List.drop_left, bracket, Option.map_some,
    Option.some.injEq]
  omega

theorem rawEnd?_quiet {tag : List Char} {c : Char} {rest : List Char}
    (quiet : ¬(c = '<' ∧ rest.head? = some '/')) : rawEnd? tag (c :: rest) = none := by
  unfold rawEnd?
  split
  · rename_i behind same
    cases same
    exact absurd ⟨rfl, rfl⟩ quiet
  · rfl

/-- The first end of raw text is where a text ends in which no end tag begins. -/
theorem throughMatch?_quiet {tag : List Char} {s rest : List Char} {length : Nat}
    (quiet : Quiet s) (opening : ∀ c ∈ rest.head?, c = '<')
    (ends : rawEnd? tag rest = some length) :
    throughMatch? (fun t => (rawEnd? tag t).map fun _ => 0) (s ++ rest) = some s.length := by
  induction s with
  | nil =>
      cases rest with
      | nil => cases ends
      | cons c rest => simp [throughMatch?, ends]
  | cons c s ih =>
      have later : Quiet s := List.IsChain.tail quiet
      have here : rawEnd? tag (c :: (s ++ rest)) = none := by
        apply rawEnd?_quiet
        rintro ⟨rfl, slash⟩
        -- At the end of the text the slash would have to be the first character behind it.
        cases s with
        | nil => cases opening '/' slash
        | cons d s =>
            have apart := (List.isChain_cons_cons.mp quiet).1
            exact apart ⟨rfl, Option.some.inj slash⟩
      rw [List.cons_append, throughMatch?]
      simp [here, ih later]

/-! ## Tokens of raw text -/

theorem rawAtFront?_quiet {tag : String} (valid : IsName tag) {s : List Char} (filled : s ≠ [])
    (quiet : Quiet s) (rest : List Char) :
    rawAtFront? tag (s ++ ((endTag tag).toList ++ rest)) =
      some ⟨[.text (String.ofList s), .endTag tag], s.length + (endTag tag).toList.length,
        none⟩ := by
  have ends := rawEnd?_endTag valid rest
  have first := throughMatch?_quiet quiet (head_endTag tag rest) ends
  have plain : plainEndTag? ((endTag tag).toList ++ rest) =
      some (tag.toList, tag.toList.length + 3) := by
    have read := plainEndTag?_run valid rest
    simpa [endTag] using read
  have something : (s.length == 0) = false := by simpa using filled
  unfold rawAtFront?
  simp only [first, List.drop_left, List.take_left, ends, plain, something, Option.getD_some,
    Bool.false_eq_true, ↓reduceIte, valid.lowerName, List.singleton_append]

theorem tokensFrom_raw {tag : String} (valid : IsName tag) {s : List Char} (filled : s ≠ [])
    (quiet : Quiet s) (rest : List Char) :
    tokensFrom (some tag) 0 (s ++ ((endTag tag).toList ++ rest)) =
      (.text (String.ofList s) :: .endTag tag :: (tokensFrom none 0 rest).1,
        (tokensFrom none 0 rest).2) := by
  have content := rawAtFront?_quiet valid filled quiet rest
  rw [← List.append_assoc, ← List.length_append] at content
  rw [← List.append_assoc]
  cases s with
  | nil => exact absurd rfl filled
  | cons c s =>
      rw [List.cons_append, List.cons_append] at content ⊢
      rw [tokensFrom, content]
      simp only [List.length_cons, Nat.add_one_sub_one, tokensFrom_append, List.cons_append,
        List.nil_append]

/-- **Raw text ends at its end tag.** A start tag of an element that holds raw text, a text in which
no end tag begins, and the end tag are read as such, and then comes what follows. -/
theorem tokensFrom_rawElement {tag : String} (valid : IsName tag)
    (raw : rawElements.contains tag = true) {attributes : List Attribute}
    (names : ∀ a ∈ attributes, IsName a.1) {s : List Char} (filled : s ≠ []) (quiet : Quiet s)
    (rest : List Char) :
    tokensFrom none 0 ((startTag tag attributes).toList ++ (s ++ ((endTag tag).toList ++ rest))) =
      (.startTag tag attributes false :: .text (String.ofList s) :: .endTag tag ::
        (tokensFrom none 0 rest).1, (tokensFrom none 0 rest).2) := by
  have opening := lexemeAtFront_written valid attributes names
    (s ++ ((endTag tag).toList ++ rest))
  rw [raw, if_pos rfl] at opening
  rw [tokensFrom_lexeme (by simp [toList_startTag]) opening, tokensFrom_raw valid filled quiet]
  rfl

/-! ## Pieces of markup -/

/-- A text gives tokens, whatever follows it. -/
def Gives (s : List Char) (found : List Token) : Prop :=
  ∀ rest, tokensFrom none 0 (s ++ rest) =
    (found ++ (tokensFrom none 0 rest).1, (tokensFrom none 0 rest).2)

theorem Gives.append {s t : List Char} {found more : List Token} (first : Gives s found)
    (second : Gives t more) : Gives (s ++ t) (found ++ more) := by
  intro rest
  rw [List.append_assoc, first, second, List.append_assoc]

theorem Gives.tokens {markup : String} {found : List Token} (gives : Gives markup.toList found) :
    Markup.tokens markup = (found, none) := by
  have all := gives []
  simpa [Markup.tokens, tokensFrom] using all

section

variable {ms : List Markup}

/-- Well-formed trees and then a tag. -/
theorem gives_tag (written : AllWellFormed ms) {s : List Char} {found : List Token}
    (opening : ∀ rest, ∀ c ∈ (s ++ rest).head?, c = '<') (gives : Gives s found) :
    Gives ((writeAll ms).toList ++ s) (flow "" ms ++ found) := by
  intro rest
  have before := tokensFrom_writeAll "" ms written (s ++ rest) (opening rest)
  rw [String.toList_empty, List.flatMap_nil, List.nil_append, gives] at before
  rw [List.append_assoc, before, List.append_assoc]

theorem gives_startTag (tag : String) (attributes : List Attribute) (written : AllWellFormed ms)
    (valid : IsName tag) (plain : rawElements.contains tag = false) (names : ∀ a ∈ attributes, IsName a.1) :
    Gives ((writeAll ms).toList ++ (startTag tag attributes).toList)
      (flow "" ms ++ [.startTag tag attributes false]) := by
  apply gives_tag written (head_startTag tag attributes)
  intro rest
  exact tokensFrom_lexeme (by simp [toList_startTag])
    (lexemeAtFront_startTag valid plain attributes names rest)

theorem gives_endTag (tag : String) (written : AllWellFormed ms) (valid : IsName tag) :
    Gives ((writeAll ms).toList ++ (endTag tag).toList) (flow "" ms ++ [.endTag tag]) := by
  apply gives_tag written (head_endTag tag)
  intro rest
  exact tokensFrom_lexeme (by simp [endTag]) (lexemeAtFront_endTag valid rest)

theorem gives_rawElement (tag : String) (attributes : List Attribute)
    (written : AllWellFormed ms) (valid : IsName tag) (raw : rawElements.contains tag = true)
    (names : ∀ a ∈ attributes, IsName a.1) {s : List Char} (filled : s ≠ []) (quiet : Quiet s) :
    Gives ((writeAll ms).toList ++
        ((startTag tag attributes).toList ++ (s ++ (endTag tag).toList)))
      (flow "" ms ++ [.startTag tag attributes false, .text (String.ofList s), .endTag tag]) := by
  apply gives_tag written
  · intro rest
    rw [List.append_assoc]
    exact head_startTag tag attributes _
  · intro rest
    have read := tokensFrom_rawElement valid raw names filled quiet rest
    simpa using read

end

end Wireframe.Markup
