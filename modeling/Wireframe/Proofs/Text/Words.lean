import Mathlib.Tactic.SplitIfs
import Wireframe.Text.Blank

/-! # Words of a text

The words of a text hold no blanks (`Wireframe.Text.mem_words`), and such runs with blanks
between them are the words of a text (`Wireframe.Text.words_spaced`).
-/

namespace Wireframe.Text

theorem wordsFrom_facts (s : List Char) : ∀ current : List Char,
    (∀ c ∈ current, isBlank c = false) → ∀ w ∈ wordsFrom current s,
      w ≠ [] ∧ ∀ c ∈ w, isBlank c = false := by
  induction s with
  | nil =>
      intro current filled w member
      unfold wordsFrom at member
      split_ifs at member with empty
      · cases member
      · obtain rfl := List.mem_singleton.mp member
        exact ⟨by simpa using empty, by simpa using filled⟩
  | cons c s ih =>
      intro current filled w member
      unfold wordsFrom at member
      split_ifs at member with blank empty
      · exact ih [] (by simp) w member
      · rcases List.mem_cons.mp member with rfl | later
        · exact ⟨by simpa using empty, by simpa using filled⟩
        · exact ih [] (by simp) w later
      · exact ih (c :: current) (List.forall_mem_cons.mpr ⟨by simpa using blank, filled⟩) w member

theorem mem_words {s w : List Char} (member : w ∈ words s) :
    w ≠ [] ∧ ∀ c ∈ w, isBlank c = false :=
  wordsFrom_facts s [] (by simp) w member

theorem wordsFrom_append {w : List Char} (filled : ∀ c ∈ w, isBlank c = false)
    (current rest : List Char) :
    wordsFrom current (w ++ rest) = wordsFrom (w.reverse ++ current) rest := by
  induction w generalizing current with
  | nil => rfl
  | cons c w ih =>
      obtain ⟨here, behind⟩ := List.forall_mem_cons.mp filled
      rw [List.cons_append, wordsFrom, if_neg (by simp [here]), ih behind]
      simp

section

variable {w : List Char} (something : w ≠ []) (filled : ∀ c ∈ w, isBlank c = false)
include something filled

theorem words_of_word : words w = [w] := by
  have whole := wordsFrom_append filled [] []
  rw [List.append_nil, List.append_nil] at whole
  rw [words, whole, wordsFrom, if_neg (by simpa using something), List.reverse_reverse]

theorem words_spaced (rest : List Char) : words (w ++ ' ' :: rest) = w :: words rest := by
  rw [words, wordsFrom_append filled, List.append_nil, wordsFrom, if_pos (by decide),
    if_neg (by simpa using something), List.reverse_reverse]
  rfl

end

end Wireframe.Text
