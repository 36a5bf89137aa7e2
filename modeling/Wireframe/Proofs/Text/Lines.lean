import Mathlib.Tactic.SplitIfs
import Wireframe.Text.Blank
import Wireframe.Text.Lines

/-! # Lines and line feeds

What becomes of a text that is cut at every line boundary, where its reader takes line feeds
alone for the ends of lines. Apart from blank lines the two ways agree exactly if no line that
is not blank holds another boundary (`Wireframe.Text.filled_lines_eq_iff`).
-/

namespace Wireframe.Text

/-! ## Cutting at boundaries -/

/-- Lines with a character in front of the first. -/
def extend (c : Char) : List (List Char) → List (List Char)
  | [] => [[c]]
  | line :: others => (c :: line) :: others

theorem lines_inner {c : Char} (inner : isLineBoundary c = false) (s : List Char) :
    lines (c :: s) = extend c (lines s) := by
  rw [lines, if_neg (by rw [inner]; exact Bool.false_ne_true)]
  · cases lines s <;> rfl
  · rintro rest rfl
    cases inner

theorem lines_boundary {c : Char} {s : List Char} (boundary : isLineBoundary c = true)
    (apart : ¬ (c = '\r' ∧ s.head? = some '\n')) : lines (c :: s) = [] :: lines s := by
  rw [lines, if_pos boundary]
  rintro rest rfl rfl
  exact apart ⟨rfl, rfl⟩

/-- A carriage return with a line feed behind it, as the cases of lines tell of it. -/
theorem not_pair {c : Char} {s : List Char}
    (apart : ∀ rest, c = '\r' → s = '\n' :: rest → False) :
    ¬ (c = '\r' ∧ s.head? = some '\n') := by
  rintro ⟨same, feed⟩
  obtain ⟨rest, cut⟩ := List.head?_eq_some_iff.mp feed
  exact apart rest same cut

theorem lines_feed (s : List Char) : lines ('\n' :: s) = [] :: lines s :=
  lines_boundary (by decide) (by simp)

/-- A carriage return and a line feed behind it are one boundary. -/
theorem lines_pair (s : List Char) : lines ('\r' :: '\n' :: s) = [] :: lines s := rfl

/-- The first line is empty or begins as the text does. -/
theorem lines_cons (c : Char) (s : List Char) :
    ∃ line others, lines (c :: s) = line :: others ∧ ∀ d, line.head? = some d → d = c := by
  cases boundary : isLineBoundary c with
  | true =>
      by_cases pair : c = '\r' ∧ s.head? = some '\n'
      · obtain ⟨rfl, feed⟩ := pair
        obtain ⟨rest, rfl⟩ := List.head?_eq_some_iff.mp feed
        exact ⟨[], lines rest, lines_pair rest, nofun⟩
      · exact ⟨[], lines s, lines_boundary boundary pair, nofun⟩
  | false =>
      rw [lines_inner boundary]
      cases lines s with
      | nil => exact ⟨[c], [], rfl, fun d same => (Option.some.inj same).symm⟩
      | cons line others => exact ⟨c :: line, others, rfl, fun d same => (Option.some.inj same).symm⟩

/-- Only the empty text has no lines. -/
theorem eq_nil_of_lines {s : List Char} (nothing : lines s = []) : s = [] := by
  cases s with
  | nil => rfl
  | cons c s =>
      obtain ⟨line, others, cut, -⟩ := lines_cons c s
      cases cut.symm.trans nothing

/-- A line holds characters of its text, and no boundary. -/
theorem mem_of_mem_lines {s line : List Char} (member : line ∈ lines s) :
    ∀ c ∈ line, c ∈ s ∧ isLineBoundary c = false := by
  induction s using lines.induct generalizing line with
  | case1 => cases member
  | case2 rest ih =>
      rcases List.mem_cons.mp member with rfl | behind
      · exact nofun
      · exact fun c inside => (ih behind c inside).imp_left fun kept =>
          List.mem_cons_of_mem _ (List.mem_cons_of_mem _ kept)
  | case3 d rest apart boundary ih =>
      rw [lines_boundary boundary (not_pair apart)] at member
      rcases List.mem_cons.mp member with rfl | behind
      · exact nofun
      · exact fun c inside => (ih behind c inside).imp_left (List.mem_cons_of_mem _)
  | case4 d rest apart inner last ih =>
      rw [Bool.not_eq_true] at inner
      rw [lines_inner inner, last] at member
      obtain rfl := List.mem_singleton.mp member
      exact List.forall_mem_singleton.mpr ⟨List.mem_cons_self, inner⟩
  | case5 d rest apart inner first others cut ih =>
      rw [Bool.not_eq_true] at inner
      rw [lines_inner inner, cut] at member
      rw [cut] at ih
      have kept {line : List Char} (known : line ∈ first :: others) (c : Char) (inside : c ∈ line) :
          c ∈ d :: rest ∧ isLineBoundary c = false :=
        (ih known c inside).imp_left (List.mem_cons_of_mem _)
      rcases List.mem_cons.mp member with rfl | behind
      · exact List.forall_mem_cons.mpr ⟨⟨List.mem_cons_self, inner⟩, kept List.mem_cons_self⟩
      · exact kept (List.mem_cons_of_mem _ behind)

/-- A text without a boundary is one line. -/
theorem lines_whole {s : List Char} (content : s ≠ [])
    (whole : ∀ c ∈ s, isLineBoundary c = false) : lines s = [s] := by
  induction s with
  | nil => exact absurd rfl content
  | cons c s ih =>
      obtain ⟨inner, others⟩ := List.forall_mem_cons.mp whole
      rw [lines_inner inner]
      cases s with
      | nil => rfl
      | cons d s => rw [ih (List.cons_ne_nil d s) others, extend]

/-- The lines on both sides of a line feed. An empty line stands between them if the line feed is
itself one. -/
theorem lines_append_feed (s t : List Char) :
    lines (s ++ '\n' :: t) = lines s ++ lines t ∨
      lines (s ++ '\n' :: t) = lines s ++ [] :: lines t := by
  induction s using lines.induct with
  | case1 => exact .inr (lines_feed t)
  | case2 rest ih => exact ih.imp (congrArg ([] :: ·)) (congrArg ([] :: ·))
  | case3 c rest apart boundary ih =>
      have here : lines (c :: rest) = [] :: lines rest :=
        lines_boundary boundary (not_pair apart)
      rw [here]
      cases rest with
      | nil =>
          by_cases pair : c = '\r'
          · subst pair
            exact .inl rfl
          · refine .inr ?_
            rw [List.singleton_append, lines_boundary boundary fun both => pair both.1, lines_feed]
            rfl
      | cons d rest =>
          rw [List.cons_append, lines_boundary boundary]
          · exact ih.imp (congrArg ([] :: ·)) (congrArg ([] :: ·))
          · rintro ⟨rfl, feed⟩
            exact apart rest rfl (congrArg (· :: rest) (Option.some.inj feed))
  | case4 c rest apart inner last ih =>
      rw [Bool.not_eq_true] at inner
      obtain rfl := eq_nil_of_lines last
      refine .inl ?_
      rw [List.singleton_append, lines_inner inner, lines_inner inner, lines_feed]
      rfl
  | case5 c rest apart inner line others cut ih =>
      rw [Bool.not_eq_true] at inner
      rw [List.cons_append, lines_inner inner, lines_inner inner]
      rw [cut] at ih ⊢
      exact ih.imp (fun same => by rw [same]; rfl) (fun same => by rw [same]; rfl)

/-! ## Lines that are not blank -/

/-- The lines that are not blank. -/
def filled (ls : List (List Char)) : List (List Char) := ls.filter fun line => !allBlank line

theorem mem_filled {ls : List (List Char)} {line : List Char} :
    line ∈ filled ls ↔ line ∈ ls ∧ allBlank line = false := by
  simp [filled]

theorem filled_cons (line : List Char) (ls : List (List Char)) :
    filled (line :: ls) = filled [line] ++ filled ls := by
  rw [filled, filled, filled, ← List.filter_append, List.singleton_append]

/-- The filled lines on both sides of a line feed. -/
theorem filled_lines_append (s t : List Char) :
    filled (lines (s ++ '\n' :: t)) = filled (lines s) ++ filled (lines t) := by
  rcases lines_append_feed s t with same | same
  · rw [same, filled, List.filter_append]
    rfl
  · rw [same, filled, List.filter_append, List.filter_cons_of_neg (by decide)]
    rfl

theorem intercalate_feed (first second : List Char) (rest : List (List Char)) :
    ['\n'].intercalate (first :: second :: rest) =
      first ++ '\n' :: ['\n'].intercalate (second :: rest) := by
  simp

/-- The filled lines of texts that line feeds join. -/
theorem filled_lines_intercalate (pieces : List (List Char)) :
    filled (lines (['\n'].intercalate pieces)) = pieces.flatMap fun s => filled (lines s) := by
  induction pieces with
  | nil => rfl
  | cons piece rest ih =>
      cases rest with
      | nil => simp
      | cons next rest =>
          rw [intercalate_feed, filled_lines_append, ih]
          rfl

/-- A text without a boundary, or a blank one, has itself as its filled line if it is not blank. -/
theorem filled_lines_of_whole {s : List Char}
    (whole : allBlank s = false → ∀ c ∈ s, isLineBoundary c = false) :
    filled (lines s) = filled [s] := by
  cases blank : allBlank s with
  | true =>
      have nothing : filled (lines s) = [] := by
        rw [List.eq_nil_iff_forall_not_mem]
        intro line member
        obtain ⟨inside, content⟩ := mem_filled.mp member
        have same : allBlank line = true := List.all_eq_true.mpr fun c within =>
          List.all_eq_true.mp blank c (mem_of_mem_lines inside c within).1
        exact Bool.false_ne_true (content.symm.trans same)
      rw [nothing]
      simp [filled, blank]
  | false =>
      have content : s ≠ [] := by
        rintro rfl
        cases blank
      rw [lines_whole content (whole blank)]

/-- **Boundaries and line feeds.** Cut at every line boundary and at line feeds alone, a text has the
same filled lines exactly if none of them holds another boundary. -/
theorem filled_lines_eq_iff {s : List Char} :
    filled (lines s) = filled (s.splitOn '\n') ↔
      ∀ line ∈ filled (s.splitOn '\n'), ∀ c ∈ line, isLineBoundary c = false := by
  constructor
  · intro same line member c inside
    rw [← same] at member
    exact (mem_of_mem_lines (mem_filled.mp member).1 c inside).2
  · intro whole
    have cut := filled_lines_intercalate (s.splitOn '\n')
    rw [List.intercalate_splitOn] at cut
    rw [cut]
    generalize s.splitOn '\n' = pieces at whole
    induction pieces with
    | nil => rfl
    | cons piece rest ih =>
        rw [filled_cons, List.forall_mem_append] at whole
        rw [List.flatMap_cons, ih whole.2, filled_cons piece]
        congr 1
        exact filled_lines_of_whole fun content =>
          whole.1 piece (mem_filled.mpr ⟨List.mem_cons_self, content⟩)

end Wireframe.Text
