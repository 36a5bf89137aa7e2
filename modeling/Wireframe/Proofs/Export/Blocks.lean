import Wireframe.Export.Sheet
import Wireframe.Proofs.Text.Lines
import Wireframe.Proofs.Text.Literal

/-! # Style sheets in indented blocks

What a style block of an indented template says when it is read back. The backslashes before
interpolations are undone (`Wireframe.Export.literal_keepLiteral`), but the sheet comes back
as the lines that it has at every line boundary (`Wireframe.Export.sheetsIn_styleBlock`).
-/

namespace Wireframe.Export

/-! ## Interpolations -/

/-- Whether two characters begin an interpolation. -/
def opens (a b : Char) : Bool := (a == '#' || a == '!') && (b == '\x7b' || b == '[')

theorem keepLiteral_of_opens {a b : Char} (both : opens a b = true) (s : List Char) :
    keepLiteral (a :: b :: s) = '\\' :: a :: b :: keepLiteral s := if_pos both

theorem keepLiteral_of_apart {a b : Char} (apart : opens a b = false) (s : List Char) :
    keepLiteral (a :: b :: s) = a :: keepLiteral (b :: s) :=
  if_neg (Bool.eq_false_iff.mp apart)

/-- Texts as they are kept literal: two characters at once if they begin an interpolation, else one
after the other. -/
@[elab_as_elim]
theorem keepLiteral_induction {motive : List Char → Prop} (nil : motive [])
    (single : ∀ a, motive [a])
    (both : ∀ a b rest, opens a b = true → motive rest → motive (a :: b :: rest))
    (apart : ∀ a b rest, opens a b = false → motive (b :: rest) → motive (a :: b :: rest))
    (s : List Char) : motive s := by
  induction s using keepLiteral.induct with
  | case1 a b rest opened ih => exact both a b rest opened ih
  | case2 a b rest closed ih => exact apart a b rest (Bool.eq_false_iff.mpr closed) ih
  | case3 s short =>
      match s, short with
      | [], _ => exact nil
      | [a], _ => exact single a
      | a :: b :: rest, short => exact (short a b rest rfl).elim

/-- A text without the backslashes that stand before beginnings of interpolations. -/
def literal : List Char → List Char
  | '\\' :: a :: b :: rest =>
    if opens a b then a :: b :: literal rest else '\\' :: literal (a :: b :: rest)
  | c :: rest => c :: literal rest
  | [] => []

theorem filled_of_opens {a b : Char} (both : opens a b = true) :
    Text.isBlank a = false ∧ Text.isLineBoundary a = false ∧ Text.isLineBoundary b = false := by
  simp only [opens, Bool.and_eq_true, Bool.or_eq_true, beq_iff_eq] at both
  obtain ⟨rfl | rfl, rfl | rfl⟩ := both <;> decide

/-- A character with which no interpolation begins stays as it is. -/
theorem keepLiteral_cons {a : Char} {s : List Char}
    (apart : ∀ b, s.head? = some b → opens a b = false) :
    keepLiteral (a :: s) = a :: keepLiteral s := by
  cases s with
  | nil => rfl
  | cons b s => exact keepLiteral_of_apart (apart b rfl) s

theorem keepLiteral_feed (s : List Char) : keepLiteral ('\n' :: s) = '\n' :: keepLiteral s :=
  keepLiteral_cons fun _ _ => by simp [opens]

theorem head_keepLiteral (a : Char) (s : List Char) :
    (keepLiteral (a :: s)).head? = some a ∨ (keepLiteral (a :: s)).head? = some '\\' := by
  cases s with
  | nil => exact .inl rfl
  | cons b s =>
      cases both : opens a b with
      | true => exact .inr (congrArg List.head? (keepLiteral_of_opens both s))
      | false => exact .inl (congrArg List.head? (keepLiteral_of_apart both s))

/-- A text that is kept literal begins with no interpolation. -/
theorem opens_front {s rest : List Char} {a b : Char} (front : keepLiteral s = a :: b :: rest) :
    opens a b = false := by
  have slash : (opens '\\' b = false) ∧ opens a '\\' = false := by simp [opens]
  match s with
  | [] => cases front
  | [c] => cases front
  | c :: d :: s =>
      cases both : opens c d with
      | true =>
          rw [keepLiteral_of_opens both] at front
          cases front
          exact slash.1
      | false =>
          rw [keepLiteral_of_apart both] at front
          obtain ⟨rfl, behind⟩ := List.cons.inj front
          rcases head_keepLiteral d s with same | same
          · rw [behind] at same
            rwa [Option.some.inj same]
          · rw [behind] at same
            rw [Option.some.inj same]
            exact slash.2

/-- In front of a text that begins with no interpolation a backslash stays. -/
theorem literal_cons (c : Char) {s : List Char}
    (front : ∀ a b rest, s = a :: b :: rest → opens a b = false) :
    literal (c :: s) = c :: literal s := by
  by_cases slash : c = '\\'
  · subst slash
    match s, front with
    | [], _ => rfl
    | [a], _ => rfl
    | a :: b :: s, front => rw [literal, front a b s rfl, if_neg Bool.false_ne_true]
  · rw [literal]
    exact fun a b rest same => absurd same slash

/-- **Interpolations are kept out.** Undoing the backslashes gives the text back, whatever
backslashes and beginnings of interpolations are in it. -/
theorem literal_keepLiteral (s : List Char) : literal (keepLiteral s) = s := by
  induction s using keepLiteral_induction with
  | nil => rfl
  | single a => exact literal_cons a nofun
  | both a b rest opened ih => rw [keepLiteral_of_opens opened, literal, if_pos opened, ih]
  | apart a b rest closed ih =>
      rw [keepLiteral_of_apart closed, literal_cons a fun _ _ _ front => opens_front front, ih]

/-- The lines of a text that is kept literal are those of the text, kept literal. -/
theorem lines_keepLiteral (s : List Char) :
    Text.lines (keepLiteral s) = (Text.lines s).map keepLiteral := by
  induction s using keepLiteral_induction with
  | nil => rfl
  | single a =>
      have same : keepLiteral [a] = [a] := rfl
      cases boundary : Text.isLineBoundary a with
      | true => rw [same, Text.lines_boundary boundary (by simp)]; rfl
      | false => rw [same, Text.lines_inner boundary]; rfl
  | both a b rest opened ih =>
      obtain ⟨-, first, second⟩ := filled_of_opens opened
      rw [keepLiteral_of_opens opened, Text.lines_inner (by decide), Text.lines_inner first,
        Text.lines_inner second, ih, Text.lines_inner first, Text.lines_inner second]
      cases Text.lines rest with
      | nil => exact congrArg (· :: []) (keepLiteral_of_opens opened []).symm
      | cons line others => exact congrArg (· :: _) (keepLiteral_of_opens opened line).symm
  | apart a b rest closed ih =>
      rw [keepLiteral_of_apart closed]
      -- A boundary stays where it is, also if it takes in the line feed behind it. Behind another
      -- character the first line goes on, and what it goes on with begins no interpolation.
      cases boundary : Text.isLineBoundary a with
      | true =>
          by_cases pair : a = '\r' ∧ b = '\n'
          · obtain ⟨rfl, rfl⟩ := pair
            rw [keepLiteral_feed, Text.lines_feed, Text.lines_feed, List.map_cons] at ih
            rw [keepLiteral_feed, Text.lines_pair, Text.lines_pair, (List.cons.inj ih).2]
            rfl
          · have pairs : ¬ (a = '\r' ∧ (keepLiteral (b :: rest)).head? = some '\n') := by
              rintro ⟨rfl, feed⟩
              rcases head_keepLiteral b rest with same | same
              · exact pair ⟨rfl, Option.some.inj (same.symm.trans feed)⟩
              · cases same.symm.trans feed
            rw [Text.lines_boundary boundary pairs, ih, Text.lines_boundary boundary]
            · rfl
            · exact fun both => pair ⟨both.1, Option.some.inj both.2⟩
      | false =>
          obtain ⟨line, others, cut, begins⟩ := Text.lines_cons b rest
          have kept : keepLiteral (a :: line) = a :: keepLiteral line :=
            keepLiteral_cons fun c front => begins c front ▸ closed
          rw [Text.lines_inner boundary, ih, Text.lines_inner boundary, cut]
          exact congrArg (· :: _) kept.symm

theorem keepLiteral_append_feed (s t : List Char) :
    keepLiteral (s ++ '\n' :: t) = keepLiteral s ++ '\n' :: keepLiteral t := by
  induction s using keepLiteral_induction with
  | nil => exact keepLiteral_feed t
  | single a =>
      have closed : opens a '\n' = false := by simp [opens]
      rw [List.singleton_append, keepLiteral_of_apart closed, keepLiteral_feed]
      rfl
  | both a b rest opened ih =>
      rw [List.cons_append, List.cons_append, keepLiteral_of_opens opened,
        keepLiteral_of_opens opened, ih]
      rfl
  | apart a b rest closed ih =>
      rw [List.cons_append, List.cons_append, keepLiteral_of_apart closed,
        keepLiteral_of_apart closed, ← List.cons_append, ih]
      rfl

/-- Lines that are kept literal and joined are the joined lines, kept literal. -/
theorem keepLiteral_intercalate (ls : List (List Char)) :
    keepLiteral (['\n'].intercalate ls) = ['\n'].intercalate (ls.map keepLiteral) := by
  induction ls with
  | nil => rfl
  | cons line rest ih =>
      cases rest with
      | nil => simp
      | cons next rest =>
          rw [Text.intercalate_feed, keepLiteral_append_feed, ih, List.map_cons, List.map_cons,
            List.map_cons, Text.intercalate_feed]

theorem allBlank_keepLiteral (s : List Char) :
    Text.allBlank (keepLiteral s) = Text.allBlank s := by
  induction s using keepLiteral_induction with
  | nil => rfl
  | single a => rfl
  | both a b rest opened ih =>
      rw [keepLiteral_of_opens opened]
      simp [Text.allBlank, (filled_of_opens opened).1]
  | apart a b rest closed ih =>
      rw [keepLiteral_of_apart closed, Text.allBlank, List.all_cons, ← Text.allBlank, ih]
      rfl

/-! ## Blocks -/

/-- How many blanks a line begins with. -/
def depthOf (line : List Char) : Nat := (line.takeWhile (· == ' ')).length

/-- Whether a line opens a style block. -/
def opensBlock (line : List Char) : Bool := line.dropWhile (· == ' ') == "style.".toList

/-- Whether a line belongs to a block whose first line begins with some blanks. -/
def belongs (depth : Nat) (line : List Char) : Bool :=
  Text.allBlank line || depth < depthOf line

/-- The text of the lines of a block. They are indented by two more blanks than the line that opens
the block, and a backslash in front of the beginning of an interpolation is not part of the text. -/
def blockText (depth : Nat) (ls : List (List Char)) : List Char :=
  literal (['\n'].intercalate (ls.map (·.drop (depth + 2))))

/-- The texts of the style blocks among some lines. -/
def sheetsIn : List (List Char) → List (List Char)
  | [] => []
  | line :: rest =>
    if opensBlock line then
      blockText (depthOf line) (rest.takeWhile (belongs (depthOf line))) ::
        sheetsIn (rest.dropWhile (belongs (depthOf line)))
    else sheetsIn rest
termination_by ls => ls.length
decreasing_by
  · exact Nat.lt_succ_of_le (List.dropWhile_sublist _).length_le
  · exact Nat.lt_succ_self _

theorem sheetsIn_append {front : List (List Char)}
    (plain : ∀ line ∈ front, opensBlock line = false) (rest : List (List Char)) :
    sheetsIn (front ++ rest) = sheetsIn rest := by
  induction front with
  | nil => rfl
  | cons line front ih =>
      obtain ⟨first, others⟩ := List.forall_mem_cons.mp plain
      rw [List.cons_append, sheetsIn, first, if_neg Bool.false_ne_true, ih others]

/-- A line with nothing in it if it is blank. -/
def emptied (line : List Char) : List Char := if Text.allBlank line then [] else line

/-- What a style block says: the lines that the sheet in a page has at every line boundary, joined by
line feeds, with nothing on the blank ones. -/
def said (css : String) : List Char :=
  ['\n'].intercalate ((Text.lines (inlineSheet css).toList).map emptied)

/-- A line of a sheet in a block at a depth. -/
def blockLine (depth : Nat) (line : List Char) : String :=
  if Text.allBlank line then "" else indent (depth + 1) ++ String.ofList (keepLiteral line)

theorem styleBlock_eq (css : String) (depth : Nat) :
    styleBlock css depth = (indent depth ++ "style.") ::
      (Text.lines (inlineSheet css).toList).map (blockLine depth) := by
  rw [styleBlock, blockSheet, String.toList_ofList, lines_keepLiteral, inlineSheet,
    String.toList_ofList, List.map_map]
  refine congrArg _ (List.map_congr_left fun line _ => ?_)
  rw [Function.comp_apply, allBlank_keepLiteral]
  rfl

theorem blank_of_mem_indent (depth : Nat) : ∀ c ∈ (indent depth).toList, (c == ' ') = true := by
  simp [indent]

theorem depthOf_indent (depth : Nat) (s : List Char) :
    depthOf ((indent depth).toList ++ s) = 2 * depth + depthOf s := by
  rw [depthOf, List.takeWhile_append_of_pos (blank_of_mem_indent depth), List.length_append]
  simp [indent, depthOf]

theorem opensBlock_indent (depth : Nat) :
    opensBlock (indent depth ++ "style.").toList = true := by
  rw [opensBlock, String.toList_append, List.dropWhile_append_of_pos (blank_of_mem_indent depth)]
  decide

/-- Each line of a style block stands on one line of a file. -/
theorem oneLine_styleBlock (css : String) (depth : Nat) :
    ∀ l ∈ styleBlock css depth, Text.oneLine l.toList = true := by
  have deep (depth : Nat) : Text.oneLine (indent depth).toList = true := by
    rw [indent, String.toList_ofList, Text.oneLine, List.all_replicate]
    simp
  have whole (line : List Char) (cut : line ∈ Text.lines (blockSheet css).toList) :
      Text.oneLine line = true := by
    rw [Text.oneLine_iff]
    intro c inside
    have inner := (Text.mem_of_mem_lines cut c inside).2
    rw [Bool.eq_false_iff] at inner ⊢
    intro ends
    simp only [Text.endsLine, Bool.or_eq_true, beq_iff_eq] at ends
    rcases ends with rfl | rfl <;> exact inner rfl
  have opening : Text.oneLine "style.".toList = true := by decide
  rw [styleBlock, List.forall_mem_cons, List.forall_mem_map]
  refine ⟨by rw [String.toList_append, Text.oneLine_append, deep, opening, Bool.and_self], ?_⟩
  intro line cut
  split_ifs
  · rfl
  · rw [String.toList_append, Text.oneLine_append, deep, String.toList_ofList, whole line cut,
      Bool.and_self]

theorem belongs_blockLine (depth : Nat) (line : List Char) :
    belongs (2 * depth) (blockLine depth line).toList = true := by
  unfold blockLine
  split_ifs with blank
  · rfl
  · rw [belongs, Bool.or_eq_true, decide_eq_true_iff, String.toList_append, depthOf_indent]
    omega

theorem drop_blockLine (depth : Nat) (line : List Char) :
    (blockLine depth line).toList.drop (2 * depth + 2) = keepLiteral (emptied line) := by
  unfold blockLine emptied
  split_ifs with blank
  · rfl
  · have width : (indent (depth + 1)).toList.length = 2 * depth + 2 := by
      rw [indent, String.toList_ofList, List.length_replicate, Nat.mul_succ]
    rw [String.toList_append, String.toList_ofList, List.drop_left' width]

theorem blockText_blockLines (css : String) (depth : Nat) :
    blockText (2 * depth)
        (((Text.lines (inlineSheet css).toList).map (blockLine depth)).map String.toList) =
      said css := by
  rw [said]
  generalize Text.lines (inlineSheet css).toList = ls
  have dropped : ((ls.map (blockLine depth)).map String.toList).map (·.drop (2 * depth + 2)) =
      (ls.map emptied).map keepLiteral := by
    rw [List.map_map, List.map_map, List.map_map]
    exact List.map_congr_left fun line _ => drop_blockLine depth line
  rw [blockText, dropped, ← keepLiteral_intercalate, literal_keepLiteral]

/-- **Style blocks are read back.** A style block that stands before something that is not deeper
says the lines of its sheet. -/
theorem sheetsIn_styleBlock {css : String} {depth : Nat} {rest : List (List Char)}
    (ends : ∀ line, rest.head? = some line → belongs (2 * depth) line = false) :
    sheetsIn ((styleBlock css depth).map String.toList ++ rest) = said css :: sheetsIn rest := by
  have here : depthOf (indent depth ++ "style.").toList = 2 * depth := by
    rw [String.toList_append, depthOf_indent]
    rfl
  have stops : rest.takeWhile (belongs (2 * depth)) = [] ∧
      rest.dropWhile (belongs (2 * depth)) = rest := by
    cases rest with
    | nil => exact ⟨rfl, rfl⟩
    | cons line rest => simp [ends line rfl]
  rw [styleBlock_eq, List.map_cons, List.cons_append, sheetsIn, if_pos (opensBlock_indent depth),
    here]
  have inside : ∀ line ∈ ((Text.lines (inlineSheet css).toList).map (blockLine depth)).map
      String.toList, belongs (2 * depth) line = true := by
    simp [belongs_blockLine]
  rw [List.takeWhile_append_of_pos inside, List.dropWhile_append_of_pos inside, stops.1, stops.2,
    List.append_nil, blockText_blockLines]

/-! ## What is kept -/

theorem filled_map_emptied (ls : List (List Char)) :
    Text.filled (ls.map emptied) = Text.filled ls := by
  induction ls with
  | nil => rfl
  | cons line rest ih =>
      rw [List.map_cons, Text.filled_cons, ih, Text.filled_cons line]
      cases blank : Text.allBlank line with
      | true =>
          have empty : Text.allBlank [] = true := rfl
          simp [Text.filled, emptied, blank, empty]
      | false => simp [emptied, blank]

/-- What a block says has the filled lines of the sheet, which end at every line boundary. -/
theorem filled_said (css : String) :
    Text.filled ((said css).splitOn '\n') = Text.filled (Text.lines (inlineSheet css).toList) := by
  have whole : ∀ line ∈ (Text.lines (inlineSheet css).toList).map emptied, '\n' ∉ line := by
    intro line member inside
    obtain ⟨raw, cut, rfl⟩ := List.mem_map.mp member
    unfold emptied at inside
    split_ifs at inside
    · cases inside
    · cases (Text.mem_of_mem_lines cut '\n' inside).2
  rw [said]
  by_cases nothing : Text.lines (inlineSheet css).toList = []
  · rw [nothing]
    rfl
  · rw [List.splitOn_intercalate '\n' whole (by simpa using nothing), filled_map_emptied]

/-- **Sheets in blocks.** What a block says has the filled lines of the sheet that stands in a page
exactly if none of them holds a line boundary other than a line feed. -/
theorem filled_said_iff {css : String} :
    Text.filled ((said css).splitOn '\n') = Text.filled ((inlineSheet css).toList.splitOn '\n') ↔
      ∀ line ∈ Text.filled ((inlineSheet css).toList.splitOn '\n'),
        ∀ c ∈ line, Text.isLineBoundary c = false := by
  rw [filled_said, Text.filled_lines_eq_iff]

end Wireframe.Export
