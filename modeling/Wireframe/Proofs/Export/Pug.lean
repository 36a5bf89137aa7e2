import Wireframe.Proofs.Export.PugHeads
import Wireframe.Proofs.Markup.Regular

/-! # The projection to Pug denotes the trees

The lines that are written for regular trees are single lines exactly if no id that is
written behind a tag ends in a line feed (`Wireframe.Export.Pug.oneLine_lines`). If they are,
they are read back as what the trees denote (`read?_lines`).
-/

namespace Wireframe.Export.Pug

open Markup (IsName)

/-! ## Outlines -/

mutual

/-- What the lines of a tree say. -/
def outline (depth : Nat) : Markup → List Line
  | .text s => [⟨2 * depth, .text s⟩]
  | .element tag attributes children =>
    match children with
    | [.text s] => [⟨2 * depth, .element tag (written attributes) (some s)⟩]
    | several =>
      ⟨2 * depth, .element tag (written attributes) none⟩ :: outlineAll (depth + 1) several

/-- What the lines of several trees say. -/
def outlineAll (depth : Nat) : List Markup → List Line
  | [] => []
  | m :: rest => outline depth m ++ outlineAll depth rest

end

theorem outline_block (depth : Nat) (tag : String) (attributes : List Attribute)
    {children : List Markup} (mixed : ∀ s, children ≠ [.text s]) :
    outline depth (.element tag attributes children) =
      ⟨2 * depth, .element tag (written attributes) none⟩ :: outlineAll (depth + 1) children := by
  unfold outline
  split
  · rename_i s
    exact absurd rfl (mixed s)
  · rfl

theorem lines_block (depth : Nat) (tag : String) (attributes : List Attribute)
    {children : List Markup} (mixed : ∀ s, children ≠ [.text s]) :
    lines depth (.element tag attributes children) =
      (indent depth ++ head tag attributes) :: linesOfAll (depth + 1) children := by
  unfold lines
  split
  · rename_i s
    exact absurd rfl (mixed s)
  · rfl

/-- The first line of a tree has the depth of the tree, and the others are deeper. -/
theorem outline_cons (depth : Nat) (m : Markup) :
    ∃ first more, outline depth m = first :: more ∧ first.depth = 2 * depth := by
  cases m with
  | text s => exact ⟨_, _, rfl, rfl⟩
  | element tag attributes children =>
      by_cases single : ∃ t, children = [.text t]
      · obtain ⟨t, rfl⟩ := single
        exact ⟨_, _, rfl, rfl⟩
      · rw [outline_block depth tag attributes fun t same => single ⟨t, same⟩]
        exact ⟨_, _, rfl, rfl⟩

theorem depth_outlineAll (ms : List Markup) : ∀ depth : Nat,
    ∀ l ∈ outlineAll depth ms, 2 * depth ≤ l.depth := by
  induction ms using denoted.induct with
  | case1 => simp [outlineAll]
  | case2 s rest ih =>
      intro depth
      simp only [outlineAll, outline, List.singleton_append, List.forall_mem_cons]
      exact ⟨Nat.le_refl _, ih depth⟩
  | case3 tag attributes children rest ihChildren ihRest =>
      intro depth
      rw [outlineAll, List.forall_mem_append]
      refine ⟨?_, ihRest depth⟩
      by_cases single : ∃ t, children = [.text t]
      · obtain ⟨t, rfl⟩ := single
        simp [outline]
      · rw [outline_block depth tag attributes fun t same => single ⟨t, same⟩,
          List.forall_mem_cons]
        refine ⟨Nat.le_refl _, ?_⟩
        intro l member
        have deeper := ihChildren (depth + 1) l member
        omega

theorem head_outlineAll (depth : Nat) (ms : List Markup) :
    ∀ l ∈ (outlineAll depth ms).head?, l.depth = 2 * depth := by
  cases ms with
  | nil => simp [outlineAll]
  | cons m rest =>
      obtain ⟨first, more, here, level⟩ := outline_cons depth m
      rw [outlineAll, here]
      simpa using level

/-! ## From outlines to trees -/

/-- What stands below a line are the lines behind it that are deeper, up to one that is not. -/
theorem nodes?_cons {line : Line} {below behind : List Line}
    (deeper : ∀ l ∈ below, line.depth < l.depth) (level : ∀ l ∈ behind.head?, l.depth = line.depth)
    {inside others : List Node} {node : Node} (held : nodes? below = some inside)
    (further : nodes? behind = some others) (made : line.content.node? inside = some node) :
    nodes? (line :: (below ++ behind)) = some (node :: others) := by
  have within : ∀ l ∈ below, (fun l : Line => decide (line.depth < l.depth)) l = true := by
    simpa using deeper
  have taken : (below ++ behind).takeWhile (fun l => decide (line.depth < l.depth)) = below := by
    rw [List.takeWhile_append_of_pos within]
    cases behind with
    | nil => simp
    | cons l behind => simp [level l rfl]
  have dropped : (below ++ behind).dropWhile (fun l => decide (line.depth < l.depth)) =
      behind := by
    rw [List.dropWhile_append_of_pos within]
    cases behind with
    | nil => rfl
    | cons l behind => simp [level l rfl]
  have same : (behind.head?.all fun l => l.depth == line.depth) = true := by
    cases behind with
    | nil => rfl
    | cons l behind => simpa using level l rfl
  rw [nodes?]
  simp only [taken, dropped, same, ↓reduceIte, held, further, made, Option.map_some]

/-- **Outlines are read back.** The nodes of an outline are what the trees denote. -/
theorem nodes?_outlineAll {tags names : List String} {ms : List Markup}
    (regular : Markup.Regular tags names ms) : ∀ depth : Nat,
      nodes? (outlineAll depth ms) = some (denoted ms) := by
  induction ms using denoted.induct with
  | case1 =>
      intro depth
      rw [outlineAll, nodes?, denoted]
  | case2 s rest ih =>
      rw [Markup.Regular] at regular
      intro depth
      have none : nodes? [] = some [] := by rw [nodes?]
      rw [outlineAll, outline, denoted]
      exact nodes?_cons (by simp) (head_outlineAll depth rest) none (ih regular.2 depth) rfl
  | case3 tag attributes children rest ihChildren ihRest =>
      rw [Markup.Regular] at regular
      obtain ⟨⟨_, distinct, inside⟩, others⟩ := regular
      intro depth
      have behind := ihRest others depth
      have level := head_outlineAll depth rest
      rw [outlineAll, denoted]
      -- A single text stands on the line of its element, anything else on deeper lines behind it.
      by_cases single : ∃ t, children = [.text t]
      · obtain ⟨t, rfl⟩ := single
        have none : nodes? [] = some [] := by rw [nodes?]
        have made := element_written tag distinct.1 [.text t]
        rw [outline, denoted, denoted]
        exact nodes?_cons (by simp) level none behind (by rw [← made]; rfl)
      · have held := ihChildren inside (depth + 1)
        have made := element_written tag distinct.1 (denoted children)
        rw [outline_block depth tag attributes fun t same => single ⟨t, same⟩, List.cons_append]
        refine nodes?_cons ?_ level held behind (by rw [← made]; rfl)
        intro l member
        have deeper := depth_outlineAll children (depth + 1) l member
        show 2 * depth < l.depth
        omega

/-! ## From lines to outlines -/

/-- What a line says does not begin with a space. -/
theorem content?_front {s : List Char} {content : Content} (read : content? s = some content) :
    ∃ c rest, s = c :: rest ∧ c ≠ ' ' := by
  have space : continuesName ' ' = false := by decide
  have unmarked : marked? ' ' = none := rfl
  cases s with
  | nil => simp [content?, element?, shorthand?] at read
  | cons c rest =>
      refine ⟨c, rest, rfl, ?_⟩
      rintro rfl
      simp [content?, element?, shorthand?, space, unmarked] at read

/-- Whether a line of a file is read as a line of an outline. -/
def Says (l : String) (line : Line) : Prop := line? l.toList = some line

theorem says_indent (depth : Nat) {l : String} {content : Content}
    (read : content? l.toList = some content) : Says (indent depth ++ l) ⟨2 * depth, content⟩ := by
  obtain ⟨c, rest, spelled, front⟩ := content?_front read
  have blank : ∀ d ∈ List.replicate (2 * depth) ' ', (d == ' ') = true := by
    intro d member
    simp [List.eq_of_mem_replicate member]
  have taken : (List.replicate (2 * depth) ' ' ++ c :: rest).takeWhile (· == ' ') =
      List.replicate (2 * depth) ' ' :=
    Markup.takeWhile_run blank (by simpa using front)
  have dropped : (List.replicate (2 * depth) ' ' ++ c :: rest).dropWhile (· == ' ') =
      c :: rest := by
    rw [List.dropWhile_append_of_pos blank]
    exact List.dropWhile_cons_of_neg (by simpa using front)
  rw [spelled] at read
  rw [Says, String.toList_append, indent, String.toList_ofList, spelled, line?, taken, dropped, read,
    List.length_replicate]
  rfl

theorem says_text (s : String) (depth : Nat) :
    Says (indent depth ++ "= " ++ Text.quoted s) ⟨2 * depth, .text s⟩ := by
  have read : content? ("= " ++ Text.quoted s).toList = some (.text s) := by
    have shown := shown?_behindHead s
    have spelled : ("= " ++ Text.quoted s).toList = behindHead (some s) := by simp [behindHead]
    rw [spelled, content?, shown]
    rfl
  rw [String.append_assoc]
  exact says_indent depth read

variable {tags names : List String}

/-- The lines of regular trees say what is in the outline if no attribute breaks a line. -/
theorem says_lines (validTags : ∀ tag ∈ tags, IsName tag) (validNames : ∀ n ∈ names, IsName n)
    {ms : List Markup} (regular : Markup.Regular tags names ms)
    (kept : ∀ a ∈ Markup.allAttributes ms, KeepsLine a) : ∀ depth : Nat,
      List.Forall₂ Says (linesOfAll depth ms) (outlineAll depth ms) := by
  induction ms using denoted.induct with
  | case1 => exact fun _ => .nil
  | case2 s rest ih =>
      rw [Markup.Regular] at regular
      rw [Markup.allAttributes] at kept
      intro depth
      exact .cons (says_text s depth) (ih regular.2 kept depth)
  | case3 tag attributes children rest ihChildren ihRest =>
      rw [Markup.Regular] at regular
      obtain ⟨⟨known, distinct, inside⟩, others⟩ := regular
      simp only [Markup.allAttributes, List.forall_mem_append] at kept
      obtain ⟨here, below, behind⟩ := kept
      intro depth
      have named : ∀ a ∈ attributes, IsName a.1 := fun a member =>
        validNames _ (distinct.2 _ (List.mem_map_of_mem member))
      have read := content?_head (validTags tag known) named here
      rw [linesOfAll, outlineAll]
      refine List.rel_append ?_ (ihRest others behind depth)
      by_cases single : ∃ t, children = [.text t]
      · obtain ⟨t, rfl⟩ := single
        have spelled : (head tag attributes ++ "= " ++ Text.quoted t).toList =
            (head tag attributes).toList ++ behindHead (some t) := by simp [behindHead]
        have first := says_indent depth (spelled ▸ read (some t))
        rw [← String.append_assoc, ← String.append_assoc] at first
        exact .cons first .nil
      · have mixed : ∀ t, children ≠ [.text t] := fun t same => single ⟨t, same⟩
        have alone := read none
        rw [behindHead, List.append_nil] at alone
        rw [lines_block depth tag attributes mixed, outline_block depth tag attributes mixed]
        exact .cons (says_indent depth alone) (ihChildren inside below (depth + 1))

/-- A line that says something does not consist of spaces alone. -/
theorem Says.filled {l : String} {line : Line} (said : Says l line) :
    l.toList.all (· == ' ') = false := by
  by_contra blank
  have dropped : l.toList.dropWhile (· == ' ') = [] := by
    rw [List.dropWhile_eq_nil_iff]
    simpa using blank
  have nothing : content? [] = none := by simp [content?, element?, shorthand?]
  rw [Says, line?, dropped, nothing] at said
  cases said

/-- Single lines that say an outline are the lines of their file. -/
theorem filledLines_file {ls : List String} {found : List Line} (said : List.Forall₂ Says ls found)
    (whole : ∀ l ∈ ls, Text.oneLine l.toList = true) :
    filledLines (Text.file ls) = ls.map String.toList := by
  have feed : Text.endsLine '\n' = true := by decide
  unfold filledLines
  induction said with
  | nil => simp
  | @cons l line ls found first _ ih =>
      rw [List.forall_mem_cons] at whole
      have single : l.toList.splitOnP Text.endsLine = [l.toList] :=
        List.splitOnP_eq_singleton (Text.oneLine_iff.mp whole.1)
      rw [Text.file_cons, List.splitOnP_append_cons _ _ feed, List.filter_append, single,
        ih whole.2, List.filter_cons_of_pos (by simp [first.filled])]
      rfl

theorem mapM_line? {ls : List String} {found : List Line} (said : List.Forall₂ Says ls found) :
    (ls.map String.toList).mapM line? = some found := by
  induction said with
  | nil => rfl
  | cons first _ ih =>
      rw [Says] at first
      simp [first, ih]

/-! ## Lines that break -/

/-- **Lines that break.** The lines of regular trees are single lines exactly if no line ends in an
id that is written behind a tag. -/
theorem oneLine_lines (validTags : ∀ tag ∈ tags, IsName tag) (validNames : ∀ n ∈ names, IsName n)
    {ms : List Markup} (regular : Markup.Regular tags names ms) : ∀ depth : Nat,
      (∀ l ∈ linesOfAll depth ms, Text.oneLine l.toList = true) ↔
        ∀ a ∈ Markup.allAttributes ms, KeepsLine a := by
  induction ms using denoted.induct with
  | case1 => simp [linesOfAll, Markup.allAttributes]
  | case2 s rest ih =>
      rw [Markup.Regular] at regular
      intro depth
      simp [linesOfAll, lines, Markup.allAttributes, Jsx.oneLine_indent, Text.oneLine_quoted,
        ih regular.2]
  | case3 tag attributes children rest ihChildren ihRest =>
      rw [Markup.Regular] at regular
      obtain ⟨⟨known, distinct, inside⟩, others⟩ := regular
      intro depth
      have named : ∀ a ∈ attributes, IsName a.1 := fun a member =>
        validNames _ (distinct.2 _ (List.mem_map_of_mem member))
      have here := oneLine_head (validTags tag known) named
      have below := ihChildren inside (depth + 1)
      rw [linesOfAll, List.forall_mem_append, ihRest others depth, Markup.allAttributes,
        List.forall_mem_append, List.forall_mem_append, ← here, ← below]
      by_cases single : ∃ t, children = [.text t]
      · obtain ⟨t, rfl⟩ := single
        simp [lines, linesOfAll, Jsx.oneLine_indent, Text.oneLine_quoted]
      · rw [lines_block depth tag attributes fun t same => single ⟨t, same⟩]
        simp [Jsx.oneLine_indent, and_assoc]

/-- **The lines are read back.** If the lines of regular trees are single lines, then they are read
as what the trees denote. -/
theorem read?_lines (validTags : ∀ tag ∈ tags, IsName tag) (validNames : ∀ n ∈ names, IsName n)
    {ms : List Markup} (regular : Markup.Regular tags names ms) (depth : Nat)
    (whole : ∀ l ∈ linesOfAll depth ms, Text.oneLine l.toList = true) :
    read? (Text.file (linesOfAll depth ms)) = some (denoted ms) := by
  have kept := (oneLine_lines validTags validNames regular depth).mp whole
  have said := says_lines validTags validNames regular kept depth
  rw [read?, filledLines_file said whole, mapM_line? said]
  exact nodes?_outlineAll regular depth

end Wireframe.Export.Pug
