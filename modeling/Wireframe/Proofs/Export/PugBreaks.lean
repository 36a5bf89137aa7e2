import Wireframe.Proofs.Export.Pug

/-! # Ids that break a line

An id with a line feed at its end is written behind a tag as any other id that the shorthand
can hold. Its line then ends within the id, and what is read there is the id without the
line feed. So the lines of trees are read back as what the trees denote exactly if no id
breaks a line (`Wireframe.Export.Pug.read?_lines_iff`).
-/

namespace Wireframe.Export.Pug

open Markup (IsName)

/-! ## Attributes of nodes -/

/-- The attributes in nodes, apart from classes. -/
def attributesIn : List Node → List Attribute
  | [] => []
  | .text _ :: rest => attributesIn rest
  | .element _ _ attributes children :: rest =>
    attributes ++ (attributesIn children ++ attributesIn rest)

/-- The attributes that a line gives. -/
def Content.attributes : Content → List Attribute
  | .text _ => []
  | .element _ attributes _ => attributes

theorem mem_of_mem_arranged {a : Attribute} {attributes : List Attribute}
    (member : a ∈ arranged attributes) : a ∈ attributes := by
  rcases List.mem_append.mp member with held | held
  · exact (List.mem_filter.mp held).1
  · exact (List.mem_filter.mp held).1

theorem mem_arranged_of_id {a : Attribute} {attributes : List Attribute} (member : a ∈ attributes)
    (named : a.1 = "id") : a ∈ arranged attributes :=
  List.mem_append_left _ (List.mem_filter.mpr ⟨member, by simp [named]⟩)

/-- The ids in trees are among the attributes of what the trees denote. -/
theorem mem_attributesIn {a : Attribute} (named : a.1 = "id") {ms : List Markup}
    (member : a ∈ Markup.allAttributes ms) : a ∈ attributesIn (denoted ms) := by
  induction ms using denoted.induct with
  | case1 => simp [Markup.allAttributes] at member
  | case2 s rest ih =>
      rw [Markup.allAttributes] at member
      rw [denoted, attributesIn]
      exact ih member
  | case3 tag attributes children rest ihChildren ihRest =>
      rw [Markup.allAttributes, List.mem_append, List.mem_append] at member
      rw [denoted, element, attributesIn, List.mem_append, List.mem_append]
      rcases member with here | below | behind
      · exact .inl (mem_arranged_of_id here named)
      · exact .inr (.inl (ihChildren below))
      · exact .inr (.inr (ihRest behind))

/-- The attributes of a node come from its line or from what stands below it. -/
theorem mem_of_node? {a : Attribute} {content : Content} {inside others : List Node} {node : Node}
    (made : content.node? inside = some node) (member : a ∈ attributesIn (node :: others)) :
    a ∈ content.attributes ∨ a ∈ attributesIn inside ∨ a ∈ attributesIn others := by
  unfold Content.node? at made
  split at made
  · cases made
    exact .inr (.inr (by simpa [attributesIn] using member))
  · cases made
    rw [element, attributesIn, List.mem_append, List.mem_append] at member
    exact member.imp_left mem_of_mem_arranged
  · cases made
    simp only [element, attributesIn, List.nil_append, List.mem_append] at member
    exact member.elim (fun here => .inl (mem_of_mem_arranged here)) fun behind =>
      .inr (.inr behind)
  · cases made

theorem mem_of_nodes? {a : Attribute} {found : List Line} : ∀ {ns : List Node},
    nodes? found = some ns → a ∈ attributesIn ns →
      ∃ line ∈ found, a ∈ line.content.attributes := by
  fun_induction nodes? found with
  | case1 =>
      intro ns made member
      cases made
      simp [attributesIn] at member
  | case2 line rest below behind level inside others further held =>
      rename_i ihBelow ihBehind
      intro ns read member
      obtain ⟨node, made, rfl⟩ := Option.map_eq_some_iff.mp read
      rcases mem_of_node? made member with here | inside | others
      · exact ⟨line, List.mem_cons_self, here⟩
      · obtain ⟨l, found, given⟩ := ihBelow held inside
        exact ⟨l, List.mem_cons_of_mem _ ((List.takeWhile_sublist _).mem found), given⟩
      · obtain ⟨l, found, given⟩ := ihBehind further others
        exact ⟨l, List.mem_cons_of_mem _ ((List.dropWhile_sublist _).mem found), given⟩
  | case3 =>
      intro ns made
      cases made
  | case4 =>
      intro ns made
      cases made

/-! ## Attributes of lines -/

/-- Whether no attribute that a line gives would break a line. -/
def Content.Keeps (content : Content) : Prop := ∀ a ∈ content.attributes, KeepsLine a

theorem IsMark.keepsLine {a : Attribute} (mark : IsMark a) : KeepsLine a := by
  obtain ⟨_, v, given, holds⟩ := mark
  rintro _ w stands _
  obtain rfl : v = w := Option.some.inj (given.symm.trans stands)
  exact holds.oneLine

theorem keepsLine_of_inParentheses {a : Attribute} (held : inParentheses a = true) :
    KeepsLine a := by
  obtain ⟨name, value⟩ := a
  rintro (rfl : name = "id") v (rfl : value = some v) named
  by_cases empty : v = ""
  · subst empty
    rfl
  · simp [inParentheses, placed, empty, named] at held

/-- What is read as the shorthand would not break a line. -/
theorem shorthand?_keeps {s : List Char} : ∀ {found : List Attribute} {rest : List Char},
    shorthand? s = some (found, rest) →
      (∀ a ∈ found, IsMark a) ∧ ('(' ∉ s → '(' ∉ rest) := by
  fun_induction shorthand? s with
  | case1 =>
      intro found rest read
      cases read
      simp
  | case2 c rest unmarked =>
      intro found behind read
      cases read
      simp
  | case3 =>
      intro found behind read
      cases read
  | case4 c rest kind marked name =>
      rename_i filled ih
      intro found behind read
      obtain ⟨⟨more, left⟩, further, same⟩ := Option.map_eq_some_iff.mp read
      cases same
      obtain ⟨marks, plain⟩ := ih further
      have kinds : kind = "class" ∨ kind = "id" := by
        unfold marked? at marked
        split at marked
        · exact .inl (Option.some.inj marked).symm
        · exact .inr (Option.some.inj marked).symm
        · cases marked
      have holds : Holds name := ⟨by simpa using filled, fun d held => List.mem_takeWhile_imp held⟩
      refine ⟨List.forall_mem_cons.mpr ⟨⟨kinds, _, rfl, by simpa using holds⟩, marks⟩, ?_⟩
      intro outside
      apply plain
      intro inside
      exact outside (List.mem_cons_of_mem c ((List.dropWhile_sublist _).mem inside))

/-- The attributes of a line come from the shorthand and from parentheses behind it. -/
theorem attributes_of_content? {s : List Char} {content : Content}
    (read : content? s = some content) :
    content.attributes = [] ∨ ∃ short behind more rest,
      shorthand? (s.dropWhile continuesName) = some (short, behind) ∧
        parenthesised? behind = some (more, rest) ∧ content.attributes = short ++ more := by
  unfold content? at read
  split_ifs at read
  · obtain ⟨text, _, rfl⟩ := Option.map_eq_some_iff.mp read
    exact .inl rfl
  · simp only [element?] at read
    split at read
    · cases read
    rename_i short behind marks
    split at read
    · cases read
    · split at read
      · cases read
      · rename_i more held
        cases read
        exact .inr ⟨short, behind, more, [], marks, held, rfl⟩
      · rename_i more rest _ held
        obtain ⟨text, _, rfl⟩ := Option.map_eq_some_iff.mp read
        exact .inr ⟨short, behind, more, rest, marks, held, rfl⟩

theorem keeps_of_plain {s : List Char} {content : Content} (plain : '(' ∉ s)
    (read : content? s = some content) : content.Keeps := by
  unfold Content.Keeps
  rcases attributes_of_content? read with none | ⟨short, behind, more, rest, marks, held, all⟩
  · simp [none]
  · obtain ⟨each, outside⟩ := shorthand?_keeps marks
    have apart := outside fun inside => plain ((List.dropWhile_sublist _).mem inside)
    have nothing : more = [] := by
      unfold parenthesised? at held
      split at held
      · exact absurd List.mem_cons_self apart
      · cases held
        rfl
    rw [all, nothing, List.append_nil]
    exact fun a member => (each a member).keepsLine

/-- What stands behind the tag of an element gives no attribute that would break a line, also where
it stands alone. -/
theorem keeps_of_marks {marks : List Attribute} (each : ∀ m ∈ marks, IsMark m)
    {attributes : List Attribute} (named : ∀ a ∈ attributes, IsName a.1) (shown : Option String)
    {content : Content}
    (read : content? (marks.flatMap mark ++
      ((parenthesised attributes).toList ++ behindHead shown)) = some content) :
    content.Keeps := by
  have closes := closes_behindHead shown
  have outside := head_parenthesised attributes closes
  have front := head_marks marks fun c ahead => (outside c ahead).1
  obtain ⟨_, dropped⟩ := name_run (s := []) (by simp) _ front
  rw [List.nil_append] at dropped
  unfold Content.Keeps
  rcases attributes_of_content? read with none | ⟨short, behind, more, rest, taken, held, all⟩
  · simp [none]
  · rw [dropped, shorthand?_marks each outside] at taken
    cases taken
    rw [parenthesised?_written named closes] at held
    cases held
    rw [all, List.forall_mem_append]
    constructor
    · exact fun a member => (each a member).keepsLine
    · exact fun a member => keepsLine_of_inParentheses (List.mem_filter.mp member).2

/-! ## Pieces of lines -/

/-- An attribute that breaks its line is an id with one line feed, at its end. -/
theorem eq_of_not_keepsLine {a : Attribute} (breaks : ¬ KeepsLine a) :
    ∃ u v, a = ("id", some v) ∧ v.toList = u ++ ['\n'] ∧ Holds u ∧ short a = [a] := by
  obtain ⟨name, value⟩ := a
  simp only [KeepsLine, Classical.not_imp, not_forall] at breaks
  obtain ⟨rfl, v, rfl, named, broken⟩ := breaks
  have holds := holds_withoutFinalBreak named
  unfold Jsx.withoutFinalBreak at holds
  split_ifs at holds with feed
  · have split : v.toList = v.toList.dropLast ++ ['\n'] :=
      (List.dropLast_append_getLast? '\n' (by simpa using feed)).symm
    have filled : v ≠ "" := by
      rintro rfl
      cases feed
    exact ⟨_, v, rfl, split, holds, by simp [short, filled, named]⟩
  · exact absurd holds.oneLine broken

/-- A character of a line in front of its parentheses and its text. -/
def IsFront (c : Char) : Prop := c = ' ' ∨ c = '.' ∨ c = '#' ∨ continuesName c = true

theorem IsFront.facts {c : Char} (front : IsFront c) : Text.endsLine c = false ∧ c ≠ '(' := by
  rcases front with rfl | rfl | rfl | named
  · decide
  · decide
  · decide
  · refine ⟨?_, ?_⟩
    · have single : Holds [c] := ⟨by simp, by simpa using named⟩
      simpa using single.oneLine
    · rintro rfl
      revert named
      decide

theorem isFront_marks {marks : List Attribute} (each : ∀ m ∈ marks, IsMark m) :
    ∀ c ∈ marks.flatMap mark, IsFront c := by
  intro c member
  obtain ⟨m, listed, inside⟩ := List.mem_flatMap.mp member
  obtain ⟨_, v, given, holds⟩ := each m listed
  rw [mark, given, List.mem_cons] at inside
  rcases inside with rfl | inside
  · split_ifs
    · exact .inr (.inl rfl)
    · exact .inr (.inr (.inl rfl))
  · exact .inr (.inr (.inr (holds.2 c inside)))

theorem isMark_of_apart {attributes : List Attribute} (apart : ∀ a ∈ attributes, a.1 ≠ "id") :
    ∀ m ∈ attributes.flatMap short, IsMark m := by
  intro m member
  obtain ⟨a, inside, found⟩ := List.mem_flatMap.mp member
  exact isMark_of_mem_short (fun named => absurd named (apart a inside)) m found

theorem oneLine_behindHead (shown : Option String) :
    Text.oneLine (behindHead shown) = true := by
  cases shown with
  | none => rfl
  | some s => simp [behindHead, Text.oneLine_quoted]

/-- The line of an element with an id that breaks it: the first piece ends within the id, and the
second one begins behind it. -/
theorem splitOnP_head {tag : String} (valid : IsName tag) {attributes : List Attribute}
    (named : ∀ a ∈ attributes, IsName a.1) (distinct : (attributes.map Prod.fst).Nodup)
    (shown : Option String) (depth : Nat) {a : Attribute} (member : a ∈ attributes)
    (breaks : ¬ KeepsLine a) :
    ∃ (front : List Char) (marks : List Attribute), '(' ∉ front ∧ (∀ m ∈ marks, IsMark m) ∧
      ((indent depth ++ head tag attributes).toList ++ behindHead shown).splitOnP Text.endsLine =
        [front, marks.flatMap mark ++ ((parenthesised attributes).toList ++ behindHead shown)] := by
  obtain ⟨u, v, rfl, spelled, holds, marked⟩ := eq_of_not_keepsLine breaks
  obtain ⟨before, after, rfl⟩ := List.append_of_mem member
  -- No name comes twice, so this is the only id and all other marks are classes.
  have apart : (∀ b ∈ before, b.1 ≠ "id") ∧ ∀ b ∈ after, b.1 ≠ "id" := by
    simp only [List.map_append, List.map_cons, List.nodup_append, List.nodup_cons] at distinct
    obtain ⟨_, ⟨later, _⟩, earlier⟩ := distinct
    constructor
    · intro b inside
      exact earlier b.1 (List.mem_map_of_mem inside) "id" List.mem_cons_self
    · intro b inside same
      exact later (same ▸ List.mem_map_of_mem inside)
  have first := isMark_of_apart apart.1
  have second := isMark_of_apart apart.2
  generalize lead : (if tag == "div" && shorthand (before ++ ("id", some v) :: after) != "" then []
    else tag.toList) = begins
  have fronts : ∀ c ∈ (indent depth).toList ++
      (begins ++ ((before.flatMap short).flatMap mark ++ '#' :: u)), IsFront c := by
    simp only [List.forall_mem_append, List.forall_mem_cons]
    refine ⟨?_, ?_, isFront_marks first, .inr (.inr (.inl rfl)), ?_⟩
    · intro c inside
      rw [indent, String.toList_ofList] at inside
      exact .inl (List.eq_of_mem_replicate inside)
    · intro c inside
      rw [← lead] at inside
      split_ifs at inside
      · cases inside
      · exact .inr (.inr (.inr ((holds_of_isName valid).2 c inside)))
    · exact fun c inside => .inr (.inr (.inr (holds.2 c inside)))
  have text : (indent depth ++ head tag (before ++ ("id", some v) :: after)).toList ++
      behindHead shown =
        ((indent depth).toList ++ (begins ++ ((before.flatMap short).flatMap mark ++ '#' :: u))) ++
          '\n' :: ((after.flatMap short).flatMap mark ++
            ((parenthesised (before ++ ("id", some v) :: after)).toList ++ behindHead shown)) := by
    have id : mark ("id", some v) = '#' :: (u ++ ['\n']) := by simp [mark, spelled]
    rw [String.toList_append, toList_head, lead]
    simp [marked, id]
  have whole : Text.oneLine ((after.flatMap short).flatMap mark ++
      ((parenthesised (before ++ ("id", some v) :: after)).toList ++ behindHead shown)) = true := by
    have marks : Text.oneLine ((after.flatMap short).flatMap mark) = true :=
      Text.oneLine_iff.mpr fun c inside => (isFront_marks second c inside).facts.1
    simp [marks, oneLine_parenthesised named, oneLine_behindHead]
  refine ⟨_, after.flatMap short, fun inside => (fronts '(' inside).facts.2 rfl, second, ?_⟩
  rw [text, List.splitOnP_append_cons _ _ (by decide),
    List.splitOnP_eq_singleton fun c inside => (fronts c inside).facts.1,
    List.splitOnP_eq_singleton (Text.oneLine_iff.mp whole)]
  rfl

/-- Whether no piece of a line gives an attribute that would break a line. -/
def KeepsInPieces (l : List Char) : Prop :=
  ∀ piece ∈ l.splitOnP Text.endsLine, ∀ line, line? piece = some line → line.content.Keeps

theorem keeps_written {tag : String} {attributes : List Attribute}
    (kept : ∀ a ∈ attributes, KeepsLine a) (shown : Option String) :
    (Content.element tag (written attributes) shown).Keeps := by
  rw [Content.Keeps, Content.attributes, written, List.forall_mem_append]
  constructor
  · intro m member
    obtain ⟨a, inside, found⟩ := List.mem_flatMap.mp member
    exact (isMark_of_mem_short (kept a inside) m found).keepsLine
  · exact fun a member => keepsLine_of_inParentheses (List.mem_filter.mp member).2

theorem front_marks (marks attributes : List Attribute) (shown : Option String) :
    ∀ c ∈ (marks.flatMap mark ++
      ((parenthesised attributes).toList ++ behindHead shown)).head?, c ≠ ' ' := by
  intro c ahead
  cases marks with
  | nil =>
      rw [List.flatMap_nil, List.nil_append, toList_parenthesised] at ahead
      generalize attributes.filter inParentheses = held at ahead
      cases held with
      | nil =>
          rw [closes_behindHead shown c ahead]
          decide
      | cons first more =>
          rw [← Option.some.inj ahead]
          decide
  | cons a marks =>
      simp only [List.flatMap_cons, mark, List.cons_append, List.head?_cons,
        Option.mem_some_iff] at ahead
      split_ifs at ahead
      · rw [← ahead]
        decide
      · rw [← ahead]
        decide

theorem keepsInPieces_head {tag : String} (valid : IsName tag) {attributes : List Attribute}
    (named : ∀ a ∈ attributes, IsName a.1) (distinct : (attributes.map Prod.fst).Nodup)
    (shown : Option String) (depth : Nat) :
    KeepsInPieces ((indent depth ++ head tag attributes).toList ++ behindHead shown) := by
  intro piece found line said
  -- Either the line is whole and is read as it was written, or an id cuts it in two, and neither
  -- piece holds the line feed.
  by_cases kept : ∀ a ∈ attributes, KeepsLine a
  · have headed := (oneLine_head valid named).mpr kept
    have whole : Text.oneLine
        ((indent depth ++ head tag attributes).toList ++ behindHead shown) = true := by
      simp [Jsx.oneLine_indent, headed, oneLine_behindHead]
    have content : content? (head tag attributes ++ String.ofList (behindHead shown)).toList =
        some (.element tag (written attributes) shown) := by
      rw [String.toList_append, String.toList_ofList]
      exact content?_head valid named kept shown
    have known := says_indent depth content
    rw [List.splitOnP_eq_singleton (Text.oneLine_iff.mp whole), List.mem_singleton] at found
    rw [Says, ← String.append_assoc, String.toList_append, String.toList_ofList, ← found,
      said] at known
    rw [Option.some.inj known]
    exact keeps_written kept shown
  · simp only [not_forall] at kept
    obtain ⟨a, member, breaks⟩ := kept
    obtain ⟨front, marks, plain, each, pieces⟩ :=
      splitOnP_head valid named distinct shown depth member breaks
    obtain ⟨content, read, rfl⟩ := Option.map_eq_some_iff.mp said
    rw [pieces, List.mem_pair] at found
    rcases found with rfl | rfl
    · exact keeps_of_plain (fun inside => plain ((List.dropWhile_sublist _).mem inside)) read
    · apply keeps_of_marks each named shown
      have first := front_marks marks attributes shown
      generalize marks.flatMap mark ++ ((parenthesised attributes).toList ++ behindHead shown) =
        behind at first read
      cases behind with
      | nil => exact read
      | cons c behind =>
          rwa [List.dropWhile_cons_of_neg (by simpa using first c rfl)] at read

/-! ## Trees whose lines break -/

theorem keepsInPieces_text (s : String) (depth : Nat) :
    KeepsInPieces (indent depth ++ "= " ++ Text.quoted s).toList := by
  intro piece found line said
  have whole : Text.oneLine (indent depth ++ "= " ++ Text.quoted s).toList = true := by
    simp [Jsx.oneLine_indent, Text.oneLine_quoted]
  have known := says_text s depth
  rw [List.splitOnP_eq_singleton (Text.oneLine_iff.mp whole), List.mem_singleton] at found
  rw [Says, ← found, said] at known
  rw [Option.some.inj known]
  simp [Content.Keeps, Content.attributes]

variable {tags names : List String}

/-- No piece of the lines of regular trees gives an attribute that would break a line. -/
theorem keepsInPieces_lines (validTags : ∀ tag ∈ tags, IsName tag)
    (validNames : ∀ n ∈ names, IsName n) {ms : List Markup}
    (regular : Markup.Regular tags names ms) : ∀ depth : Nat,
      ∀ l ∈ linesOfAll depth ms, KeepsInPieces l.toList := by
  induction ms using denoted.induct with
  | case1 => simp [linesOfAll]
  | case2 s rest ih =>
      rw [Markup.Regular] at regular
      intro depth
      simp only [linesOfAll, lines, List.singleton_append, List.forall_mem_cons]
      exact ⟨keepsInPieces_text s depth, ih regular.2 depth⟩
  | case3 tag attributes children rest ihChildren ihRest =>
      rw [Markup.Regular] at regular
      obtain ⟨⟨known, distinct, inside⟩, others⟩ := regular
      intro depth
      have named : ∀ a ∈ attributes, IsName a.1 := fun a member =>
        validNames _ (distinct.2 _ (List.mem_map_of_mem member))
      have here := fun shown => keepsInPieces_head (validTags tag known) named distinct.1 shown depth
      rw [linesOfAll, List.forall_mem_append]
      refine ⟨?_, ihRest others depth⟩
      by_cases single : ∃ t, children = [.text t]
      · obtain ⟨t, rfl⟩ := single
        have shown := here (some t)
        simp only [lines, List.forall_mem_singleton]
        simpa [behindHead] using shown
      · have alone := here none
        rw [behindHead, List.append_nil] at alone
        rw [lines_block depth tag attributes fun t same => single ⟨t, same⟩, List.forall_mem_cons]
        exact ⟨alone, ihChildren inside (depth + 1)⟩

theorem mem_of_filledLines {ls : List String} {piece : List Char}
    (member : piece ∈ filledLines (Text.file ls)) :
    ∃ l ∈ ls, piece ∈ l.toList.splitOnP Text.endsLine := by
  have feed : Text.endsLine '\n' = true := by decide
  obtain ⟨found, filled⟩ := List.mem_filter.mp member
  clear member
  induction ls with
  | nil =>
      rw [Text.file_nil, List.splitOnP_nil, List.mem_singleton] at found
      rw [found] at filled
      cases filled
  | cons l ls ih =>
      rw [Text.file_cons, List.splitOnP_append_cons _ _ feed, List.mem_append] at found
      rcases found with here | later
      · exact ⟨l, List.mem_cons_self, here⟩
      · obtain ⟨other, listed, inside⟩ := ih later
        exact ⟨other, List.mem_cons_of_mem _ listed, inside⟩

theorem exists_of_mapM {pieces : List (List Char)} : ∀ {found : List Line},
    pieces.mapM line? = some found →
      ∀ line ∈ found, ∃ piece ∈ pieces, line? piece = some line := by
  induction pieces with
  | nil =>
      intro found read
      cases read
      simp
  | cons piece pieces ih =>
      intro found read
      simp only [List.mapM_cons, Option.bind_eq_bind, Option.bind_eq_some_iff] at read
      obtain ⟨first, here, more, later, same⟩ := read
      cases same
      rw [List.forall_mem_cons]
      refine ⟨⟨piece, List.mem_cons_self, here⟩, ?_⟩
      intro line listed
      obtain ⟨other, inside, said⟩ := ih later line listed
      exact ⟨other, List.mem_cons_of_mem _ inside, said⟩

/-- **Reading back.** The lines of regular trees are read as what the trees denote exactly if no
attribute of the trees breaks a line. -/
theorem read?_lines_iff (validTags : ∀ tag ∈ tags, IsName tag)
    (validNames : ∀ n ∈ names, IsName n) {ms : List Markup}
    (regular : Markup.Regular tags names ms) (depth : Nat) :
    read? (Text.file (linesOfAll depth ms)) = some (denoted ms) ↔
      ∀ a ∈ Markup.allAttributes ms, KeepsLine a := by
  constructor
  · -- What is read of the file comes from its pieces, and none of them gives a broken id.
    intro same a member named
    unfold read? at same
    split at same
    · rename_i found read
      obtain ⟨line, listed, given⟩ := mem_of_nodes? same (mem_attributesIn named member)
      obtain ⟨piece, filled, said⟩ := exists_of_mapM read line listed
      obtain ⟨l, written, inside⟩ := mem_of_filledLines filled
      exact keepsInPieces_lines validTags validNames regular depth l written piece inside line said
        a given named
    · cases same
  · intro kept
    apply read?_lines validTags validNames regular depth
    exact (oneLine_lines validTags validNames regular depth).mpr kept

end Wireframe.Export.Pug
