import Wireframe.Proofs.Export.JsxTags

/-! # The projection to JSX denotes the trees

Read by the rules of JSX, the lines that are written for regular trees give the nodes that
the trees denote, where a text that stands as it is shows what raw text shows
(`Wireframe.Export.Jsx.read?_lines`). That is the text itself unless the text holds a
character at which raw text is cut (`shownText_eq_iff`). A line is broken by nothing but a
text or a value that stands as it is (`oneLine_lines`).
-/

namespace Wireframe.Export.Jsx

open Markup (IsName)

/-! ## Reading on -/

/-- Reading a text from the start, with whatever follows it, leads to something that is known once
its raw text is ended. -/
def Leads (s : List Char) (f : Partial) : Prop :=
  ∃ q : Partial, (∀ rest, readFrom ⟨[], [], []⟩ (s ++ rest) = readFrom q rest) ∧ q.flush = f

/-- Reading a text leads to something, and the raw text that is open then shows nothing. -/
def Rests (s : List Char) (f : Partial) : Prop :=
  ∃ q : Partial, (∀ rest, readFrom ⟨[], [], []⟩ (s ++ rest) = readFrom q rest) ∧ q.flush = f ∧
    ∀ c ∈ q.raw, Text.isBlank c = true

theorem Rests.leads {s : List Char} {f : Partial} (rests : Rests s f) : Leads s f := by
  obtain ⟨q, taken, same, _⟩ := rests
  exact ⟨q, taken, same⟩

theorem rests_nil : Rests [] ⟨[], [], []⟩ := ⟨⟨[], [], []⟩, fun _ => rfl, rfl, by simp⟩

theorem read?_of_leads {s : List Char} {nodes : List Node} (leads : Leads s ⟨[], nodes, []⟩) :
    read? s = some nodes.reverse := by
  obtain ⟨q, taken, same⟩ := leads
  have all := taken []
  have outside : q.enclosing = [] := congrArg Partial.enclosing same
  have found : q.flush.nodes = nodes := congrArg Partial.nodes same
  rw [List.append_nil] at all
  have ended : readFrom q [] = some q := by
    rw [readFrom]
    rfl
  rw [read?, all, ended]
  simp [outside, found]

theorem readFrom_token {p q : Partial} {s : List Char} {t : Token} (filled : s ≠ [])
    (found : ∀ rest, token? (s ++ rest) = some (t, rest)) (next : p.step t = some q)
    (rest : List Char) : readFrom p (s ++ rest) = readFrom q rest := by
  have positive := List.length_pos_iff.mpr filled
  have shorter : rest.length < (s ++ rest).length := by
    rw [List.length_append]
    omega
  have more : (s ++ rest).isEmpty = false := by
    rw [List.isEmpty_eq_false_iff]
    exact List.append_ne_nil_of_left_ne_nil filled rest
  rw [readFrom]
  simp only [more, Bool.false_eq_true, ↓reduceIte, found, shorter, next]

/-- A tag or a string expression takes what comes once the raw text before it is ended, and leaves
no raw text open. -/
theorem Leads.token {s text : List Char} {f g : Partial} {t : Token} (leads : Leads s f)
    (filled : text ≠ []) (found : ∀ rest, token? (text ++ rest) = some (t, rest))
    (next : ∀ q : Partial, q.flush = f → q.step t = some g) (rested : g.raw = []) :
    Rests (s ++ text) g := by
  obtain ⟨q, taken, same⟩ := leads
  refine ⟨g, ?_, ?_, by simp [rested]⟩
  · intro rest
    rw [List.append_assoc, taken, readFrom_token filled found (next q same)]
  · obtain ⟨raw, nodes, enclosing⟩ := g
    obtain rfl : raw = [] := rested
    rfl

theorem readFrom_raw {s : List Char} (plain : ∀ c ∈ s, isRaw c = true) (rest : List Char) :
    ∀ p : Partial, readFrom p (s ++ rest) = readFrom { p with raw := p.raw ++ s } rest := by
  induction s with
  | nil =>
      intro p
      rw [List.nil_append, List.append_nil]
  | cons c s ih =>
      intro p
      rw [List.forall_mem_cons] at plain
      have first := readFrom_token (p := p) (s := [c]) (by simp)
        (fun rest => token?_raw plain.1 rest) rfl (s ++ rest)
      rw [List.singleton_append] at first
      rw [List.cons_append, first, ih plain.2]
      simp

theorem isRaw_of_layout {c : Char} (layout : c = ' ' ∨ c = '\n') :
    isRaw c = true ∧ Text.isBlank c = true := by
  rcases layout with rfl | rfl <;> decide

theorem flush_blank (q : Partial) {s : List Char} (blank : ∀ c ∈ s, Text.isBlank c = true) :
    Partial.flush { q with raw := q.raw ++ s } = q.flush := by
  have same := clean_blanks [] q.raw s (by simp) blank
  rw [List.nil_append] at same
  simp only [Partial.flush, same]

theorem Leads.raw {s : List Char} {f : Partial} (leads : Leads s f) : f.raw = [] := by
  obtain ⟨q, _, same⟩ := leads
  exact congrArg Partial.raw same.symm

theorem Leads.layout {s text : List Char} {f : Partial} (leads : Leads s f)
    (layout : ∀ c ∈ text, c = ' ' ∨ c = '\n') : Leads (s ++ text) f := by
  obtain ⟨q, taken, same⟩ := leads
  refine ⟨{ q with raw := q.raw ++ text }, ?_, ?_⟩
  · intro rest
    rw [List.append_assoc, taken, readFrom_raw fun c member => (isRaw_of_layout (layout c member)).1]
  · rw [flush_blank q fun c member => (isRaw_of_layout (layout c member)).2, same]

theorem Rests.layout {s text : List Char} {f : Partial} (rests : Rests s f)
    (layout : ∀ c ∈ text, c = ' ' ∨ c = '\n') : Rests (s ++ text) f := by
  obtain ⟨q, taken, same, quiet⟩ := rests
  have blank : ∀ c ∈ text, Text.isBlank c = true :=
    fun c member => (isRaw_of_layout (layout c member)).2
  refine ⟨{ q with raw := q.raw ++ text }, ?_, ?_, ?_⟩
  · intro rest
    rw [List.append_assoc, taken, readFrom_raw fun c member => (isRaw_of_layout (layout c member)).1]
  · rw [flush_blank q blank, same]
  · exact List.forall_mem_append.mpr ⟨quiet, blank⟩

theorem plainText_facts {s : List Char} (plain : isPlainText s = true) :
    Text.trim s = s ∧ (∃ c rest, s = c :: rest ∧ Text.isBlank c = false) ∧
      ∀ c ∈ s, isRaw c = true ∧ c ≠ '\n' := by
  simp only [isPlainText, Bool.and_eq_true, beq_iff_eq, List.all_eq_true] at plain
  obtain ⟨⟨filled, inside⟩, trimmed⟩ := plain
  refine ⟨trimmed, ?_, ?_⟩
  · cases s with
    | nil => cases filled
    | cons c s => exact ⟨c, s, rfl, not_blank_of_trim trimmed⟩
  · intro c member
    have allowed := inside c member
    simp only [isPlainTextChar, Bool.not_eq_true', Bool.or_eq_false_iff] at allowed
    simp only [isRaw, allowed, Bool.or_self, Bool.not_false, true_and]
    exact beq_eq_false_iff_ne.mp allowed.2

/-- What has been read, with more nodes in the innermost element. -/
def Partial.with (f : Partial) (more : List Node) : Partial :=
  { f with nodes := more.reverse ++ f.nodes }

/-- A text is read as it looks where the raw text before it shows nothing. -/
theorem Rests.shows {before : List Char} {f : Partial} (rests : Rests before f) (s : String) :
    Leads (before ++ (text s).toList) (f.with [.text (shownText s)]) := by
  unfold text shownText
  by_cases plain : isPlainText s.toList = true
  · obtain ⟨q, taken, same, quiet⟩ := rests
    obtain ⟨_, ⟨c, rest, spelled, unblank⟩, inside⟩ := plainText_facts plain
    -- The blanks of the indentation and the text are one piece of raw text for the reader.
    have shown : clean (q.raw ++ s.toList) = clean s.toList := by
      have alone := clean_blanks q.raw s.toList [] quiet (by simp)
      rwa [List.append_nil] at alone
    have nothing : clean q.raw = [] := clean_of_blank quiet
    have something : clean s.toList ≠ [] := by
      rw [spelled]
      exact clean_ne_nil unblank rest
    simp only [plain, ↓reduceIte]
    refine ⟨{ q with raw := q.raw ++ s.toList }, ?_, ?_⟩
    · intro rest
      rw [List.append_assoc, taken, readFrom_raw fun c member => (inside c member).1]
    · rw [← same]
      simp [Partial.flush, Partial.with, shown, nothing, something]
  · simp only [plain, Bool.false_eq_true, ↓reduceIte]
    apply Rests.leads
    refine rests.leads.token ?_ (token?_expression s) ?_ ?_
    · simp [expression]
    · intro q same
      simp only [Partial.step, same]
      rfl
    · exact rests.leads.raw

/-! ## Lines -/

variable {tags names : List String}

theorem lines_block (depth : Nat) (tag : String) (attributes : List Attribute)
    {children : List Markup} (filled : children ≠ []) (mixed : ∀ s, children ≠ [.text s]) :
    lines depth (.element tag attributes children) =
      (indent depth ++ ("<" ++ tag ++ props tag attributes (.element tag attributes children)) ++
          ">") ::
        (linesOfAll (depth + 1) children ++ [indent depth ++ "</" ++ tag ++ ">"]) := by
  unfold lines
  split
  · exact absurd rfl filled
  · rename_i s
    exact absurd rfl (mixed s)
  · rfl

theorem layout_indent (depth : Nat) : ∀ c ∈ (indent depth).toList, c = ' ' ∨ c = '\n' := by
  intro c member
  rw [indent, String.toList_ofList] at member
  exact .inl (List.eq_of_mem_replicate member)

/-- The tag that begins an element sets apart what comes before the element. -/
theorem Leads.opening {s : List Char} {f : Partial} (leads : Leads s f) {tag : String}
    (valid : IsName tag) (attributes : List Attribute) (named : ∀ a ∈ attributes, IsName a.1)
    (m : Markup) :
    Rests (s ++ ("<" ++ tag ++ props tag attributes m ++ ">").toList)
      ⟨[], [], (tag, properties tag attributes m, f.nodes) :: f.enclosing⟩ := by
  refine leads.token (t := .opening tag (properties tag attributes m) false) (by simp) ?_ ?_ rfl
  · intro rest
    have found := token?_opening valid attributes named m false ('>' :: rest) rfl
    simpa using found
  · intro q same
    have held : q.flush.nodes = f.nodes := congrArg Partial.nodes same
    have outer : q.flush.enclosing = f.enclosing := congrArg Partial.enclosing same
    simp only [Partial.step, Bool.false_eq_true, ↓reduceIte, held, ← outer]
    rfl

/-- The tag of an element that holds nothing adds the element. -/
theorem Leads.closed {s : List Char} {f : Partial} (leads : Leads s f) {tag : String}
    (valid : IsName tag) (attributes : List Attribute) (named : ∀ a ∈ attributes, IsName a.1)
    (m : Markup) :
    Rests (s ++ ("<" ++ tag ++ props tag attributes m ++ " />").toList)
      (f.with [.element tag (properties tag attributes m) []]) := by
  refine leads.token (t := .opening tag (properties tag attributes m) true) (by simp) ?_ ?_ ?_
  · intro rest
    have found := token?_opening valid attributes named m true (' ' :: '/' :: '>' :: rest) rfl
    simpa using found
  · intro q same
    simp only [Partial.step, same, ↓reduceIte]
    rfl
  · exact leads.raw

theorem Leads.closing {s : List Char} {tag : String} {found : List Property}
    {nodes before : List Node} {enclosing : List (String × List Property × List Node)}
    (leads : Leads s ⟨[], nodes, (tag, found, before) :: enclosing⟩) (valid : IsName tag) :
    Rests (s ++ ("</" ++ tag ++ ">").toList)
      ⟨[], .element tag found nodes.reverse :: before, enclosing⟩ := by
  refine leads.token (t := .closing tag) (by simp) ?_ ?_ rfl
  · intro rest
    have read := token?_closing valid rest
    simpa using read
  · intro q same
    have opened : q.enclosing = (tag, found, before) :: enclosing :=
      congrArg Partial.enclosing same
    have held : q.flush.nodes = nodes := congrArg Partial.nodes same
    simp only [Partial.step, opened, beq_self_eq_true, ↓reduceIte, held]

theorem Leads.with_eq {s : List Char} {f : Partial} (leads : Leads s f) (more : List Node) :
    f.with more = ⟨[], more.reverse ++ f.nodes, f.enclosing⟩ := by
  rw [← leads.raw]
  rfl

theorem Partial.with_with (f : Partial) (first second : List Node) :
    (f.with first).with second = f.with (first ++ second) := by
  simp [Partial.with]

/-- The lines of an element add the element, if the lines of what it holds add that. -/
theorem Leads.element {s : List Char} {f : Partial} (leads : Leads s f) {tag : String}
    (valid : IsName tag) {attributes : List Attribute} (named : ∀ a ∈ attributes, IsName a.1)
    {children : List Markup}
    (inside : ∀ (depth : Nat) (s : List Char) (f : Partial), Rests s f →
      Leads (s ++ Text.file (linesOfAll depth children)) (f.with (denoted shownText children)))
    (depth : Nat) :
    Rests (s ++ Text.file (lines depth (.element tag attributes children)))
      (f.with (denoted shownText [.element tag attributes children])) := by
  have feed : ∀ c ∈ ['\n'], c = ' ' ∨ c = '\n' := by simp
  have start := leads.layout (layout_indent depth)
  have whole := leads.with_eq (denoted shownText [.element tag attributes children])
  simp only [denoted, List.reverse_singleton, List.singleton_append] at whole ⊢
  by_cases empty : children = []
  · subst empty
    have added := (start.closed valid attributes named (.element tag attributes [])).layout feed
    simpa [lines, denoted] using added
  have opened := start.opening valid attributes named (.element tag attributes children)
  by_cases single : ∃ t, children = [.text t]
  · obtain ⟨t, rfl⟩ := single
    have added := ((opened.shows t).closing valid).layout feed
    rw [whole]
    simpa [lines, denoted] using added
  · have mixed : ∀ t, children ≠ [.text t] := fun t same => single ⟨t, same⟩
    have held := inside (depth + 1) _ _ (opened.layout feed)
    have added := ((held.layout (layout_indent depth)).closing valid).layout feed
    rw [whole, lines_block depth tag attributes empty mixed]
    simpa using added

/-- The lines of regular trees add what the trees denote. A text comes only where the raw text that
is open shows nothing, since what stands before a text is an element or a tag. -/
theorem leads_lines (validTags : ∀ tag ∈ tags, IsName tag) (validNames : ∀ n ∈ names, IsName n)
    {ms : List Markup} (regular : Markup.Regular tags names ms) :
    ∀ (depth : Nat) (s : List Char) (f : Partial),
      Rests s f ∨ Leads s f ∧ (∀ m ∈ ms.head?, m.isElement = true) →
        Leads (s ++ Text.file (linesOfAll depth ms)) (f.with (denoted shownText ms)) := by
  have feed : ∀ c ∈ ['\n'], c = ' ' ∨ c = '\n' := by simp
  -- By induction on the trees, over all that may stand before them. Behind a text raw text is open
  -- that shows something, so the induction has to know that no second text follows it.
  induction ms using denoted.induct with
  | case1 =>
      intro depth s f start
      have leads : Leads s f := start.elim Rests.leads And.left
      simpa [linesOfAll, denoted, Partial.with] using leads
  | case2 t rest ih =>
      rw [Markup.Regular] at regular
      obtain ⟨next, others⟩ := regular
      intro depth s f start
      rcases start with rests | ⟨_, apart⟩
      · have shown := ((rests.layout (layout_indent depth)).shows t).layout feed
        have behind := ih others depth _ _ (.inr ⟨shown, next⟩)
        rw [Partial.with_with] at behind
        simpa [linesOfAll, lines, denoted] using behind
      · cases apart _ rfl
  | case3 tag attributes children rest ihChildren ihRest =>
      rw [Markup.Regular] at regular
      obtain ⟨⟨known, distinct, inside⟩, others⟩ := regular
      intro depth s f start
      have leads : Leads s f := start.elim Rests.leads And.left
      have named : ∀ a ∈ attributes, IsName a.1 := fun a member =>
        validNames _ (distinct.2 _ (List.mem_map_of_mem member))
      have first := leads.element (validTags tag known) named
        (fun depth s f rests => ihChildren inside depth s f (.inl rests)) depth
      have behind := ihRest others depth _ _ (.inl first)
      rw [Partial.with_with] at behind
      simpa [linesOfAll, denoted] using behind

/-- **The lines are read back.** Read by the rules of JSX, the lines of regular trees give what the
trees denote. -/
theorem read?_lines (validTags : ∀ tag ∈ tags, IsName tag) (validNames : ∀ n ∈ names, IsName n)
    {ms : List Markup} (regular : Markup.Regular tags names ms) (depth : Nat) :
    read? (Text.file (linesOfAll depth ms)) = some (denoted shownText ms) := by
  have all := leads_lines validTags validNames regular depth [] ⟨[], [], []⟩ (.inl rests_nil)
  rw [List.nil_append] at all
  simpa [Partial.with] using read?_of_leads all

/-! ## Texts that change -/

/-- A text looks as it is unless it stands as it is and holds a character at which raw text is
cut. -/
theorem shownText_eq_iff (s : String) :
    shownText s = s ↔
      (isPlainText s.toList = true → ∀ c ∈ s.toList, cutsText c = false) := by
  unfold shownText
  by_cases plain : isPlainText s.toList = true
  · simp only [plain, ↓reduceIte, forall_const]
    constructor
    · intro same c member
      rw [← same, String.toList_ofList] at member
      exact cutsText_of_mem_clean member
    · intro whole
      rw [clean_of_trimmed (plainText_facts plain).1 whole, String.ofList_toList]
  · simp [plain]

/-- Trees denote the same with two looks of texts exactly if their texts look the same. -/
theorem denoted_eq_iff (look other : String → String) (ms : List Markup) :
    denoted look ms = denoted other ms ↔ ∀ s ∈ Markup.texts ms, look s = other s := by
  induction ms using denoted.induct with
  | case1 => simp [denoted, Markup.texts]
  | case2 s rest ih => simp [denoted, Markup.texts, ih]
  | case3 tag attributes children rest ihChildren ihRest =>
      simp [denoted, Markup.texts, ihChildren, ihRest, or_imp, forall_and]

/-! ## Lines that break -/

theorem oneLine_expression (s : String) : Text.oneLine (expression s).toList = true := by
  simp [expression, Text.oneLine_quoted]

theorem oneLine_of_isPropName {name : String} (valid : IsPropName name) :
    Text.oneLine name.toList = true :=
  Text.oneLine_of_filled fun c member => (isNameChar_facts (valid.2 c member)).1

theorem oneLine_text (s : String) :
    Text.oneLine (text s).toList = true ↔
      (isPlainText s.toList = true → Text.oneLine s.toList = true) := by
  unfold text
  by_cases plain : isPlainText s.toList = true
  · simp [plain]
  · simp [plain, oneLine_expression]

/-- Whether an attribute does not break the line of its tag: what is selected is not written there,
and a value breaks no line unless it stands as it is. -/
def KeepsLine (a : Attribute) : Prop :=
  a.1 ≠ "selected" → ∀ v ∈ a.2, isPlainValue v.toList = true → Text.oneLine v.toList = true

theorem oneLine_prop {a : Attribute} (valid : IsName a.1) :
    (∀ p ∈ prop a, Text.oneLine p.toList = true) ↔ KeepsLine a := by
  obtain ⟨name, value⟩ := a
  have named := oneLine_of_isPropName (isPropName_propName valid)
  by_cases selected : name = "selected"
  · simp [prop, KeepsLine, selected]
  · cases value with
    | none => simp [prop, KeepsLine, selected, named]
    | some v =>
        by_cases plain : isPlainValue v.toList = true
        · simp [prop, KeepsLine, selected, plain, named]
        · simp [prop, KeepsLine, selected, plain, named, oneLine_expression]

theorem oneLine_listed (items : List String) : Text.oneLine (listed items) = true := by
  have between : Text.oneLine ", ".toList = true := by decide
  unfold listed
  induction items with
  | nil => rfl
  | cons first more ih =>
      cases more with
      | nil => simp [Text.oneLine_quoted]
      | cons next more =>
          simp only [List.map_cons, List.intercalate_cons_cons, Text.oneLine_append,
            Text.oneLine_quoted, between, Bool.true_and] at ih ⊢
          exact ih

theorem oneLine_selectDefault (tag : String) (m : Markup) :
    ∀ p ∈ selectDefault tag m, Text.oneLine p.toList = true := by
  have named : Text.oneLine "defaultValue=".toList = true := by decide
  have opening : Text.oneLine "defaultValue=\x7b".toList = true := by decide
  unfold selectDefault
  cases tag == "select" with
  | false => simp
  | true =>
      cases selectedValues m with
      | nil => simp
      | cons first more =>
          cases m.hasAttribute "multiple" with
          | true =>
              simp only [↓reduceIte, List.forall_mem_singleton, String.toList_append, toList_list,
                Text.oneLine_append, opening]
              simp [oneLine_listed]
          | false =>
              simp only [Bool.false_eq_true, ↓reduceIte, List.forall_mem_singleton,
                String.toList_append, Text.oneLine_append, named, oneLine_expression, Bool.and_self]

theorem oneLine_props (tag : String) {attributes : List Attribute}
    (names : ∀ a ∈ attributes, IsName a.1) (m : Markup) :
    Text.oneLine (props tag attributes m).toList = true ↔ ∀ a ∈ attributes, KeepsLine a := by
  have each : Text.oneLine (props tag attributes m).toList = true ↔
      ∀ p ∈ attributes.filterMap prop ++ selectDefault tag m, Text.oneLine p.toList = true := by
    rw [toList_props, Text.oneLine_flatMap, List.all_map, List.all_eq_true]
    simp
  -- What is selected stands in string expressions, so only the attributes can break the line.
  rw [each, List.forall_mem_append, and_iff_left (oneLine_selectDefault tag m)]
  constructor
  · intro written a member
    rw [← oneLine_prop (names a member)]
    intro p found
    exact written p (List.mem_filterMap.mpr ⟨a, member, found⟩)
  · intro kept p member
    obtain ⟨a, inside, found⟩ := List.mem_filterMap.mp member
    exact (oneLine_prop (names a inside)).mpr (kept a inside) p found

/-- The lines of an element are whole exactly if its attributes keep their line and the lines of
what it holds are whole. -/
theorem oneLine_element {tag : String} (valid : IsName tag) {attributes : List Attribute}
    (named : ∀ a ∈ attributes, IsName a.1) (children : List Markup) (depth : Nat) :
    (∀ l ∈ lines depth (.element tag attributes children), Text.oneLine l.toList = true) ↔
      (∀ a ∈ attributes, KeepsLine a) ∧
        ∀ l ∈ linesOfAll (depth + 1) children, Text.oneLine l.toList = true := by
  have props := oneLine_props tag named (.element tag attributes children)
  have tagged := oneLine_of_isPropName (isPropName_of_isName valid)
  rw [← props]
  by_cases empty : children = []
  · subst empty
    simp [lines, linesOfAll, oneLine_indent, tagged]
  by_cases single : ∃ t, children = [.text t]
  · obtain ⟨t, rfl⟩ := single
    simp [lines, linesOfAll, oneLine_indent, tagged]
  · have mixed : ∀ t, children ≠ [.text t] := fun t same => single ⟨t, same⟩
    rw [lines_block depth tag attributes empty mixed]
    simp [oneLine_indent, tagged, or_imp, forall_and]

/-- **Lines that break.** The lines of regular trees are whole exactly if no text and no value that
stands as it is breaks its line. -/
theorem oneLine_lines (validTags : ∀ tag ∈ tags, IsName tag) (validNames : ∀ n ∈ names, IsName n)
    {ms : List Markup} (regular : Markup.Regular tags names ms) : ∀ (depth : Nat),
      (∀ l ∈ linesOfAll depth ms, Text.oneLine l.toList = true) ↔
        (∀ s ∈ Markup.texts ms, isPlainText s.toList = true → Text.oneLine s.toList = true) ∧
          ∀ a ∈ Markup.allAttributes ms, KeepsLine a := by
  induction ms using denoted.induct with
  | case1 => simp [linesOfAll, Markup.texts, Markup.allAttributes]
  | case2 t rest ih =>
      rw [Markup.Regular] at regular
      intro depth
      simp [linesOfAll, lines, Markup.texts, Markup.allAttributes, oneLine_indent, oneLine_text,
        ih regular.2, and_assoc]
  | case3 tag attributes children rest ihChildren ihRest =>
      rw [Markup.Regular] at regular
      obtain ⟨⟨known, distinct, inside⟩, others⟩ := regular
      intro depth
      have named : ∀ a ∈ attributes, IsName a.1 := fun a member =>
        validNames _ (distinct.2 _ (List.mem_map_of_mem member))
      have first := oneLine_element (validTags tag known) named children depth
      rw [linesOfAll, List.forall_mem_append, first, ihChildren inside, ihRest others,
        Markup.texts, Markup.allAttributes, List.forall_mem_append, List.forall_mem_append,
        List.forall_mem_append]
      tauto

end Wireframe.Export.Jsx
