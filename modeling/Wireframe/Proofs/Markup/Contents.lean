import Wireframe.Proofs.Markup.Written

/-! # Reading back what was written

Reading the markup of well-formed trees gives the trees back, up to two things that
markup does not show: neighbouring texts are one run of text, and runs of blanks alone are
layout (`Wireframe.Markup.read_writeAll`). The texts and the values of attributes may
hold any characters.
-/

namespace Wireframe.Markup

/-! ## Well-formed trees -/

mutual

/-- A tree whose tags and attributes have valid names, without elements of raw text, and with
nothing in its void elements. -/
def WellFormed : Markup → Prop
  | .text _ => True
  | .element tag attributes children =>
    IsName tag ∧ rawElements.contains tag = false ∧ (∀ a ∈ attributes, IsName a.1) ∧
      (isVoid tag = true → children = []) ∧ AllWellFormed children

/-- Several trees that are all well-formed. -/
def AllWellFormed : List Markup → Prop
  | [] => True
  | m :: rest => m.WellFormed ∧ AllWellFormed rest

end

theorem allWellFormed_iff {ms : List Markup} : AllWellFormed ms ↔ ∀ m ∈ ms, m.WellFormed := by
  induction ms with
  | nil => simp [AllWellFormed]
  | cons m ms ih => simp [AllWellFormed, ih]

/-! ## What reading makes of trees -/

/-- A run of text as a tree; a run of blanks alone is none. -/
def run (s : String) : List Markup := if Text.allBlank s.toList then [] else [.text s]

@[simp] theorem run_empty : run "" = [] := rfl

@[simp] theorem run_lineFeed : run "\n" = [] := rfl

/-- What reading makes of trees behind a text that is still open: neighbouring texts become one
run, and runs of blanks alone are left out. -/
def contentsFrom (pending : String) : List Markup → List Markup
  | [] => run pending
  | .text s :: rest => contentsFrom (pending ++ s) rest
  | .element tag attributes children :: rest =>
    run pending ++ .element tag attributes (contentsFrom "" children) :: contentsFrom "" rest

/-- What reading makes of trees. -/
def contents (ms : List Markup) : List Markup := contentsFrom "" ms

/-- A run of text as a token; an empty run is none. -/
def textRun (s : String) : List Token := if s = "" then [] else [.text s]

/-- The tokens of the markup of trees behind a text that is still open. -/
def flow (pending : String) : List Markup → List Token
  | [] => textRun pending
  | .text s :: rest => flow (pending ++ s) rest
  | .element tag attributes children :: rest =>
    textRun pending ++ .startTag tag attributes false ::
      ((if isVoid tag then [] else flow "" children ++ [.endTag tag]) ++ flow "" rest)

/-! ## From markup to tokens -/

theorem tokensFrom_append (raw : Option String) (passed rest : List Char) :
    tokensFrom raw passed.length (passed ++ rest) = tokensFrom raw 0 rest := by
  induction passed with
  | nil => rfl
  | cons c passed ih =>
      rw [List.length_cons, List.cons_append]
      cases raw <;> exact ih

/-- The tokens of a lexeme come before those of what follows it. -/
theorem tokensFrom_lexeme {taken rest : List Char} {found : List Token} {raw : Option String}
    (filled : taken ≠ [])
    (ahead : lexemeAtFront (taken ++ rest) = .ok ⟨found, taken.length, raw⟩) :
    tokensFrom none 0 (taken ++ rest) =
      (found ++ (tokensFrom raw 0 rest).1, (tokensFrom raw 0 rest).2) := by
  cases taken with
  | nil => exact absurd rfl filled
  | cons c taken =>
      rw [List.cons_append] at ahead ⊢
      rw [tokensFrom, ahead]
      simp only [List.length_cons, Nat.add_one_sub_one, tokensFrom_append]

/-- An open text is one token in front of a tag, or none if it is empty. -/
theorem tokensFrom_textRun (pending : String) {rest : List Char}
    (outside : ∀ c ∈ rest.head?, c = '<') :
    tokensFrom none 0 (pending.toList.flatMap escapeChar ++ rest) =
      (textRun pending ++ (tokensFrom none 0 rest).1, (tokensFrom none 0 rest).2) := by
  by_cases empty : pending = ""
  · subst empty
    rfl
  · have filled : pending.toList ≠ [] := by simpa using empty
    have ahead := lexemeAtFront_escape filled outside
    rw [String.ofList_toList] at ahead
    rw [tokensFrom_lexeme (escape_ne_nil filled) ahead, textRun, if_neg empty]

/-- What follows an element begins with a tag, as an element does. -/
theorem head_startTag (tag : String) (attributes : List Attribute) (rest : List Char) :
    ∀ c ∈ ((startTag tag attributes).toList ++ rest).head?, c = '<' := by
  simp [toList_startTag]

theorem head_endTag (tag : String) (rest : List Char) :
    ∀ c ∈ ((endTag tag).toList ++ rest).head?, c = '<' := by
  simp [endTag]

/-- **Tokens of written trees.** The markup of well-formed trees behind an open text is read as the
tokens of the trees, and then come the tokens of what follows. -/
theorem tokensFrom_writeAll (pending : String) (ms : List Markup) (valid : AllWellFormed ms) :
    ∀ (rest : List Char), (∀ c ∈ rest.head?, c = '<') →
      tokensFrom none 0 (pending.toList.flatMap escapeChar ++ ((writeAll ms).toList ++ rest)) =
        (flow pending ms ++ (tokensFrom none 0 rest).1, (tokensFrom none 0 rest).2) := by
  induction pending, ms using flow.induct with
  | case1 pending =>
      intro rest outside
      have read := tokensFrom_textRun pending outside
      simpa [writeAll, flow] using read
  | case2 pending s ms ih =>
      intro rest outside
      have joined : (pending ++ s).toList.flatMap escapeChar =
          pending.toList.flatMap escapeChar ++ s.toList.flatMap escapeChar := by simp
      have read := ih valid.2 rest outside
      rw [joined, List.append_assoc] at read
      simpa [writeAll, write, escape, flow] using read
  | case3 pending tag attributes children ms ihChildren ihRest =>
      intro rest outside
      obtain ⟨⟨named, plain, attributesNamed, void, inside⟩, others⟩ := valid
      have behind := ihRest others rest outside
      simp only [String.toList_empty, List.flatMap_nil, List.nil_append] at behind
      have opening (more : List Char) :
          tokensFrom none 0 (pending.toList.flatMap escapeChar ++
              ((startTag tag attributes).toList ++ more)) =
            (textRun pending ++ .startTag tag attributes false :: (tokensFrom none 0 more).1,
              (tokensFrom none 0 more).2) := by
        rw [tokensFrom_textRun pending (head_startTag tag attributes more),
          tokensFrom_lexeme (by simp [toList_startTag])
            (lexemeAtFront_startTag named plain attributes attributesNamed more)]
        rfl
      cases empty : isVoid tag with
      | true =>
          have read := opening ((writeAll ms).toList ++ rest)
          rw [behind] at read
          simpa [writeAll, write, empty, flow] using read
      | false =>
          have closing := tokensFrom_lexeme (by simp [endTag])
            (lexemeAtFront_endTag named ((writeAll ms).toList ++ rest))
          rw [behind] at closing
          have held := ihChildren inside ((endTag tag).toList ++ ((writeAll ms).toList ++ rest))
            (head_endTag tag _)
          simp only [String.toList_empty, List.flatMap_nil, List.nil_append, closing] at held
          have read := opening ((writeAll children).toList ++
            ((endTag tag).toList ++ ((writeAll ms).toList ++ rest)))
          rw [held] at read
          simpa [writeAll, write, empty, flow] using read

/-! ## From tokens to trees -/

namespace Partial

/-- Adds several trees one after the other. -/
def addAll (p : Partial) (ms : List Markup) : Partial := ms.foldl add p

theorem addAll_cons (p : Partial) (m : Markup) (ms : List Markup) :
    p.addAll (m :: ms) = (p.add m).addAll ms := rfl

theorem addAll_append (p : Partial) (ms more : List Markup) :
    p.addAll (ms ++ more) = (p.addAll ms).addAll more := List.foldl_append

/-- Trees that are added while an element is open are held by it. -/
theorem addAll_opened (o : Opened) (opened : List Opened) (outside ms : List Markup) :
    addAll ⟨o :: opened, outside⟩ ms =
      ⟨{ o with children := ms.reverse ++ o.children } :: opened, outside⟩ := by
  induction ms generalizing o with
  | nil => rfl
  | cons m ms ih =>
      rw [addAll_cons, add, ih]
      simp

/-- Trees that are added while no element is open stand outside of all. -/
theorem addAll_outside (outside ms : List Markup) :
    addAll ⟨[], outside⟩ ms = ⟨[], ms.reverse ++ outside⟩ := by
  induction ms generalizing outside with
  | nil => rfl
  | cons m ms ih =>
      rw [addAll_cons, add, ih]
      simp

theorem steps_append (found more : List Token) : ∀ p : Partial,
    p.steps (found ++ more) = (p.steps found).bind fun q => q.steps more := by
  induction found with
  | nil => intro p; rfl
  | cons t found ih =>
      intro p
      simp only [List.cons_append, steps]
      cases p.step t with
      | error fault => rfl
      | ok q => exact ih q

theorem steps_textRun (p : Partial) (s : String) :
    p.steps (textRun s) = .ok (p.addAll (run s)) := by
  unfold textRun run
  split_ifs with empty blank blank
  · rfl
  · subst empty
    exact absurd rfl blank
  · simp [steps, step, blank, addAll, bind, Except.bind]
  · simp [steps, step, blank, addAll, bind, Except.bind]

/-- **Trees of written trees.** The tokens of well-formed trees add what reading makes of them to
what has been read before. -/
theorem steps_flow (pending : String) (ms : List Markup) (valid : AllWellFormed ms) :
    ∀ p : Partial, p.steps (flow pending ms) = .ok (p.addAll (contentsFrom pending ms)) := by
  induction pending, ms using flow.induct with
  | case1 pending =>
      intro p
      rw [flow, contentsFrom]
      exact steps_textRun p pending
  | case2 pending s ms ih =>
      intro p
      rw [flow, contentsFrom]
      exact ih valid.2 p
  | case3 pending tag attributes children ms ihChildren ihRest =>
      intro p
      obtain ⟨⟨_, _, _, void, inside⟩, others⟩ := valid
      rw [flow, contentsFrom, steps_append, steps_textRun, addAll_append, addAll_cons]
      obtain ⟨opened, outside⟩ := p.addAll (run pending)
      have rest := ihRest others
        (add ⟨opened, outside⟩ (.element tag attributes (contentsFrom "" children)))
      cases empty : isVoid tag with
      | true =>
          rw [void empty] at rest ⊢
          simpa [Except.bind, steps, step, empty, bind, contentsFrom, run, Text.allBlank] using rest
      | false =>
          have held := ihChildren inside ⟨⟨tag, attributes, []⟩ :: opened, outside⟩
          rw [addAll_opened] at held
          simp only [Except.bind, Bool.false_eq_true, ↓reduceIte, steps, step, empty, bind,
            Bool.or_self, steps_append, held, beq_self_eq_true]
          simpa using rest

end Partial

/-! ## Reading -/

/-- **Written trees are read back.** Reading the markup of well-formed trees succeeds and gives the
trees, with neighbouring texts in one run and without runs of blanks. -/
theorem read_writeAll (ms : List Markup) (valid : AllWellFormed ms) :
    read (writeAll ms) = .ok (contents ms) := by
  have found := tokensFrom_writeAll "" ms valid [] (by simp)
  have built := Partial.steps_flow "" ms valid ⟨[], []⟩
  rw [Partial.addAll_outside] at built
  simp only [String.toList_empty, List.flatMap_nil, List.nil_append, List.append_nil,
    tokensFrom] at found built
  unfold read tokens
  rw [found]
  simp [built, bind, Except.bind, pure, Except.pure, contents]

end Wireframe.Markup
