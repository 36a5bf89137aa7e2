import Wireframe.Proofs.Markup.Regular

/-! # Nodes of markup

Markup has texts that are layout and no content. As nodes of a page they are there all the
same. Reading markup gives its nodes without the blank texts, at any depth
(`Wireframe.Markup.read_eq_nodes`), and the nodes of written trees are the trees, with
neighbouring texts in one (`Wireframe.Markup.nodes_writeAll`).
-/

namespace Wireframe.Markup

/-! ## Nodes -/

namespace Partial

/-- Takes the next token, a blank text like any other. -/
def keep (p : Partial) : Token → Except Fault Partial
  | .text s => .ok (p.add (.text s))
  | t => p.step t

/-- Takes several tokens one after the other. -/
def keepAll (p : Partial) : List Token → Except Fault Partial
  | [] => .ok p
  | t :: rest => do keepAll (← p.keep t) rest

end Partial

/-- The trees of markup with all of its texts. -/
def nodes (markup : String) : Except Fault (List Markup) := do
  let (found, flaw) := tokens markup
  let p ← Partial.keepAll ⟨[], []⟩ found
  match flaw, p.opened with
  | some flaw, _ => throw (.flaw flaw)
  | none, o :: _ => throw (.unclosed o.tag)
  | none, [] => return p.outside.reverse

/-! ## Blank texts -/

theorem dropBlanks_append (ms more : List Markup) :
    dropBlanks (ms ++ more) = dropBlanks ms ++ dropBlanks more := by
  induction ms with
  | nil => simp
  | cons m ms ih => cases m <;> simp [ih]

theorem dropBlanks_reverse (ms : List Markup) :
    dropBlanks ms.reverse = (dropBlanks ms).reverse := by
  induction ms with
  | nil => simp
  | cons m ms ih =>
      cases m with
      | text s =>
          rw [List.reverse_cons, dropBlanks_append, ih, dropBlanks, dropBlanks, dropBlanks, run]
          split_ifs <;> simp
      | element tag attributes children =>
          rw [List.reverse_cons, dropBlanks_append, ih]
          simp

namespace Partial

/-- An element that has begun, without blank texts in it. -/
def Opened.filled (o : Opened) : Opened := { o with children := dropBlanks o.children }

/-- What has been read, without blank texts. -/
def filled (p : Partial) : Partial := ⟨p.opened.map Opened.filled, dropBlanks p.outside⟩

theorem filled_add_text (p : Partial) (s : String) :
    (p.add (.text s)).filled =
      if Text.allBlank s.toList then p.filled else p.filled.add (.text s) := by
  obtain ⟨opened, outside⟩ := p
  cases opened with
  | nil => split_ifs with blank <;> simp [add, filled, run, blank]
  | cons o opened => split_ifs with blank <;> simp [add, filled, Opened.filled, run, blank]

theorem filled_add_element (p : Partial) (tag : String) (attributes : List Attribute)
    (children : List Markup) :
    (p.add (.element tag attributes children)).filled =
      p.filled.add (.element tag attributes (dropBlanks children)) := by
  obtain ⟨opened, outside⟩ := p
  cases opened <;> simp [add, filled, Opened.filled]

theorem step_filled (p : Partial) (t : Token) :
    p.filled.step t = (p.keep t).map filled := by
  cases t with
  | text s =>
      rw [keep, Except.map, filled_add_text]
      rfl
  | startTag tag attributes closed =>
      have added := filled_add_element p tag attributes []
      simp only [keep, step]
      split_ifs
      · rw [Except.map, added, dropBlanks]
      · simp [Except.map, filled, Opened.filled]
  | endTag tag =>
      obtain ⟨opened, outside⟩ := p
      cases opened with
      | nil =>
          simp only [keep, step, filled, List.map_nil]
          split_ifs <;> rfl
      | cons o opened =>
          have added := filled_add_element ⟨opened, outside⟩ o.tag o.attributes o.children.reverse
          rw [dropBlanks_reverse] at added
          simp only [keep, step, filled, List.map_cons, Opened.filled]
          split_ifs
          · rw [Except.map, added]
            rfl
          · rfl
          · rfl

theorem steps_filled (found : List Token) : ∀ p : Partial,
    p.filled.steps found = (p.keepAll found).map filled := by
  induction found with
  | nil => exact fun p => rfl
  | cons t found ih =>
      intro p
      rw [steps, keepAll, step_filled]
      cases p.keep t with
      | error fault => rfl
      | ok q => exact ih q

end Partial

/-- **Reading drops blank texts.** Markup is read as its nodes without the texts that are blank, and
it is not read exactly if it has no nodes. -/
theorem read_eq_nodes (markup : String) : read markup = (nodes markup).map dropBlanks := by
  -- Both readers take the same tokens, so they fail together.
  have same := Partial.steps_filled (tokens markup).1 ⟨[], []⟩
  have start : Partial.filled ⟨[], []⟩ = ⟨[], []⟩ := by simp [Partial.filled]
  rw [start] at same
  unfold read nodes
  simp only [same]
  cases Partial.keepAll ⟨[], []⟩ (tokens markup).1 with
  | error fault => rfl
  | ok p =>
      obtain ⟨opened, outside⟩ := p
      cases (tokens markup).2 with
      | some flaw => rfl
      | none =>
          cases opened with
          | nil =>
              have reversed := dropBlanks_reverse outside
              simp [Except.map, Partial.filled, bind, Except.bind, pure, Except.pure, reversed]
          | cons o opened => rfl

/-! ## Nodes of written trees -/

/-- A text as a node; an empty text is none. -/
def textNode (s : String) : List Markup := if s = "" then [] else [.text s]

/-- Trees behind a text that is still open, with neighbouring texts in one. -/
def mergedFrom (pending : String) : List Markup → List Markup
  | [] => textNode pending
  | .text s :: rest => mergedFrom (pending ++ s) rest
  | .element tag attributes children :: rest =>
    textNode pending ++ .element tag attributes (mergedFrom "" children) :: mergedFrom "" rest

/-- Trees with neighbouring texts in one. -/
def merged (ms : List Markup) : List Markup := mergedFrom "" ms

/-- Trees whose void elements hold nothing. -/
def VoidsEmpty : List Markup → Prop
  | [] => True
  | .text _ :: rest => VoidsEmpty rest
  | .element tag _ children :: rest =>
    (isVoid tag = true → children = []) ∧ VoidsEmpty children ∧ VoidsEmpty rest

theorem AllWellFormed.voidsEmpty {ms : List Markup} (valid : AllWellFormed ms) :
    VoidsEmpty ms := by
  induction ms using dropBlanks.induct with
  | case1 =>
      rw [VoidsEmpty]
      trivial
  | case2 s rest ih =>
      rw [VoidsEmpty]
      exact ih valid.2
  | case3 tag attributes children rest ihChildren ihRest =>
      obtain ⟨⟨_, _, _, void, inside⟩, others⟩ := valid
      rw [VoidsEmpty]
      exact ⟨void, ihChildren inside, ihRest others⟩

theorem voidsEmpty_append {ms more : List Markup} :
    VoidsEmpty (ms ++ more) ↔ VoidsEmpty ms ∧ VoidsEmpty more := by
  induction ms with
  | nil => simp [VoidsEmpty]
  | cons m ms ih =>
      cases m with
      | text s =>
          rw [List.cons_append, VoidsEmpty, VoidsEmpty]
          exact ih
      | element tag attributes children =>
          rw [List.cons_append, VoidsEmpty, VoidsEmpty, ih]
          simp only [and_assoc]

theorem voidsEmpty_reverse {ms : List Markup} (voids : VoidsEmpty ms) : VoidsEmpty ms.reverse := by
  induction ms with
  | nil => exact voids
  | cons m ms ih =>
      obtain ⟨first, others⟩ := voidsEmpty_append.mp (show VoidsEmpty ([m] ++ ms) from voids)
      rw [List.reverse_cons]
      exact voidsEmpty_append.mpr ⟨ih others, first⟩

namespace Partial

/-- What has been read has no void element that holds something, and no void element is waiting for
its end tag. -/
structure Sound (p : Partial) : Prop where
  opened : ∀ o ∈ p.opened, isVoid o.tag = false ∧ VoidsEmpty o.children
  outside : VoidsEmpty p.outside

theorem Sound.add {p : Partial} (sound : p.Sound) {m : Markup} (voids : VoidsEmpty [m]) :
    (p.add m).Sound := by
  have onto {ms : List Markup} (also : VoidsEmpty ms) : VoidsEmpty (m :: ms) :=
    voidsEmpty_append.mpr ⟨voids, also⟩
  obtain ⟨opened, outside⟩ := p
  cases opened with
  | nil => exact ⟨sound.opened, onto sound.outside⟩
  | cons o opened =>
      obtain ⟨⟨named, held⟩, others⟩ := List.forall_mem_cons.mp sound.opened
      exact ⟨List.forall_mem_cons.mpr ⟨⟨named, onto held⟩, others⟩, sound.outside⟩

theorem Sound.step {p q : Partial} (sound : p.Sound) {t : Token} (stepped : p.step t = .ok q) :
    q.Sound := by
  cases t with
  | text s =>
      obtain rfl := Except.ok.inj stepped
      split
      · exact sound
      · exact sound.add (by simp [VoidsEmpty])
  | startTag tag attributes closed =>
      rw [Partial.step] at stepped
      split_ifs at stepped with single
      · obtain rfl := Except.ok.inj stepped
        exact sound.add (by simp [VoidsEmpty])
      · obtain rfl := Except.ok.inj stepped
        rw [Bool.or_eq_true, not_or, Bool.not_eq_true, Bool.not_eq_true] at single
        exact ⟨List.forall_mem_cons.mpr ⟨⟨single.2, by simp [VoidsEmpty]⟩, sound.opened⟩,
          sound.outside⟩
  | endTag tag =>
      obtain ⟨opened, outside⟩ := p
      cases opened with
      | nil =>
          simp only [Partial.step] at stepped
          split_ifs at stepped
          obtain rfl := Except.ok.inj stepped
          exact sound
      | cons o opened =>
          obtain ⟨⟨named, held⟩, others⟩ := List.forall_mem_cons.mp sound.opened
          simp only [Partial.step] at stepped
          split_ifs at stepped
          · obtain rfl := Except.ok.inj stepped
            have rest : Sound ⟨opened, outside⟩ := ⟨others, sound.outside⟩
            refine rest.add ?_
            simp [VoidsEmpty, named, voidsEmpty_reverse held]
          · obtain rfl := Except.ok.inj stepped
            exact sound

theorem Sound.steps {p q : Partial} (sound : p.Sound) {found : List Token}
    (stepped : p.steps found = .ok q) : q.Sound := by
  induction found generalizing p with
  | nil =>
      obtain rfl := Except.ok.inj stepped
      exact sound
  | cons t found ih =>
      rw [Partial.steps] at stepped
      cases next : p.step t with
      | error fault =>
          rw [next] at stepped
          cases stepped
      | ok r =>
          rw [next] at stepped
          exact ih (sound.step next) stepped

end Partial

/-- Reading gives nothing to a void element. -/
theorem voidsEmpty_of_read {markup : String} {trees : List Markup}
    (found : read markup = .ok trees) : VoidsEmpty trees := by
  unfold read at found
  dsimp only at found
  cases stepped : Partial.steps ⟨[], []⟩ (tokens markup).1 with
  | error fault =>
      rw [stepped] at found
      cases found
  | ok p =>
      have start : Partial.Sound ⟨[], []⟩ := ⟨nofun, by simp [VoidsEmpty]⟩
      have sound := start.steps stepped
      rw [stepped] at found
      dsimp only [bind, Except.bind] at found
      split at found
      · cases found
      · cases found
      · obtain rfl := Except.ok.inj found
        exact voidsEmpty_reverse sound.outside

namespace Partial

theorem keepAll_append (found more : List Token) : ∀ p : Partial,
    p.keepAll (found ++ more) = (p.keepAll found).bind fun q => q.keepAll more := by
  induction found with
  | nil => exact fun p => rfl
  | cons t found ih =>
      intro p
      simp only [List.cons_append, keepAll]
      cases p.keep t with
      | error fault => rfl
      | ok q => exact ih q

theorem keepAll_textRun (p : Partial) (s : String) :
    p.keepAll (textRun s) = .ok (p.addAll (textNode s)) := by
  unfold textRun textNode
  split_ifs <;> rfl

/-- The tokens of trees add the trees, with neighbouring texts in one, to what has been read. -/
theorem keepAll_flow (pending : String) (ms : List Markup) (voids : VoidsEmpty ms) :
    ∀ p : Partial, p.keepAll (flow pending ms) = .ok (p.addAll (mergedFrom pending ms)) := by
  -- The induction is that of the tokens: a text waits until an element or the end closes it.
  induction pending, ms using flow.induct with
  | case1 pending =>
      intro p
      rw [flow, mergedFrom]
      exact keepAll_textRun p pending
  | case2 pending s ms ih =>
      intro p
      rw [VoidsEmpty] at voids
      rw [flow, mergedFrom]
      exact ih voids p
  | case3 pending tag attributes children ms ihChildren ihRest =>
      intro p
      rw [VoidsEmpty] at voids
      obtain ⟨void, inside, others⟩ := voids
      rw [flow, mergedFrom, keepAll_append, keepAll_textRun, addAll_append, addAll_cons]
      obtain ⟨opened, outside⟩ := p.addAll (textNode pending)
      have rest := ihRest others
        (add ⟨opened, outside⟩ (.element tag attributes (mergedFrom "" children)))
      cases empty : isVoid tag with
      | true =>
          rw [void empty, mergedFrom] at rest ⊢
          simpa [Except.bind, keepAll, keep, step, empty, bind, textNode] using rest
      | false =>
          have held := ihChildren inside ⟨⟨tag, attributes, []⟩ :: opened, outside⟩
          rw [addAll_opened] at held
          simp only [Except.bind, Bool.false_eq_true, ↓reduceIte, keepAll, keep, step, empty, bind,
            Bool.or_self, keepAll_append, held, beq_self_eq_true]
          simpa using rest

end Partial

/-- The nodes of markup whose tokens are those of trees are the trees, with neighbouring texts in
one. -/
theorem nodes_of_tokens {markup : String} {ms : List Markup} (voids : VoidsEmpty ms)
    (found : tokens markup = (flow "" ms, none)) : nodes markup = .ok (merged ms) := by
  have built := Partial.keepAll_flow "" ms voids ⟨[], []⟩
  rw [Partial.addAll_outside] at built
  unfold nodes
  rw [found]
  simp [built, bind, Except.bind, pure, Except.pure, merged]

/-- **Nodes of written trees.** The nodes of the markup of well-formed trees are the trees, with
neighbouring texts in one. -/
theorem nodes_writeAll (ms : List Markup) (valid : AllWellFormed ms) :
    nodes (writeAll ms) = .ok (merged ms) := by
  have found := tokensFrom_writeAll "" ms valid [] (by simp)
  simp only [String.toList_empty, List.flatMap_nil, List.nil_append, List.append_nil,
    tokensFrom] at found
  exact nodes_of_tokens valid.voidsEmpty found

end Wireframe.Markup

namespace Wireframe.Render

open Markup

theorem nodes_fragment (d : Document) (theme : Theme.Resolved) :
    nodes (fragment d theme).markup = .ok (merged [page d.page]) := by
  have whole := nodes_writeAll [page d.page] ⟨wellFormed_page d.page, trivial⟩
  rwa [writeAll, writeAll, String.append_empty] at whole

theorem read_fragment_nodes (d : Document) (theme : Theme.Resolved) :
    read (fragment d theme).markup = .ok (dropBlanks (merged [page d.page])) := by
  rw [read_eq_nodes, nodes_fragment]
  rfl

end Wireframe.Render
