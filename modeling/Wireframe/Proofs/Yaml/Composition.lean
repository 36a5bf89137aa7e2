import Wireframe.Proofs.Yaml.Escapes
import Wireframe.Yaml.Node

/-! # Putting nodes together

The nodes of a text are put together from its tokens. Every call of a reading function takes
a token or leads to one that does, so the bound on nested calls is never what ends the
reading (`Wireframe.Yaml.Node.parses_node`). It ends with a broken rule, with what ended the
tokens early, or with an alias of an anchor whose node is not complete, as it would be
contained in itself (`Wireframe.Yaml.Node.flaw_of_ofText`).
-/

namespace Wireframe.Yaml

namespace Node

/-- An anchor among some tokens has a name. -/
def Anchors (whole : List Token) (name : String) : Prop :=
  ∃ token ∈ whole, token.kind = .anchor name

/-- Some tokens hold an anchor and an alias of its name. -/
def Loops (whole : List Token) : Prop :=
  ∃ name, Anchors whole name ∧ ∃ token ∈ whole, token.kind = .alias name

/-! ## Steps through tokens -/

/-- A source of some tokens in the course of reading: what is still to be read is among the tokens,
and so are the anchors that were met. -/
structure Reading (whole : List Token) (failure : Option Error) (s : Source) : Prop where
  among : ∀ token ∈ s.tokens, token ∈ whole
  failure : s.failure = failure
  anchored : ∀ e ∈ s.anchors, Anchors whole e.1

/-- A step takes some of at most so many tokens, and what it yields is right for the number that it
takes. It fails for the fault of a scalar only if the tokens end with it, or with a loop. -/
def Parses {α : Type} (whole : List Token) (failure : Option Error) (most : Nat) (step : Read α)
    (right : α → Nat → Prop) : Prop :=
  ∀ s, Reading whole failure s → s.tokens.length ≤ most →
    match step.run s with
    | .ok done => Reading whole failure done.2 ∧
        ∃ taken, done.2.tokens.length + taken = s.tokens.length ∧ right done.1 taken
    | .error e => ∀ fault, e = .scalar fault →
        failure = some (.scalar fault) ∨ fault = .endless ∧ Loops whole

section

variable {whole : List Token} {failure : Option Error} {most : Nat} {α β : Type} {step : Read α}
  {next : α → Read β} {right : α → Nat → Prop} {follows : β → Nat → Prop}

theorem parses_pure {a : α} (here : right a 0) : Parses whole failure most (pure a) right :=
  fun _ reading _ => ⟨reading, 0, rfl, here⟩

theorem parses_fail (problem : Problem) (mark : Mark) :
    Parses whole failure most (fail problem mark : Read α) right :=
  fun _ _ _ _ same => by cases same

theorem parses_weaken {other : α → Nat → Prop} (parses : Parses whole failure most step right)
    (weaker : ∀ a taken, right a taken → other a taken) : Parses whole failure most step other := by
  intro s reading few
  have ended := parses s reading few
  cases ran : step.run s with
  | error e =>
      rw [ran] at ended
      exact ended
  | ok done =>
      rw [ran] at ended
      obtain ⟨onward, taken, total, here⟩ := ended
      exact ⟨onward, taken, total, weaker _ _ here⟩

theorem parses_bind (first : Parses whole failure most step right)
    (second : ∀ a taken, right a taken → taken ≤ most →
      Parses whole failure (most - taken) (next a) fun b more => follows b (taken + more)) :
    Parses whole failure most (step >>= next) follows := by
  intro s reading few
  have run : (step >>= next).run s = step.run s >>= fun done => (next done.1).run done.2 := rfl
  have begun := first s reading few
  rw [run]
  cases ran : step.run s with
  | error e =>
      rw [ran] at begun
      exact begun
  | ok done =>
      rw [ran] at begun
      obtain ⟨onward, taken, total, here⟩ := begun
      have ended := second done.1 taken here (by omega) done.2 onward (by omega)
      have same : (Except.ok done >>= fun done => (next done.1).run done.2) =
          (next done.1).run done.2 := rfl
      rw [same]
      cases last : (next done.1).run done.2 with
      | error e =>
          rw [last] at ended
          exact ended
      | ok finish =>
          rw [last] at ended
          obtain ⟨further, more, count, there⟩ := ended
          exact ⟨further, taken + more, by omega, there⟩

/-- A step that takes no tokens. -/
theorem parses_after {holds : α → Prop}
    (first : Parses whole failure most step fun a taken => taken = 0 ∧ holds a)
    (second : ∀ a, holds a → Parses whole failure most (next a) follows) :
    Parses whole failure most (step >>= next) follows := by
  refine parses_bind first fun a taken here _ => ?_
  obtain ⟨rfl, holds⟩ := here
  exact parses_weaken (second a holds) fun b more there => by rwa [Nat.zero_add]

theorem parses_fewer {fewer : Nat} (parses : Parses whole failure most step right)
    (less : fewer ≤ most) : Parses whole failure fewer step right :=
  fun s reading few => parses s reading (Nat.le_trans few less)

/-- Steps of which it does not matter how many tokens they take. -/
theorem parses_then (first : Parses whole failure most step fun _ _ => True)
    (second : ∀ a, Parses whole failure most (next a) fun _ _ => True) :
    Parses whole failure most (step >>= next) fun _ _ => True :=
  parses_bind first fun a taken _ _ => parses_fewer (second a) (Nat.sub_le most taken)

theorem parses_map {f : α → β} (parses : Parses whole failure most step fun a => follows (f a)) :
    Parses whole failure most (f <$> step) follows := by
  rw [← bind_pure_comp]
  exact parses_bind parses fun a taken here _ => parses_pure here

theorem parses_get {next : Source → Read β} (second : ∀ s, Reading whole failure s →
      Parses whole failure s.tokens.length (next s) follows) :
    Parses whole failure most (get >>= next) follows :=
  fun s reading _ => second s reading s reading (Nat.le_refl _)

theorem parses_modify {f : Source → Source} (keeps : ∀ s, Reading whole failure s →
      Reading whole failure (f s) ∧ (f s).tokens = s.tokens) :
    Parses whole failure most (modify f) fun _ taken => taken = 0 ∧ True := by
  intro s reading few
  obtain ⟨onward, same⟩ := keeps s reading
  exact ⟨onward, 0, congrArg List.length same, rfl, trivial⟩

theorem parses_ite {c : Prop} [Decidable c] {other : Read α}
    (holds : Parses whole failure most step right) (fails : Parses whole failure most other right) :
    Parses whole failure most (if c then step else other) right := by
  split
  · exact holds
  · exact fails

/-! ### Tokens -/

/-- A token is there to be seen only if some token is left. -/
theorem parses_peek :
    Parses whole failure most peek fun token taken => taken = 0 ∧ (token ∈ whole ∧ 1 ≤ most) := by
  intro s reading few
  obtain ⟨tokens, ending, handles, anchors⟩ := s
  cases tokens with
  | nil =>
      rintro fault same
      obtain rfl := reading.failure
      cases ending with
      | none => cases same
      | some e => exact .inl (congrArg some same)
  | cons token rest =>
      exact ⟨reading, 0, rfl, rfl, reading.among token List.mem_cons_self, by
        rw [List.length_cons] at few
        omega⟩

theorem parses_take : Parses whole failure most take fun _ taken => taken = 1 := by
  intro s reading few
  obtain ⟨tokens, ending, handles, anchors⟩ := s
  cases tokens with
  | nil => exact parses_peek _ reading few
  | cons token rest =>
      exact ⟨⟨fun t member => reading.among t (List.mem_cons_of_mem token member),
        reading.failure, reading.anchored⟩, 1, rfl, rfl⟩

theorem parses_takeNext {next : Read β}
    (second : 1 ≤ most → Parses whole failure (most - 1) next fun b more => follows b (1 + more)) :
    Parses whole failure most (discard take >>= fun _ => next) follows := by
  have first : Parses whole failure most (discard take) fun _ taken => taken = 1 :=
    parses_map parses_take
  refine parses_bind first fun _ taken here few => ?_
  subst here
  exact second few

theorem parses_nextIs (kinds : List TokenKind) :
    Parses whole failure most (nextIs kinds) fun _ taken => taken = 0 ∧ True :=
  parses_after parses_peek fun _ _ => parses_pure ⟨rfl, trivial⟩

/-! ### Properties -/

/-- The anchor of a node, if it has one, is among the tokens. -/
def Anchored (whole : List Token) (anchor : Option String) : Prop :=
  ∀ name, anchor = some name → Anchors whole name

theorem parses_anchor? :
    Parses whole failure most anchor? fun found taken =>
      Anchored whole (found.map Prod.fst) ∧ (found.isSome → 1 ≤ taken) := by
  refine parses_after parses_peek fun token seen => ?_
  split
  · rename_i name kind
    refine parses_takeNext fun _ => parses_pure ⟨?_, fun _ => Nat.le_refl 1⟩
    rintro _ ⟨⟩
    exact ⟨token, seen.1, kind⟩
  · exact parses_pure ⟨nofun, nofun⟩

theorem parses_tag? :
    Parses whole failure most tag? fun found taken => found.isSome → 1 ≤ taken := by
  refine parses_after parses_peek fun token seen => ?_
  split
  · exact parses_takeNext fun _ => parses_pure fun _ => Nat.le_refl 1
  · exact parses_pure nofun

theorem parses_properties :
    Parses whole failure most properties fun found taken =>
      Anchored whole found.anchor ∧ (found.anchor.isSome ∨ found.tag.isSome → 1 ≤ taken) := by
  refine parses_bind parses_anchor? fun anchor taken named _ => ?_
  cases anchor with
  | some anchor =>
      obtain ⟨name, mark⟩ := anchor
      have least := named.2 rfl
      refine parses_bind parses_tag? fun tag more _ _ => parses_pure ⟨named.1, fun _ => ?_⟩
      omega
  | none =>
      refine parses_bind parses_tag? fun tag more tagged _ => ?_
      cases tag with
      | some tag =>
          have least := tagged rfl
          refine parses_bind parses_anchor? fun anchor again also _ => ?_
          exact parses_pure ⟨also.1, fun _ => by omega⟩
      | none => exact parses_pure ⟨nofun, by rintro (⟨⟨⟩⟩ | ⟨⟨⟩⟩)⟩

theorem parses_resolveTag (tag : Option (Option String × String × Mark)) :
    Parses whole failure most (resolveTag tag) fun written taken =>
      taken = 0 ∧ (written.isSome → tag.isSome) := by
  match tag with
  | none => exact parses_pure ⟨rfl, nofun⟩
  | some (none, suffix, mark) => exact parses_pure ⟨rfl, fun _ => rfl⟩
  | some (some handle, suffix, mark) =>
      refine parses_get fun s _ => ?_
      split
      · exact parses_pure ⟨rfl, fun _ => rfl⟩
      · exact parses_fail _ _

theorem parses_declare {anchor : Option String} (anchored : Anchored whole anchor) (mark : Mark) :
    Parses whole failure most (declare anchor mark) fun _ taken => taken = 0 ∧ True := by
  cases anchor with
  | none => exact parses_pure ⟨rfl, trivial⟩
  | some name =>
      refine parses_get fun _ _ => parses_ite (parses_fail _ _) ?_
      refine parses_modify fun s reading => ⟨⟨reading.among, reading.failure, ?_⟩, rfl⟩
      exact List.forall_mem_cons.mpr ⟨anchored name rfl, reading.anchored⟩

theorem parses_define {anchor : Option String} (anchored : Anchored whole anchor) (node : Node) :
    Parses whole failure most (define anchor node) fun _ taken => taken = 0 ∧ True := by
  cases anchor with
  | none => exact parses_pure ⟨rfl, trivial⟩
  | some name =>
      refine parses_after (parses_modify fun s reading => ?_) fun _ _ =>
        parses_pure ⟨rfl, trivial⟩
      refine ⟨⟨reading.among, reading.failure, ?_⟩, rfl⟩
      intro e member
      obtain ⟨entry, inside, rfl⟩ := List.mem_map.mp member
      split
      · exact anchored name rfl
      · exact reading.anchored entry inside

/-- An alias stands for a complete node, or it closes a loop. -/
theorem parses_aliased {name : String} (named : ∃ token ∈ whole, token.kind = .alias name)
    (mark : Mark) :
    Parses whole failure most (aliased name mark) fun _ taken => taken = 0 ∧ True := by
  refine parses_get fun s reading => ?_
  split
  · exact parses_pure ⟨rfl, trivial⟩
  · rename_i anchor found
    have same := List.find?_some found
    have anchored := reading.anchored _ (List.mem_of_find?_eq_some found)
    rw [beq_iff_eq.mp same] at anchored
    rintro s _ _ fault ⟨⟩
    exact .inr ⟨rfl, name, anchored, named⟩
  · exact parses_fail _ _

theorem parses_content {properties : Properties} {written : Option String}
    (anchored : Anchored whole properties.anchor) (token : Token) (start : Mark) :
    Parses whole failure most (content properties written token start) fun _ taken =>
      taken = 0 ∧ (properties.anchor.isSome ∨ written.isSome) := by
  rw [content]
  split
  · rename_i given
    rw [Bool.or_eq_true] at given
    refine parses_after (parses_declare anchored start) fun _ _ => ?_
    exact parses_weaken (parses_define anchored _) fun _ taken none => ⟨none.1, given⟩
  · exact parses_fail _ _

end

/-! ## Nodes -/

section

variable {whole : List Token} {failure : Option Error} {most : Nat} {α : Type}

/-- The node of a collection is noted when its parts are read. -/
theorem parses_made {anchor : Option String} (anchored : Anchored whole anchor) {parts : Read α}
    (make : α → Node) (reads : Parses whole failure most parts fun _ _ => True) :
    Parses whole failure most (do
      let made ← parts
      define anchor (make made)) fun _ _ => True :=
  parses_then reads fun _ => parses_weaken (parses_define anchored _) fun _ _ _ => trivial

/-- The parts behind the comma that is wanted in front of all parts but the first. -/
theorem parses_comma {wanted found : Prop} [Decidable wanted] [Decidable found] {problem : Problem}
    {mark : Mark} {parts : Read α}
    (reads : ∀ few ≤ most, Parses whole failure few parts fun _ _ => True) :
    Parses whole failure most
      (if wanted then
        if found then discard take >>= fun _ => parts
        else (fail problem mark : Read Unit) >>= fun _ => parts
      else parts) fun _ _ => True := by
  refine parses_ite (parses_ite ?_ ?_) (reads most (Nat.le_refl most))
  · exact parses_takeNext fun _ => reads (most - 1) (Nat.sub_le most 1)
  · exact parses_then (parses_fail _ _) fun _ => reads most (Nat.le_refl most)

/-- What comes after a condition that ends the reading. -/
theorem parses_unless {ends : Prop} [Decidable ends] {problem : Problem} {mark : Mark}
    {next : Read α} (reads : Parses whole failure most next fun _ _ => True) :
    Parses whole failure most
      (if ends then (fail problem mark : Read Unit) >>= fun _ => next else next)
      fun _ _ => True :=
  parses_ite (parses_then (parses_fail _ _) fun _ => reads) reads

/-- A token that is taken by the way. -/
theorem parses_skipping {next : Read α} (reads : Parses whole failure most next fun _ _ => True) :
    Parses whole failure most (discard take >>= fun _ => next) fun _ _ => True :=
  parses_takeNext fun _ => parses_fewer reads (Nat.sub_le most 1)

/-- A token that is taken by the way if it is there. -/
theorem parses_passing {there : Prop} [Decidable there] {next : Read α}
    (reads : Parses whole failure most next fun _ _ => True) :
    Parses whole failure most (if there then discard take >>= fun _ => next else next)
      fun _ _ => True := parses_ite (parses_skipping reads) reads

/-- A part of a collection that may be left out. -/
theorem parses_part {place : Place} {fuel : Nat} {kinds : List TokenKind} {mark : Mark}
    {next : Node → Read α}
    (reads : Parses whole failure most (node place fuel)
      fun _ taken => place = .blockValue ∨ 1 ≤ taken)
    (second : ∀ part, Parses whole failure most (next part) fun _ _ => True) :
    Parses whole failure most (do
      let part ← if (← nextIs kinds) then pure (absent mark) else node place fuel
      next part) fun _ _ => True := by
  refine parses_after (parses_nextIs kinds) fun _ _ => parses_ite ?_ ?_
  · exact parses_then (parses_pure trivial) second
  · exact parses_then (parses_weaken reads fun _ _ _ => trivial) second

end

section

variable {whole : List Token} {failure : Option Error}

mutual

/-- **Nodes.** The bound on nested calls does not stop the reading of a node if it is twice the
number of tokens and two more. Reading a node takes a token, unless it is a sequence that may stand
in a block without an indentation of its own. -/
theorem parses_node (place : Place) {fuel most : Nat} (enough : 2 * most + 2 ≤ fuel) :
    Parses whole failure most (node place fuel)
      fun _ taken => place = .blockValue ∨ 1 ≤ taken := by
  match fuel with
  | 0 => exact absurd enough (by omega)
  | fuel + 1 =>
      rw [node]
      refine parses_after parses_peek fun first seen => ?_
      split
      · rename_i name kind
        refine parses_takeNext fun _ => parses_weaken (parses_aliased ⟨first, seen.1, kind⟩ _) ?_
        exact fun _ more _ => .inr (Nat.le_add_right 1 more)
      · refine parses_bind parses_properties fun properties taken given few => ?_
        refine parses_after (parses_resolveTag properties.tag) fun written tagged => ?_
        refine parses_after parses_peek fun token here => ?_
        have left : 1 ≤ most - taken := here.2
        have bare : Parses whole failure (most - taken)
            (content properties written token (properties.start.getD token.start))
            fun _ more => place = .blockValue ∨ 1 ≤ taken + more := by
          refine parses_weaken (parses_content given.1 token _) fun _ more some => .inr ?_
          have least : 1 ≤ taken := given.2 (some.2.imp_right tagged)
          omega
        -- A collection is opened by a token, so its parts share one token less.
        have opened {parts : Read Node} (reads : Parses whole failure (most - taken - 1) parts
            fun _ _ => True) : Parses whole failure (most - taken) (do
              declare properties.anchor (properties.start.getD token.start)
              discard take
              parts) fun _ more => place = .blockValue ∨ 1 ≤ taken + more := by
          refine parses_after (parses_declare given.1 _) fun _ _ => parses_takeNext fun _ => ?_
          exact parses_weaken reads fun _ more _ => .inr (by omega)
        have scalar (tag : Tag) (text : String) : Parses whole failure (most - taken) (do
              discard take
              declare properties.anchor (properties.start.getD token.start)
              define properties.anchor
                (.scalar tag text (properties.start.getD token.start)))
            fun _ more => place = .blockValue ∨ 1 ≤ taken + more := by
          refine parses_takeNext fun _ => parses_after (parses_declare given.1 _) fun _ _ => ?_
          exact parses_weaken (parses_define given.1 _) fun _ more _ => .inr (by omega)
        dsimp only
        split
        · split_ifs with nested
          -- The dash belongs to the first item: the sequence itself takes no token.
          · refine parses_after (parses_declare given.1 _) fun _ _ => ?_
            refine parses_weaken (parses_made given.1 _ (parses_indentlessItems (by omega))) ?_
            exact fun _ _ _ => .inl (beq_iff_eq.mp nested)
          · exact bare
        · exact scalar (scalarTag written _ _) _
        · exact scalar (halvedTag written _) _
        · exact opened (parses_made given.1 _ (parses_flowItems true (by omega)))
        · exact opened (parses_made given.1 _ (parses_flowEntries true (by omega)))
        · exact parses_ite bare (opened (parses_made given.1 _ (parses_blockItems (by omega))))
        · exact parses_ite bare (opened (parses_made given.1 _ (parses_blockEntries (by omega))))
        · exact bare
termination_by structural fuel

theorem parses_blockItems {fuel most : Nat} (enough : 2 * most + 1 ≤ fuel) :
    Parses whole failure most (blockItems fuel) fun _ _ => True := by
  match fuel with
  | 0 => exact absurd enough (by omega)
  | fuel + 1 =>
      rw [blockItems]
      refine parses_after parses_peek fun token seen => ?_
      split
      · refine parses_takeNext fun _ => parses_part (parses_node .block (by omega)) fun item => ?_
        exact parses_then (parses_blockItems (by omega)) fun _ => parses_pure trivial
      · exact parses_takeNext fun _ => parses_pure trivial
      · exact parses_fail _ _
termination_by structural fuel

theorem parses_indentlessItems {fuel most : Nat} (enough : 2 * most + 1 ≤ fuel) :
    Parses whole failure most (indentlessItems fuel) fun _ _ => True := by
  match fuel with
  | 0 => exact absurd enough (by omega)
  | fuel + 1 =>
      rw [indentlessItems]
      refine parses_after parses_peek fun token seen => ?_
      split
      · refine parses_takeNext fun _ => parses_part (parses_node .block (by omega)) fun item => ?_
        exact parses_then (parses_indentlessItems (by omega)) fun _ => parses_pure trivial
      · exact parses_pure trivial
termination_by structural fuel

theorem parses_blockEntries {fuel most : Nat} (enough : 2 * most + 1 ≤ fuel) :
    Parses whole failure most (blockEntries fuel) fun _ _ => True := by
  match fuel with
  | 0 => exact absurd enough (by omega)
  | fuel + 1 =>
      rw [blockEntries]
      refine parses_after parses_peek fun token seen => ?_
      split
      · refine parses_takeNext fun _ => ?_
        refine parses_part (parses_node .blockValue (by omega)) fun key => ?_
        refine parses_then (parses_blockValue (by omega)) fun value => ?_
        exact parses_then (parses_blockEntries (by omega)) fun _ => parses_pure trivial
      · exact parses_takeNext fun _ => parses_pure trivial
      · exact parses_fail _ _
termination_by structural fuel

theorem parses_blockValue {fuel most : Nat} (enough : 2 * most + 1 ≤ fuel) :
    Parses whole failure most (blockValue fuel) fun _ _ => True := by
  match fuel with
  | 0 => exact absurd enough (by omega)
  | fuel + 1 =>
      rw [blockValue]
      refine parses_after parses_peek fun token seen => ?_
      split
      · refine parses_takeNext fun _ => parses_after (parses_nextIs _) fun _ _ =>
          parses_ite (parses_pure trivial) ?_
        exact parses_weaken (parses_node .blockValue (by omega)) fun _ _ _ => trivial
      · exact parses_pure trivial
termination_by structural fuel

theorem parses_flowItems (first : Bool) {fuel most : Nat} (enough : 2 * most + 3 ≤ fuel) :
    Parses whole failure most (flowItems first fuel) fun _ _ => True := by
  match fuel with
  | 0 => exact absurd enough (by omega)
  | fuel + 1 =>
      rw [flowItems]
      refine parses_after parses_peek fun token seen => parses_ite ?_ ?_
      · exact parses_takeNext fun _ => parses_pure trivial
      · refine parses_comma fun few less => parses_after parses_peek fun token seen => ?_
        split
        · refine parses_takeNext fun _ => parses_part (parses_node .flow (by omega)) fun key => ?_
          refine parses_then (parses_flowValue .flowSequenceEnd (by omega)) fun value => ?_
          exact parses_then (parses_flowItems false (by omega)) fun _ => parses_pure trivial
        · exact parses_takeNext fun _ => parses_pure trivial
        · refine parses_bind (parses_node .flow (by omega)) fun item taken takes _ => ?_
          have least : 1 ≤ taken := takes.resolve_left nofun
          exact parses_then (parses_flowItems false (by omega)) fun _ => parses_pure trivial
termination_by structural fuel

theorem parses_flowEntries (first : Bool) {fuel most : Nat} (enough : 2 * most + 3 ≤ fuel) :
    Parses whole failure most (flowEntries first fuel) fun _ _ => True := by
  match fuel with
  | 0 => exact absurd enough (by omega)
  | fuel + 1 =>
      rw [flowEntries]
      refine parses_after parses_peek fun token seen => parses_ite ?_ ?_
      · exact parses_takeNext fun _ => parses_pure trivial
      · refine parses_comma fun few less => parses_after parses_peek fun token seen => ?_
        split
        · refine parses_takeNext fun _ => parses_part (parses_node .flow (by omega)) fun key => ?_
          refine parses_then (parses_flowValue .flowMappingEnd (by omega)) fun value => ?_
          exact parses_then (parses_flowEntries false (by omega)) fun _ => parses_pure trivial
        · exact parses_takeNext fun _ => parses_pure trivial
        · refine parses_bind (parses_node .flow (by omega)) fun key taken takes _ => ?_
          have least : 1 ≤ taken := takes.resolve_left nofun
          refine parses_after parses_peek fun behind _ => ?_
          exact parses_then (parses_flowEntries false (by omega)) fun _ => parses_pure trivial
termination_by structural fuel

theorem parses_flowValue (closing : TokenKind) {fuel most : Nat} (enough : 2 * most + 1 ≤ fuel) :
    Parses whole failure most (flowValue closing fuel) fun _ _ => True := by
  match fuel with
  | 0 => exact absurd enough (by omega)
  | fuel + 1 =>
      rw [flowValue]
      refine parses_after parses_peek fun token seen => ?_
      split
      · refine parses_takeNext fun _ => parses_after (parses_nextIs _) fun _ _ =>
          parses_ite (parses_pure trivial) ?_
        exact parses_weaken (parses_node .flow (by omega)) fun _ _ _ => trivial
      · exact parses_pure trivial
termination_by structural fuel

end

/-! ## Documents -/

variable {most : Nat}

theorem parses_directives (fuel : Nat) (version : Bool) (handles : List (String × String)) :
    Parses whole failure most (directives fuel version handles) fun _ _ => True := by
  induction fuel generalizing version handles with
  | zero => exact parses_pure trivial
  | succ fuel ih =>
      rw [directives]
      refine parses_after parses_peek fun token seen => ?_
      split
      · exact parses_skipping (parses_unless (parses_unless (ih _ _)))
      · exact parses_skipping (parses_unless (ih _ _))
      · exact parses_skipping (ih _ _)
      · exact parses_pure trivial

theorem parses_documentStart :
    Parses whole failure most documentStart fun _ _ => True := by
  refine parses_get fun s _ => parses_then (parses_directives _ _ _) fun handles => ?_
  refine parses_after parses_peek fun token seen => parses_unless (parses_skipping ?_)
  refine parses_weaken (parses_modify fun s reading => ?_) fun _ _ _ => trivial
  exact ⟨⟨reading.among, reading.failure, reading.anchored⟩, rfl⟩

theorem parses_documentEnds (fuel : Nat) :
    Parses whole failure most (documentEnds fuel) fun _ _ => True := by
  induction fuel with
  | zero => exact parses_pure trivial
  | succ fuel ih =>
      exact parses_after (parses_nextIs _) fun _ _ => parses_ite (parses_skipping ih)
        (parses_pure trivial)

theorem parses_atDirective :
    Parses whole failure most atDirective fun _ taken => taken = 0 ∧ True := by
  refine parses_after parses_peek fun token seen => ?_
  split <;> exact parses_pure ⟨rfl, trivial⟩

theorem parses_documentContent {fuel : Nat} (enough : 2 * most + 2 ≤ fuel) :
    Parses whole failure most (documentContent fuel) fun _ _ => True := by
  have reads : Parses whole failure most (node .block fuel) fun _ _ => True :=
    parses_weaken (parses_node .block enough) fun _ _ _ => trivial
  exact parses_after parses_peek fun _ _ => parses_after (parses_nextIs _) fun _ _ =>
    parses_after parses_atDirective fun _ _ => parses_ite (parses_pure trivial) reads

theorem parses_document : Parses whole failure most document fun _ _ => True := by
  refine parses_get fun s _ => parses_takeNext fun _ => ?_
  refine parses_after (parses_nextIs _) fun _ _ => parses_ite (parses_pure trivial) ?_
  refine parses_after (parses_nextIs _) fun _ _ => parses_after parses_atDirective fun _ _ => ?_
  have enough : 2 * (s.tokens.length - 1) + 2 ≤ 4 * s.tokens.length + 16 := by omega
  have ends (root : Node) : Parses whole failure (s.tokens.length - 1) (do
      if (← nextIs [.documentEnd]) then discard take
      documentEnds (4 * s.tokens.length + 16)
      if (← nextIs [.streamEnd]) then return some root
      let second ← peek
      documentStart
      fail .secondDocument second.start) fun _ _ => True := by
    refine parses_after (parses_nextIs _) fun _ _ => parses_passing ?_
    refine parses_then (parses_documentEnds _) fun _ => parses_after (parses_nextIs _) fun _ _ => ?_
    refine parses_ite (parses_pure trivial) (parses_after parses_peek fun _ _ => ?_)
    exact parses_then parses_documentStart fun _ => parses_fail _ _
  refine parses_ite ?_ ?_
  · exact parses_then parses_documentStart fun _ =>
      parses_then (parses_documentContent enough) ends
  · exact parses_then (parses_weaken (parses_node .block enough) fun _ _ _ => trivial) ends

end

/-! ## Texts -/

theorem error_of_map {ε α β : Type} {result : Except ε α} {f : α → β} {e : ε}
    (failed : result.map f = .error e) : result = .error e := by
  cases result with
  | error other =>
      cases failed
      rfl
  | ok a => cases failed

/-- **What stops the nodes.** Besides broken rules, only an escape beyond all characters or an alias
of an anchor stops the nodes of a text from being put together. -/
theorem flaw_of_ofText {text : List Char} {fault : ScalarFault}
    (failed : ofText text = .error (.scalar fault)) :
    Overflows text fault ∨ fault = .endless ∧ Loops (tokens text).1 := by
  unfold ofText at failed
  cases found : unprintable? text with
  | some e =>
      rw [found] at failed
      cases failed
      unfold unprintable? at found
      split at found <;> cases found
  | none =>
      rw [found] at failed
      have begun : Reading (tokens text).1 (tokens text).2
          ⟨(tokens text).1, (tokens text).2, standardHandles, []⟩ :=
        ⟨fun _ member => member, rfl, nofun⟩
      have ended := parses_document _ begun (Nat.le_refl _)
      have stops : document.run ⟨(tokens text).1, (tokens text).2, standardHandles, []⟩ =
          .error (.scalar fault) := error_of_map failed
      rw [stops] at ended
      exact (ended fault rfl).imp_left overflows_of_tokens

end Node

end Wireframe.Yaml
