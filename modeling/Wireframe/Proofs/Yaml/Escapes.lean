import Mathlib.Tactic.SplitIfs
import Wireframe.Yaml.Lexer

/-! # Escapes beyond all characters

Finding the tokens of a text goes through the text from front to back, and it fails with a
broken rule, or because of an escape in the text that stands for a number which is no code
point (`Wireframe.Yaml.overflows_of_tokens`).

All steps of the lexer are judged alike: in front of the end of a text, a step leaves the
lexer in front of the end of this text, or fails in one of these two ways.
-/

namespace Wireframe.Yaml

/-- A text holds an escape for a number that is no code point, which is a fault. -/
def Overflows (text : List Char) (fault : ScalarFault) : Prop :=
  ∃ letter digits, '\\' :: letter :: digits <:+: text ∧
    Reader.escapeWidth? letter = some digits.length ∧
    Reader.codePoint (Text.numberOfDigits 16 digits) = .error (.scalar fault)

/-! ## Steps through a text -/

section

variable {σ α β : Type}

/-- What a step comes to is in front of the end of a text, or a broken rule, or the fault of an
escape in the text. -/
def Safely (rest : σ → List Char) (text : List Char) (result : Except Error (α × σ)) : Prop :=
  match result with
  | .ok done => rest done.2 <:+ text
  | .error e => ∀ fault, e = .scalar fault → Overflows text fault

/-- In front of the end of a text, a step comes to what is in front of the end of the text. -/
def Reads (rest : σ → List Char) (text : List Char) (step : StateT σ (Except Error) α) : Prop :=
  ∀ s, rest s <:+ text → Safely rest text (step.run s)

variable {rest : σ → List Char} {text : List Char} {step : StateT σ (Except Error) α}
  {next : α → StateT σ (Except Error) β}

theorem reads_pure (a : α) : Reads rest text (pure a) := fun _ inside => inside

theorem reads_broken (problem : Problem) (mark : Mark) :
    Reads rest text (throw (.broken problem mark) : StateT σ (Except Error) α) :=
  fun _ _ _ same => by cases same

theorem safely_bind {s : σ} (first : Safely rest text (step.run s))
    (second : ∀ a, Reads rest text (next a)) : Safely rest text ((step >>= next).run s) := by
  have run : (step >>= next).run s = step.run s >>= fun done => (next done.1).run done.2 := rfl
  rw [run]
  cases ran : step.run s with
  | error e =>
      rw [ran] at first
      exact first
  | ok done =>
      rw [ran] at first
      exact second done.1 done.2 first

theorem reads_bind (first : Reads rest text step) (second : ∀ a, Reads rest text (next a)) :
    Reads rest text (step >>= next) := fun s inside => safely_bind (first s inside) second

theorem reads_map (f : α → β) (reads : Reads rest text step) : Reads rest text (f <$> step) := by
  rw [← bind_pure_comp]
  exact reads_bind reads fun a => reads_pure (f a)

theorem safely_get {next : σ → StateT σ (Except Error) β} {s : σ}
    (second : Safely rest text ((next s).run s)) : Safely rest text ((get >>= next).run s) := second

theorem reads_get {next : σ → StateT σ (Except Error) β}
    (second : ∀ s, Reads rest text (next s)) : Reads rest text (get >>= next) :=
  fun s inside => safely_get (second s s inside)

theorem reads_modify {f : σ → σ} (onward : ∀ s, rest (f s) <:+ rest s) :
    Reads rest text (modify f) := fun s inside => (onward s).trans inside

theorem reads_ite {c : Prop} [Decidable c] {other : StateT σ (Except Error) α}
    (holds : Reads rest text step) (fails : Reads rest text other) :
    Reads rest text (if c then step else other) := by
  split
  · exact holds
  · exact fails

/-- A step that is taken on a condition, and what comes after it in either case. -/
theorem reads_when {c : Prop} [Decidable c] {last : StateT σ (Except Error) β}
    (first : Reads rest text step) (second : Reads rest text last) :
    Reads rest text (if c then step >>= fun _ => last else last) :=
  reads_ite (reads_bind first fun _ => second) second

end

/-! ## Cursors -/

theorem advance_suffix (c : Cursor) : c.advance.rest <:+ c.rest := by
  unfold Cursor.advance
  split
  · exact List.suffix_rfl
  · rename_i ch rest same
    rw [same]
    split_ifs <;> exact List.suffix_cons ch rest

theorem skip_suffix (n : Nat) (c : Cursor) : (c.skip n).rest <:+ c.rest := by
  induction n generalizing c with
  | zero => exact List.suffix_rfl
  | succ n ih => exact (ih c.advance).trans (advance_suffix c)

namespace Reader

variable {text : List Char}

theorem reads_fail {α : Type} (problem : Problem) :
    Reads Cursor.rest text (fail problem : Reader α) := reads_get fun _ => reads_broken problem _

theorem reads_wanted {α : Type} (what : Wanted) :
    Reads Cursor.rest text (wanted what : Reader α) := reads_get fun _ => reads_fail _

theorem reads_peek : Reads Cursor.rest text peek := reads_get fun _ => reads_pure _

theorem safely_peek {α : Type} {next : Char → Reader α} {c : Cursor}
    (second : Safely Cursor.rest text ((next c.peek).run c)) :
    Safely Cursor.rest text ((peek >>= next).run c) := second

theorem reads_skip (n : Nat) : Reads Cursor.rest text (skip n) := reads_modify (skip_suffix n)

theorem reads_skipWhile (p : Char → Bool) :
    Reads Cursor.rest text (modify (Cursor.skipWhile p)) := reads_modify fun c => skip_suffix _ c

theorem reads_takeWhile (p : Char → Bool) : Reads Cursor.rest text (takeWhile p) :=
  fun c inside => (skip_suffix (c.countWhile p) c).trans inside

theorem reads_skipSpaces : Reads Cursor.rest text skipSpaces := reads_skipWhile _

theorem reads_lineBreak : Reads Cursor.rest text lineBreak :=
  reads_get fun _ =>
    reads_ite (reads_bind (reads_skip 2) fun _ => reads_pure _) <|
      reads_ite (reads_bind (reads_skip 1) fun _ => reads_pure _) <|
        reads_ite (reads_bind (reads_skip 1) fun _ => reads_pure _) (reads_pure _)

theorem reads_skipComment : Reads Cursor.rest text skipComment :=
  reads_bind reads_peek fun _ => reads_ite (reads_skipWhile _) (reads_pure _)

theorem reads_finishLine : Reads Cursor.rest text finishLine :=
  reads_bind reads_skipSpaces fun _ => reads_bind reads_skipComment fun _ =>
    reads_bind reads_peek fun _ => reads_ite (reads_map _ reads_lineBreak) (reads_wanted _)

theorem reads_name (ends : Char → Bool) : Reads Cursor.rest text (name ends) :=
  reads_bind (reads_takeWhile _) fun _ => reads_ite (reads_wanted _) <|
    reads_bind reads_peek fun _ => reads_ite (reads_pure _) (reads_wanted _)

/-! ### Tags -/

theorem reads_uriBytes (fuel : Nat) : Reads Cursor.rest text (uriBytes fuel) := by
  induction fuel with
  | zero => exact reads_pure _
  | succ fuel ih =>
      exact reads_bind reads_peek fun _ => reads_ite (reads_pure _) <|
        reads_bind (reads_skip 1) fun _ => reads_get fun _ => reads_ite (reads_wanted _) <|
          reads_ite (reads_fail _) <| reads_bind (reads_skip 2) fun _ =>
            reads_bind ih fun _ => reads_pure _

theorem reads_uriChars (fuel : Nat) : Reads Cursor.rest text (uriChars fuel) := by
  induction fuel with
  | zero => exact reads_pure _
  | succ fuel ih =>
      rw [uriChars]
      refine reads_get fun c => reads_ite ?_ <| reads_ite ?_ (reads_pure _)
      · refine reads_bind (reads_uriBytes _) fun bytes => ?_
        split
        · exact reads_bind ih fun _ => reads_pure _
        · exact reads_broken _ _
      · exact reads_bind (reads_skip 1) fun _ => reads_bind ih fun _ => reads_pure _

theorem reads_uri : Reads Cursor.rest text uri :=
  reads_get fun _ => reads_ite (reads_bind (reads_uriChars _) fun _ => reads_pure _)
    (reads_wanted _)

theorem reads_tagHandle : Reads Cursor.rest text tagHandle :=
  reads_get fun _ => reads_ite (reads_wanted _) <|
    reads_ite (reads_bind (reads_skip 1) fun _ => reads_pure _) <|
      reads_bind (reads_skip 1) fun _ => reads_bind (reads_takeWhile _) fun _ =>
        reads_bind reads_peek fun _ => reads_ite (reads_wanted _) <|
          reads_bind (reads_skip 1) fun _ => reads_pure _

theorem reads_tag : Reads Cursor.rest text tag := by
  have ends (kind : TokenKind) : Reads Cursor.rest text
      (do if isSpaceOrEnd (← peek) then return kind else wanted .space) :=
    reads_bind reads_peek fun _ => reads_ite (reads_pure kind) (reads_wanted _)
  refine reads_get fun c => reads_ite ?_ <| reads_ite ?_ <| reads_ite ?_ ?_
  · exact reads_bind (reads_skip 2) fun _ => reads_bind reads_uri fun _ =>
      reads_bind reads_peek fun _ => reads_ite (reads_bind (reads_wanted _) ends) <|
        reads_bind (reads_skip 1) fun _ => reads_bind (reads_pure _) ends
  · exact reads_bind (reads_skip 1) fun _ => reads_bind (reads_pure _) ends
  · exact reads_bind reads_tagHandle fun _ => reads_bind reads_uri fun _ =>
      reads_bind (reads_pure _) ends
  · exact reads_bind (reads_skip 1) fun _ => reads_bind reads_uri fun _ =>
      reads_bind (reads_pure _) ends

/-! ### Directives, anchors and aliases -/

theorem reads_versionNumber : Reads Cursor.rest text versionNumber :=
  reads_bind (reads_takeWhile _) fun _ => reads_ite (reads_wanted _) (reads_pure _)

theorem reads_version : Reads Cursor.rest text version :=
  reads_bind reads_skipSpaces fun _ => reads_bind reads_versionNumber fun _ =>
    reads_bind reads_peek fun _ => reads_ite (reads_wanted _) <|
      reads_bind (reads_skip 1) fun _ => reads_bind reads_versionNumber fun _ =>
        reads_bind reads_peek fun _ => reads_ite (reads_pure _) (reads_wanted _)

theorem reads_tagDefinition : Reads Cursor.rest text tagDefinition :=
  reads_bind reads_skipSpaces fun _ => reads_bind reads_tagHandle fun _ =>
    reads_bind reads_peek fun _ => reads_ite (reads_wanted _) <|
      reads_bind reads_skipSpaces fun _ => reads_bind reads_uri fun _ =>
        reads_bind reads_peek fun _ => reads_ite (reads_pure _) (reads_wanted _)

theorem reads_directive : Reads Cursor.rest text directive := by
  have ends (value : Directive) : Reads Cursor.rest text (do
      let stop := (← get).mark
      if value == .other then modify (Cursor.skipWhile fun c => !isBreakOrEnd c)
      finishLine
      return (value, stop)) := by
    have last (stop : Mark) : Reads Cursor.rest text (do finishLine; return (value, stop)) :=
      reads_bind reads_finishLine fun _ => reads_pure _
    exact reads_get fun c => reads_when (reads_skipWhile _) (last c.mark)
  exact reads_bind (reads_skip 1) fun _ => reads_bind (reads_name _) fun _ =>
    reads_ite (reads_bind reads_version ends) <|
      reads_ite (reads_bind reads_tagDefinition ends) (reads_bind (reads_pure _) ends)

theorem reads_anchorName : Reads Cursor.rest text anchorName :=
  reads_bind (reads_skip 1) fun _ => reads_name _

/-! ### Block scalars -/

theorem reads_chomping? : Reads Cursor.rest text chomping? := by
  refine reads_bind reads_peek fun c => ?_
  split
  · exact reads_bind (reads_skip 1) fun _ => reads_pure _
  · exact reads_bind (reads_skip 1) fun _ => reads_pure _
  · exact reads_pure _

theorem reads_indentation? : Reads Cursor.rest text indentation? :=
  reads_bind reads_peek fun _ => reads_ite (reads_fail _) <|
    reads_ite (reads_bind (reads_skip 1) fun _ => reads_pure _) (reads_pure _)

theorem reads_blockHeader : Reads Cursor.rest text blockHeader := by
  refine reads_bind reads_chomping? fun first => reads_bind reads_indentation? fun indentation => ?_
  have ends (second : Option Chomping) : Reads Cursor.rest text (do
      if isSpaceOrEnd (← peek) then return ((first.or second).getD .clip, indentation)
      else wanted .chompingOrIndentation) :=
    reads_bind reads_peek fun _ => reads_ite (reads_pure _) (reads_wanted _)
  exact reads_ite (reads_bind reads_chomping? ends) (reads_bind (reads_pure _) ends)

theorem reads_skipIndentation (column : Nat) : Reads Cursor.rest text (skipIndentation column) :=
  fun c inside => (skip_suffix _ c).trans inside

theorem reads_leadingBreaks (fuel deepest : Nat) :
    Reads Cursor.rest text (leadingBreaks fuel deepest) := by
  induction fuel generalizing deepest with
  | zero => exact reads_pure _
  | succ fuel ih =>
      exact reads_bind reads_peek fun _ =>
        reads_ite (reads_bind reads_skipSpaces fun _ => reads_get fun _ => ih _) <|
          reads_ite (reads_bind reads_lineBreak fun _ => reads_bind (ih _) fun _ => reads_pure _)
            (reads_pure _)

theorem reads_innerBreaks (column fuel : Nat) :
    Reads Cursor.rest text (innerBreaks column fuel) := by
  induction fuel with
  | zero => exact reads_pure _
  | succ fuel ih =>
      exact reads_bind (reads_skipIndentation column) fun _ => reads_bind reads_peek fun _ =>
        reads_ite (reads_bind reads_lineBreak fun _ => reads_bind ih fun _ => reads_pure _)
          (reads_pure _)

theorem reads_blockLines (folded : Bool) (column fuel : Nat) (breaks : List (List Char)) :
    Reads Cursor.rest text (blockLines folded column fuel breaks) := by
  induction fuel generalizing breaks with
  | zero => exact reads_pure _
  | succ fuel ih =>
      exact reads_bind reads_peek fun _ => reads_bind (reads_takeWhile _) fun _ =>
        reads_bind reads_lineBreak fun _ => reads_get fun _ =>
          reads_bind (reads_innerBreaks column _) fun _ => reads_get fun _ =>
            reads_ite (reads_bind (ih _) fun _ => reads_pure _) (reads_pure _)

theorem reads_blockScalar (folded : Bool) (indent : Int) :
    Reads Cursor.rest text (blockScalar folded indent) := by
  have lines {last : List Char × List Char × List (List Char) → Reader (List Char)}
      (ends : ∀ made, Reads Cursor.rest text (last made)) (fuel : Nat)
      (start : List (List Char) × Nat) :
      Reads Cursor.rest text (do
        let made ←
          if atBlockLine start.2 (← get) then blockLines folded start.2 fuel start.1
          else pure ([], [], start.1)
        last made) :=
    reads_get fun _ => reads_ite (reads_bind (reads_blockLines _ _ _ _) ends)
      (reads_bind (reads_pure _) ends)
  refine reads_bind (reads_skip 1) fun _ => reads_bind reads_blockHeader fun header =>
    reads_bind reads_finishLine fun _ => reads_get fun c => ?_
  obtain ⟨chomping, increment⟩ := header
  cases increment with
  | none =>
      refine reads_bind (reads_leadingBreaks _ 0) fun _ => reads_bind (reads_pure _) fun start =>
        lines (fun made => ?_) _ start
      cases chomping <;> exact reads_pure _
  | some n =>
      refine reads_bind (reads_innerBreaks _ _) fun _ => reads_bind (reads_pure _) fun start =>
        lines (fun made => ?_) _ start
      cases chomping <;> exact reads_pure _

/-! ### Quoted scalars -/

theorem reads_quotedBreaks (fuel : Nat) : Reads Cursor.rest text (quotedBreaks fuel) := by
  induction fuel with
  | zero => exact reads_pure _
  | succ fuel ih =>
      refine reads_get fun _ => reads_when (reads_fail _) ?_
      exact reads_bind (reads_skipWhile _) fun _ => reads_bind reads_peek fun _ =>
        reads_ite (reads_bind reads_lineBreak fun _ => reads_bind ih fun _ => reads_pure _)
          (reads_pure _)

theorem reads_quotedSpace (fuel : Nat) : Reads Cursor.rest text (quotedSpace fuel) :=
  reads_bind (reads_takeWhile _) fun _ => reads_bind reads_peek fun _ =>
    reads_ite (reads_fail _) <| reads_ite (reads_bind reads_lineBreak fun _ =>
      reads_bind (reads_quotedBreaks fuel) fun _ => reads_ite (reads_pure _) <|
        reads_ite (reads_pure _) (reads_pure _)) (reads_pure _)

/-- Digits that are seen ahead stand in front of what is read. -/
theorem range_peekAt {c : Cursor} {width : Nat}
    (digits : ((List.range width).map c.peekAt).find? (fun d => !Text.isHexDigit d) = none) :
    (List.range width).map c.peekAt <+: c.rest := by
  have long : width ≤ c.rest.length := by
    refine Nat.le_of_not_lt fun short => ?_
    have seen := List.find?_eq_none.mp digits (c.peekAt c.rest.length)
      (List.mem_map_of_mem (List.mem_range.mpr short))
    -- Behind the end of a text stands no digit.
    have ending : c.peekAt c.rest.length = '\x00' := by simp [Cursor.peekAt]
    rw [ending] at seen
    exact seen (by decide)
  have same : (List.range width).map c.peekAt = c.rest.take width := by
    refine List.ext_getElem (by simp [long]) fun i inside within => ?_
    have less : i < c.rest.length := by
      rw [List.length_take] at within
      omega
    simp [Cursor.peekAt, less]
  rw [same]
  exact List.take_prefix width c.rest

/-- A character that is not the mark of the end stands in front of what is read. -/
theorem rest_eq_cons {c : Cursor} (more : c.peek ≠ '\x00') :
    c.rest = c.peek :: (c.skip 1).rest := by
  obtain ⟨rest, index, line, column⟩ := c
  cases rest with
  | nil => exact absurd rfl more
  | cons ch rest =>
      simp only [Cursor.peek, List.headD_cons, Cursor.skip, Cursor.advance]
      split_ifs <;> rfl

theorem safely_codeEscape {letter : Char} {width : Nat} (escaped : escapeWidth? letter = some width)
    {c : Cursor} (inside : '\\' :: letter :: c.rest <:+ text) :
    Safely Cursor.rest text ((codeEscape width).run c) := by
  have onward : c.rest <:+ text :=
    ((List.suffix_cons letter c.rest).trans (List.suffix_cons _ _)).trans inside
  unfold codeEscape
  refine safely_get ?_
  dsimp only
  split
  · exact reads_fail _ c onward
  · rename_i digits
    obtain ⟨more, ahead⟩ := range_peekAt digits
    cases decoded : codePoint (Text.numberOfDigits 16 ((List.range width).map c.peekAt)) with
    | ok code => exact (skip_suffix width c).trans onward
    | error e =>
        rintro fault rfl
        refine ⟨letter, (List.range width).map c.peekAt, ?_, by simpa using escaped, decoded⟩
        obtain ⟨before, text⟩ := inside
        refine ⟨before, more, ?_⟩
        rw [← text, ← ahead, List.append_assoc]
        rfl

theorem safely_escape (fuel : Nat) {c : Cursor} (inside : '\\' :: c.rest <:+ text) :
    Safely Cursor.rest text ((escape fuel).run c) := by
  have onward : c.rest <:+ text := (List.suffix_cons _ c.rest).trans inside
  unfold escape
  refine safely_peek ?_
  split
  · exact reads_bind (reads_skip 1) (fun _ => reads_pure _) c onward
  · rename_i width _ escaped
    have more : c.peek ≠ '\x00' := by
      intro ending
      rw [ending] at escaped
      cases escaped
    rw [rest_eq_cons more] at inside
    have behind : Safely Cursor.rest text
        ((do return [← codeEscape width] : Reader (List Nat)).run (c.skip 1)) :=
      safely_bind (safely_codeEscape escaped inside) fun _ => reads_pure _
    exact behind
  · exact reads_ite (reads_bind (reads_map _ reads_lineBreak) fun _ =>
      reads_bind (reads_quotedBreaks fuel) fun _ => reads_pure _) (reads_fail _) c onward

theorem reads_doubleQuoted (fuel : Nat) : Reads Cursor.rest text (doubleQuoted fuel) := by
  induction fuel with
  | zero => exact reads_fail _
  | succ fuel ih =>
      intro c inside
      rw [doubleQuoted]
      refine safely_peek ?_
      split_ifs with quote slash gap
      · exact reads_bind (reads_skip 1) (fun _ => reads_pure _) c inside
      · have more : c.peek ≠ '\x00' := by
          intro ending
          rw [ending] at slash
          cases slash
        rw [rest_eq_cons more, beq_iff_eq.mp slash] at inside
        have behind : Safely Cursor.rest text
            ((do return (← escape fuel) ++ (← doubleQuoted fuel) : Reader (List Nat)).run
              (c.skip 1)) :=
          safely_bind (safely_escape fuel inside) fun _ => reads_bind ih fun _ => reads_pure _
        exact behind
      · exact reads_bind (reads_quotedSpace fuel) (fun _ => reads_bind ih fun _ => reads_pure _)
          c inside
      · exact reads_bind (reads_skip 1) (fun _ => reads_bind ih fun _ => reads_pure _) c inside

theorem reads_singleQuoted (fuel : Nat) : Reads Cursor.rest text (singleQuoted fuel) := by
  induction fuel with
  | zero => exact reads_fail _
  | succ fuel ih =>
      exact reads_get fun _ =>
        reads_ite (reads_bind (reads_skip 2) fun _ => reads_bind ih fun _ => reads_pure _) <|
          reads_ite (reads_bind (reads_skip 1) fun _ => reads_pure _) <|
            reads_ite
              (reads_bind (reads_quotedSpace _) fun _ => reads_bind ih fun _ => reads_pure _)
              (reads_bind (reads_skip 1) fun _ => reads_bind ih fun _ => reads_pure _)

theorem reads_quotedScalar : Reads Cursor.rest text quotedScalar :=
  reads_get fun _ => reads_bind (reads_skip 1) fun _ =>
    reads_ite (reads_bind (reads_doubleQuoted _) fun _ => reads_pure _)
      (reads_bind (reads_singleQuoted _) fun _ => reads_pure _)

/-! ### Plain scalars -/

theorem reads_plainBreaks (fuel : Nat) : Reads Cursor.rest text (plainBreaks fuel) := by
  induction fuel with
  | zero => exact reads_pure _
  | succ fuel ih =>
      exact reads_get fun _ => reads_ite (reads_pure _) <|
        reads_bind reads_skipSpaces fun _ => reads_bind reads_peek fun _ =>
          reads_ite (reads_bind reads_lineBreak fun _ => reads_bind ih fun _ => reads_pure _)
            (reads_pure _)

theorem reads_plainGap (fuel : Nat) : Reads Cursor.rest text (plainGap fuel) := by
  refine reads_bind (reads_takeWhile _) fun _ => reads_bind reads_peek fun _ =>
    reads_ite ?_ (reads_pure _)
  refine reads_bind reads_lineBreak fun _ => reads_bind (reads_plainBreaks fuel) fun breaks => ?_
  cases breaks with
  | none => exact reads_pure _
  | some breaks => exact reads_ite (reads_pure _) <| reads_ite (reads_pure _) (reads_pure _)

theorem reads_plainScalar (inFlow : Bool) (column fuel : Nat) (gap : List Char) (stop : Mark)
    (crossed : Bool) :
    Reads Cursor.rest text (plainScalar inFlow column fuel gap stop crossed) := by
  induction fuel generalizing gap stop crossed with
  | zero => exact reads_pure _
  | succ fuel ih =>
      exact reads_get fun _ => reads_ite (reads_pure _) <| reads_bind (reads_skip _) fun _ =>
        reads_get fun _ => reads_bind (reads_plainGap _) fun _ => reads_get fun _ =>
          reads_ite (reads_pure _) (reads_bind (ih _ _ _) fun _ => reads_pure _)

end Reader

/-! ## The lexer -/

namespace Lexer

variable {text : List Char}

/-- What the lexer has still to read. -/
def ahead (lexer : Lexer) : List Char := lexer.cursor.rest

theorem reads_fail {α : Type} (problem : Problem) : Reads ahead text (fail problem : Step α) :=
  reads_get fun _ => reads_broken problem _

/-- A piece of the text is read by a reader of pieces. -/
theorem reads_read {α : Type} {reader : Reader α} (reads : Reads Cursor.rest text reader) :
    Reads ahead text (read reader) := by
  intro lexer inside
  have piece := reads lexer.cursor inside
  unfold read
  refine safely_get ?_
  cases ran : reader.run lexer.cursor with
  | error e =>
      rw [ran] at piece
      exact piece
  | ok done =>
      rw [ran] at piece
      exact piece

theorem reads_push (kind : TokenKind) (start stop : Mark) :
    Reads ahead text (push kind start stop) := reads_modify fun _ => List.suffix_rfl

theorem reads_pushHere (kind : TokenKind) : Reads ahead text (pushHere kind) :=
  reads_get fun _ => reads_push kind _ _

theorem reads_pushSkip (kind : TokenKind) (n : Nat) : Reads ahead text (pushSkip kind n) :=
  reads_get fun _ => reads_bind (reads_read (Reader.reads_skip n)) fun _ =>
    reads_get fun _ => reads_push kind _ _

theorem reads_dropStaleKeys : Reads ahead text dropStaleKeys := by
  intro lexer inside
  unfold dropStaleKeys
  refine safely_get ?_
  dsimp only
  split
  · exact reads_fail _ lexer inside
  · exact inside

theorem reads_dropKey : Reads ahead text dropKey := by
  intro lexer inside
  unfold dropKey
  refine safely_get ?_
  dsimp only
  split
  · exact reads_fail _ lexer inside
  · exact inside

theorem reads_saveKey : Reads ahead text saveKey :=
  reads_get fun _ => reads_ite (reads_bind reads_dropKey fun _ =>
    reads_modify fun _ => List.suffix_rfl) (reads_pure _)

theorem reads_allowKey (allowed : Bool) : Reads ahead text (allowKey allowed) :=
  reads_modify fun _ => List.suffix_rfl

theorem reads_closeBlocks (column : Int) : Reads ahead text (closeBlocks column) := by
  intro lexer inside
  unfold closeBlocks
  refine safely_get ?_
  split <;> exact inside

theorem reads_openBlock (column : Nat) : Reads ahead text (openBlock column) := by
  intro lexer inside
  unfold openBlock
  refine safely_get ?_
  split <;> exact inside

theorem reads_openBlockHere (kind : TokenKind) : Reads ahead text (openBlockHere kind) :=
  reads_get fun _ => reads_bind (reads_openBlock _) fun _ =>
    reads_ite (reads_pushHere kind) (reads_pure _)

theorem reads_skipGap (fuel : Nat) : Reads ahead text (skipGap fuel) := by
  induction fuel with
  | zero => exact reads_pure _
  | succ fuel ih =>
      exact reads_bind (reads_read Reader.reads_skipSpaces) fun _ =>
        reads_bind (reads_read Reader.reads_skipComment) fun _ =>
          reads_bind (reads_read Reader.reads_lineBreak) fun _ =>
            reads_ite (reads_get fun _ => reads_when (reads_allowKey true) ih) (reads_pure _)

theorem reads_streamEnd : Reads ahead text streamEnd :=
  reads_bind (reads_closeBlocks _) fun _ => reads_bind reads_dropKey fun _ =>
    reads_bind (reads_modify fun _ => List.suffix_rfl) fun _ => reads_pushHere _

theorem reads_leaveBlocks : Reads ahead text leaveBlocks :=
  reads_bind (reads_closeBlocks _) fun _ => reads_bind reads_dropKey fun _ => reads_allowKey false

theorem reads_directive : Reads ahead text directive :=
  reads_bind reads_leaveBlocks fun _ => reads_get fun _ =>
    reads_bind (reads_read Reader.reads_directive) fun _ => reads_push _ _ _

theorem reads_separator (kind : TokenKind) : Reads ahead text (separator kind) :=
  reads_bind reads_leaveBlocks fun _ => reads_pushSkip kind 3

theorem reads_flowStart (kind : TokenKind) : Reads ahead text (flowStart kind) :=
  reads_bind reads_saveKey fun _ => reads_bind (reads_modify fun _ => List.suffix_rfl) fun _ =>
    reads_bind (reads_allowKey true) fun _ => reads_pushSkip kind 1

theorem reads_flowEnd (kind : TokenKind) : Reads ahead text (flowEnd kind) :=
  reads_bind reads_dropKey fun _ => reads_bind (reads_modify fun _ => List.suffix_rfl) fun _ =>
    reads_bind (reads_allowKey false) fun _ => reads_pushSkip kind 1

theorem reads_flowEntry : Reads ahead text flowEntry :=
  reads_bind (reads_allowKey true) fun _ => reads_bind reads_dropKey fun _ =>
    reads_pushSkip _ 1

/-- A step of a block collection: where it is not allowed, the text is broken. -/
theorem reads_entry {lexer : Lexer} {problem : Problem} {kind : TokenKind} {ends : Step Unit}
    (reads : Reads ahead text ends) :
    Reads ahead text (do
      if !lexer.keyAllowed then fail problem
      openBlockHere kind
      ends) :=
  reads_when (reads_fail _) (reads_bind (reads_openBlockHere kind) fun _ => reads)

theorem reads_blockEntry : Reads ahead text blockEntry := by
  have ends : Reads ahead text (do allowKey true; dropKey; pushSkip .blockEntry 1) :=
    reads_bind (reads_allowKey true) fun _ => reads_bind reads_dropKey fun _ => reads_pushSkip _ 1
  exact reads_get fun _ => reads_ite (reads_entry ends) ends

theorem reads_key : Reads ahead text key := by
  have ends (allowed : Bool) :
      Reads ahead text (do allowKey allowed; dropKey; pushSkip .key 1) :=
    reads_bind (reads_allowKey _) fun _ => reads_bind reads_dropKey fun _ => reads_pushSkip _ 1
  exact reads_get fun _ => reads_ite (reads_entry (ends _)) (ends _)

theorem reads_announceKey (place : KeyPlace) : Reads ahead text (announceKey place) := by
  have ends (opens : Bool) : Reads ahead text (do
      let announcement :=
        (if opens then [TokenKind.blockMappingStart, .key] else [.key]).map fun kind =>
          (⟨kind, place.mark, place.mark⟩ : Token)
      modify fun lexer =>
        let position := place.token - lexer.handedOn
        { lexer with
          keyPlaces := lexer.keyPlaces.filter fun entry => entry.1 != lexer.flowDepth
          waiting := lexer.waiting.take position ++ announcement ++ lexer.waiting.drop position
          keyAllowed := false }) := reads_modify fun _ => List.suffix_rfl
  exact reads_get fun _ =>
    reads_ite (reads_bind (reads_openBlock _) ends) (reads_bind (reads_pure _) ends)

theorem reads_value : Reads ahead text value := by
  have stops : Reads ahead text (pushSkip .value 1) := reads_pushSkip _ 1
  have ends (allowed : Bool) : Reads ahead text (do allowKey allowed; dropKey; pushSkip .value 1) :=
    reads_bind (reads_allowKey _) fun _ => reads_bind reads_dropKey fun _ => stops
  refine reads_get fun lexer => ?_
  split
  · exact reads_bind (reads_announceKey _) fun _ => stops
  · exact reads_ite (reads_entry (ends _)) (ends _)

theorem reads_keyPiece {reader : Reader TokenKind} (reads : Reads Cursor.rest text reader) :
    Reads ahead text (keyPiece reader) :=
  reads_bind reads_saveKey fun _ => reads_bind (reads_allowKey false) fun _ =>
    reads_get fun _ => reads_bind (reads_read reads) fun _ => reads_get fun _ => reads_push _ _ _

theorem reads_blockScalar (folded : Bool) : Reads ahead text (blockScalar folded) :=
  reads_bind (reads_allowKey true) fun _ => reads_bind reads_dropKey fun _ => reads_get fun _ =>
    reads_bind (reads_read (Reader.reads_blockScalar folded _)) fun _ =>
      reads_get fun _ => reads_push _ _ _

theorem reads_plainScalar : Reads ahead text plainScalar :=
  reads_bind reads_saveKey fun _ => reads_get fun _ =>
    reads_bind (reads_read (Reader.reads_plainScalar _ _ _ _ _ _)) fun _ =>
      reads_bind (reads_allowKey _) fun _ => reads_push _ _ _

theorem reads_next : Reads ahead text next := by
  refine reads_get fun _ => reads_get fun _ => reads_when (reads_read (Reader.reads_skip 1)) ?_
  refine reads_get fun _ => reads_bind (reads_skipGap _) fun _ =>
    reads_bind reads_dropStaleKeys fun _ => reads_get fun _ =>
      reads_bind (reads_closeBlocks _) fun _ => reads_get fun lexer => ?_
  exact reads_ite reads_streamEnd <| reads_ite reads_directive <|
    reads_ite (reads_separator _) <| reads_ite (reads_separator _) <|
    reads_ite (reads_flowStart _) <| reads_ite (reads_flowStart _) <|
    reads_ite (reads_flowEnd _) <| reads_ite (reads_flowEnd _) <|
    reads_ite reads_flowEntry <| reads_ite reads_blockEntry <| reads_ite reads_key <|
    reads_ite reads_value <| reads_ite (reads_keyPiece (reads_map _ Reader.reads_anchorName)) <|
    reads_ite (reads_keyPiece (reads_map _ Reader.reads_anchorName)) <|
    reads_ite (reads_keyPiece Reader.reads_tag) <| reads_ite (reads_blockScalar _) <|
    reads_ite (reads_blockScalar _) <| reads_ite (reads_keyPiece Reader.reads_quotedScalar) <|
    reads_ite reads_plainScalar (reads_fail _)

theorem reads_needsMore : Reads ahead text needsMore :=
  reads_get fun _ => reads_ite (reads_pure _) <| reads_get fun _ => reads_ite (reads_pure _) <|
    reads_bind reads_dropStaleKeys fun _ => reads_get fun _ => reads_pure _

/-- The lexer stops with a broken rule, or with the fault of an escape in its text. -/
theorem overflows_of_run {fuel : Nat} {handed : List Token} {lexer : Lexer} {fault : ScalarFault}
    (inside : lexer.ahead <:+ text) (stops : (run fuel handed lexer).2 = some (.scalar fault)) :
    Overflows text fault := by
  -- Over the rounds, what lies ahead of the lexer stays an end of the text.
  induction fuel generalizing handed lexer with
  | zero => cases stops
  | succ fuel ih =>
      have asked := reads_needsMore lexer inside
      rw [run] at stops
      cases wants : needsMore.run lexer with
      | error e =>
          rw [wants] at asked stops
          cases stops
          exact asked fault rfl
      | ok done =>
          obtain ⟨more, lexer⟩ := done
          rw [wants] at asked stops
          cases more with
          | true =>
              have found := reads_next lexer asked
              cases goes : next.run lexer with
              | error e =>
                  simp only [goes] at found stops
                  cases stops
                  exact found fault rfl
              | ok done =>
                  simp only [goes] at found stops
                  exact ih found stops
          | false =>
              dsimp only at stops
              split at stops
              · cases stops
              · refine ih ?_ stops
                exact asked

end Lexer

/-- **Escapes beyond all characters.** The tokens of a text end early with a broken rule, or because
of an escape in the text that stands for a number which is no code point. -/
theorem overflows_of_tokens {text : List Char} {fault : ScalarFault}
    (stops : (tokens text).2 = some (.scalar fault)) : Overflows text fault :=
  Lexer.overflows_of_run List.suffix_rfl stops

end Wireframe.Yaml
