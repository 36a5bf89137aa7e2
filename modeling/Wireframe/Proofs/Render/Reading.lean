import Mathlib.Data.List.Chain
import Mathlib.Data.List.TakeWhile
import Wireframe.Proofs.Markup.Written
import Wireframe.Render.Reference

/-! # Reading values of style sheets

What a value of a style sheet refers to, said by how a reference is written: `var` in any case,
an opening bracket, blanks and a name that begins with two hyphens. No character of a name stands
before it, and none follows its name. Comments and escapes are left out.

The references that are followed from a value include all that are written in plain letters
(`Wireframe.Render.mem_references`). One match cannot hide another one: a match holds no second
bracket, so it would have to end within the next `var`, in the middle of a name.
-/

namespace Wireframe.Render

/-- A character that a name may hold in a style sheet, where characters beyond ASCII are allowed. -/
def isIdentChar (c : Char) : Bool := isNameChar c || 0x80 ≤ c.toNat

/-- The name of a variable: two hyphens and something behind them. -/
structure IsDashed (name : String) : Prop where
  hyphens : ∃ c rest, name.toList = '-' :: '-' :: c :: rest
  chars : ∀ c ∈ name.toList, isIdentChar c = true

/-- A name in ASCII letters. -/
def IsPlain (name : String) : Prop := ∀ c ∈ name.toList, isNameChar c = true

/-- A value refers to a name, with the word of the reference spelled in some way. -/
def ReadsAs (word : List Char) (value name : String) : Prop :=
  ∃ before blanks after,
    value.toList = before ++ (word ++ '(' :: (blanks ++ (name.toList ++ after))) ∧
    word.map Char.toLower = ['v', 'a', 'r'] ∧ (∀ c ∈ blanks, Text.isBlank c = true) ∧
    IsDashed name ∧ (∀ c ∈ before.getLast?, isIdentChar c = false) ∧
    ∀ c ∈ after.head?, isIdentChar c = false

/-- A value refers to a name. -/
def Reads (value name : String) : Prop := ∃ word, ReadsAs word value name

/-- A value whose references are all written in plain letters. -/
def IsPlainValue (value : String) : Prop :=
  ∀ word name, ReadsAs word value name → word = ['v', 'a', 'r'] ∧ IsPlain name

/-! ## One match -/

theorem referenceAtFront?_written {blanks more after : List Char}
    (blank : ∀ c ∈ blanks, Text.isBlank c = true) (something : more ≠ [])
    (plain : ∀ c ∈ more, isNameChar c = true) (ends : ∀ c ∈ after.head?, isNameChar c = false) :
    referenceAtFront? ('v' :: 'a' :: 'r' :: '(' :: (blanks ++ ('-' :: '-' :: more ++ after))) =
      some (String.ofList ('-' :: '-' :: more), 6 + blanks.length + more.length) := by
  have skipped : (blanks ++ ('-' :: '-' :: more ++ after)).dropWhile Text.isBlank =
      '-' :: '-' :: (more ++ after) := by
    rw [List.dropWhile_append_of_pos blank]
    rfl
  have passed : (blanks ++ ('-' :: '-' :: more ++ after)).takeWhile Text.isBlank = blanks :=
    Markup.takeWhile_run blank (by simp; decide)
  have taken : (more ++ after).takeWhile isNameChar = more := Markup.takeWhile_run plain ends
  rw [referenceAtFront?, skipped, passed]
  simp only [taken]
  rw [if_neg (by simpa using something)]

/-- The second of two characters begins no reference: the first one is of a name, or the second one
is not the first of `var`. -/
def Shields (c next : Char) : Prop := isIdentChar c = true ∨ next ≠ 'v'

theorem isIdentChar_of_nameChar {c : Char} (plain : isNameChar c = true) :
    isIdentChar c = true := by
  rw [isIdentChar, plain, Bool.true_or]

theorem shields_idents {name : List Char} (idents : ∀ c ∈ name, isIdentChar c = true) :
    name.IsChain Shields := by
  induction name with
  | nil => exact .nil
  | cons c rest ih =>
      obtain ⟨here, behind⟩ := List.forall_mem_cons.mp idents
      cases rest with
      | nil => exact .singleton c
      | cons next rest => exact .cons_cons (.inl here) (ih behind)

/-- Neither a blank nor a hyphen begins `var`, so nothing has to be known of what stands before. -/
theorem shields_blanks {blanks name : List Char} (blank : ∀ c ∈ blanks, Text.isBlank c = true)
    (plain : ∀ c ∈ name, isNameChar c = true) (first : Char) :
    (first :: (blanks ++ '-' :: '-' :: name)).IsChain Shields := by
  induction blanks generalizing first with
  | nil =>
      refine .cons_cons (.inr (by decide)) (shields_idents fun c member => ?_)
      simp only [List.mem_cons] at member
      rcases member with rfl | rfl | member
      · decide
      · decide
      · exact isIdentChar_of_nameChar (plain c member)
  | cons c rest ih =>
      obtain ⟨here, behind⟩ := List.forall_mem_cons.mp blank
      refine .cons_cons (.inr ?_) (ih behind c)
      rintro rfl
      exact absurd here (by decide)

/-- What is matched at the front of a text. In it `var` follows on nothing but a character of a
name. -/
theorem match_of_referenceAtFront? {s : List Char} {name : String} {length : Nat}
    (found : referenceAtFront? s = some (name, length)) :
    ∃ run rest, s = run ++ rest ∧ run.length = length ∧ run.IsChain Shields := by
  unfold referenceAtFront? at found
  split at found
  · rename_i rest
    dsimp only at found
    split at found
    · rename_i more hyphens
      split at found
      · cases found
      · cases found
        refine ⟨'v' :: 'a' :: 'r' :: '(' ::
          (rest.takeWhile Text.isBlank ++ '-' :: '-' :: more.takeWhile isNameChar),
          more.dropWhile isNameChar, ?_, ?_, ?_⟩
        · have whole := List.takeWhile_append_dropWhile (p := Text.isBlank) (l := rest)
          rw [hyphens] at whole
          simp only [List.cons_append, List.append_assoc, List.takeWhile_append_dropWhile, whole]
        · simp only [List.length_cons, List.length_append]
          omega
        · refine .cons_cons (.inr (by decide)) (.cons_cons (.inr (by decide))
            (.cons_cons (.inl (by decide)) (shields_blanks ?_ ?_ '(')))
          · exact fun c member => List.mem_takeWhile_imp member
          · exact fun c member => List.mem_takeWhile_imp member
    · cases found
  · cases found

/-! ## All matches -/

theorem referencesFrom_passed (passed : Nat) (s : List Char) :
    referencesFrom passed s = referencesFrom 0 (s.drop passed) := by
  induction passed generalizing s with
  | zero => rfl
  | succ passed ih =>
      cases s with
      | nil => rfl
      | cons c rest => rw [referencesFrom, ih, List.drop_succ_cons]

/-- A match that begins before a reference, which follows on no character of a name, does not reach
into it. -/
theorem length_le_of_match {before rest : List Char} {name : String} {length : Nat}
    (begun : before ≠ []) (edge : ∀ c ∈ before.getLast?, isIdentChar c = false)
    (found : referenceAtFront? (before ++ 'v' :: rest) = some (name, length)) :
    length ≤ before.length := by
  obtain ⟨run, tail, split, rfl, shields⟩ := match_of_referenceAtFront? found
  rcases List.append_eq_append_iff.mp split with ⟨inside, rfl, reaches⟩ | ⟨inside, rfl, -⟩
  · obtain ⟨before, last, rfl⟩ := List.eq_nil_or_concat before |>.resolve_left begun
    cases inside with
    | nil => simp
    | cons next inside =>
        obtain rfl : 'v' = next := (List.cons.inj reaches).1
        have outside := edge last (by simp)
        rw [List.concat_eq_append, List.append_assoc] at shields
        rcases (List.isChain_append_cons_cons.mp shields).2.1 with ident | other
        · cases outside.symm.trans ident
        · exact absurd rfl other
  · simp

/-- A reference is found wherever it stands: each match before it ends before it. -/
theorem mem_referencesFrom {name : String} {rest : List Char} {length : Nat}
    (here : referenceAtFront? ('v' :: rest) = some (name, length)) (before : List Char)
    (edge : ∀ c ∈ before.getLast?, isIdentChar c = false) :
    name ∈ referencesFrom 0 (before ++ 'v' :: rest) := by
  match before with
  | [] =>
      rw [List.nil_append, referencesFrom, here]
      exact List.mem_cons_self
  | c :: before =>
      have later (passed : Nat) (within : passed ≤ before.length) :
          name ∈ referencesFrom passed (before ++ 'v' :: rest) := by
        rw [referencesFrom_passed, List.drop_append_of_le_length within]
        refine mem_referencesFrom here (before.drop passed) fun last ends => edge last ?_
        rw [List.getLast?_drop] at ends
        split at ends
        · cases ends
        · rw [List.getLast?_cons, Option.mem_def.mp ends]
          rfl
      rw [List.cons_append, referencesFrom]
      split
      · rename_i other passed found
        have within := length_le_of_match (List.cons_ne_nil c before) edge found
        exact List.mem_cons_of_mem other (later (passed - 1) (by simp at within; omega))
      · exact later 0 (Nat.zero_le _)
termination_by before.length

/-- **References are found.** A reference that is written in plain letters is one that is
followed. -/
theorem mem_references {value name : String} (reads : ReadsAs ['v', 'a', 'r'] value name)
    (plain : IsPlain name) : name ∈ references value := by
  obtain ⟨before, blanks, after, spelled, -, blank, dashed, edge, ends⟩ := reads
  obtain ⟨first, more, hyphens⟩ := dashed.hyphens
  have letters : ∀ c ∈ first :: more, isNameChar c = true := by
    intro c member
    refine plain c ?_
    rw [hyphens]
    exact List.mem_cons_of_mem _ (List.mem_cons_of_mem _ member)
  have closed : ∀ c ∈ after.head?, isNameChar c = false := by
    intro c member
    have outside := ends c member
    rw [isIdentChar, Bool.or_eq_false_iff] at outside
    exact outside.1
  have here := referenceAtFront?_written blank (List.cons_ne_nil first more) letters closed
  rw [← hyphens, String.ofList_toList] at here
  rw [references, spelled]
  exact mem_referencesFrom here before edge

/-! ## Values that are one reference -/

/-- A separator that occurs once splits a list in one way. -/
theorem split_once {α : Type} {sep : α} {left right before after : List α}
    (same : left ++ sep :: right = before ++ sep :: after) (once : sep ∉ left ∧ sep ∉ right) :
    before = left ∧ after = right := by
  rcases List.append_eq_append_iff.mp same with ⟨between, rfl, rest⟩ | ⟨between, rfl, rest⟩
  · cases between with
    | nil => exact ⟨List.append_nil _, (List.cons.inj rest).2.symm⟩
    | cons first between =>
        obtain ⟨rfl, rfl⟩ := List.cons.inj rest
        exact absurd (List.mem_append_right between List.mem_cons_self) once.2
  · cases between with
    | nil => exact ⟨(List.append_nil _).symm, (List.cons.inj rest).2⟩
    | cons first between =>
        obtain ⟨rfl, rfl⟩ := List.cons.inj rest
        exact absurd (List.mem_append_right before List.mem_cons_self) once.1

/-- A reference to a name is read. -/
theorem readsAs_var {name : String} (dashed : IsDashed name) :
    ReadsAs ['v', 'a', 'r'] ("var(" ++ name ++ ")") name := by
  refine ⟨[], [], [')'], ?_, by decide, by simp, dashed, by simp, by simp; decide⟩
  simp [String.toList_append]

/-- A value that is one reference refers to the name in it and to no other one. -/
theorem eq_of_readsAs {word : List Char} {name other : String} (dashed : IsDashed name)
    (reads : ReadsAs word ("var(" ++ name ++ ")") other) : other = name := by
  obtain ⟨before, blanks, after, spelled, -, blank, dashes, -, ends⟩ := reads
  have written : ("var(" ++ name ++ ")").toList =
      ['v', 'a', 'r'] ++ '(' :: (name.toList ++ [')']) := by
    simp [String.toList_append]
  have once : '(' ∉ ['v', 'a', 'r'] ∧ '(' ∉ name.toList ++ [')'] := by
    refine ⟨by decide, fun member => ?_⟩
    rcases List.mem_append.mp member with inside | last
    · exact absurd (dashed.chars _ inside) (by decide)
    · exact absurd last (by decide)
  rw [written, ← List.append_assoc] at spelled
  obtain ⟨-, rest⟩ := split_once spelled once
  obtain rfl : blanks = [] := by
    cases blanks with
    | nil => rfl
    | cons c blanks =>
        obtain ⟨next, more, hyphens⟩ := dashed.hyphens
        rw [hyphens] at rest
        obtain rfl : c = '-' := (List.cons.inj rest).1
        exact absurd (blank '-' List.mem_cons_self) (by decide)
  have mine : (name.toList ++ [')']).takeWhile isIdentChar = name.toList :=
    Markup.takeWhile_run dashed.chars (by simp; decide)
  have theirs : (other.toList ++ after).takeWhile isIdentChar = other.toList :=
    Markup.takeWhile_run dashes.chars ends
  rw [List.nil_append] at rest
  rw [rest, mine] at theirs
  exact (String.toList_inj.mp theirs).symm

/-! ## Values in plain letters -/

/-- Whether a reference at the front of a text, if there is one, is in plain letters. -/
def plainAtFront : List Char → Bool
  | a :: b :: c :: '(' :: rest =>
    [a, b, c].map Char.toLower != ['v', 'a', 'r'] ||
      ([a, b, c] == ['v', 'a', 'r'] &&
        ((rest.dropWhile Text.isBlank).takeWhile isIdentChar).all isNameChar)
  | _ => true

/-- Whether all references in a text are in plain letters. -/
def plainThroughout : List Char → Bool
  | [] => true
  | c :: rest => plainAtFront (c :: rest) && plainThroughout rest

theorem plainThroughout_of_append {before s : List Char}
    (plain : plainThroughout (before ++ s) = true) : plainThroughout s = true := by
  induction before with
  | nil => exact plain
  | cons c before ih =>
      rw [List.cons_append, plainThroughout, Bool.and_eq_true] at plain
      exact ih plain.2

theorem isPlainValue_of_throughout {value : String}
    (plain : plainThroughout value.toList = true) : IsPlainValue value := by
  rintro word name ⟨before, blanks, after, spelled, lower, blank, dashed, -, ends⟩
  rw [spelled] at plain
  have here := plainThroughout_of_append plain
  have three : word.length = 3 := by simpa using congrArg List.length lower
  obtain ⟨a, b, c, rfl⟩ := List.length_eq_three.mp three
  have skipped : (blanks ++ (name.toList ++ after)).dropWhile Text.isBlank =
      name.toList ++ after := by
    obtain ⟨first, more, hyphens⟩ := dashed.hyphens
    rw [List.dropWhile_append_of_pos blank, hyphens]
    rfl
  have taken : (name.toList ++ after).takeWhile isIdentChar = name.toList :=
    Markup.takeWhile_run dashed.chars ends
  rw [List.cons_append, plainThroughout, Bool.and_eq_true] at here
  have front := here.1
  simp only [List.cons_append, List.nil_append, plainAtFront, skipped, taken, lower,
    bne_self_eq_false, Bool.false_or, Bool.and_eq_true, beq_iff_eq, List.all_eq_true] at front
  exact front

end Wireframe.Render
