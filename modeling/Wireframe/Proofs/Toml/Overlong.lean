import Mathlib.Tactic.SplitIfs
import Wireframe.Toml.Read

/-! # Whole numbers that are too long

A TOML text is read from front to back. Reading finds a flaw, or it breaks off at a whole
number with more digits than are read, and then such a number stands in the text
(`Wireframe.Toml.overlong_of_read`).

All readers are judged alike: in front of the end of a text, a reader stops in front of the
end of this text, or finds a flaw, or a whole number of the text that is too long.
-/

namespace Wireframe.Toml

/-- A text holds a whole number, perhaps with underscores between its digits, of so many digits,
and these are more than are read. -/
def Overlong (text : List Char) (count : Nat) : Prop :=
  ∃ number, number <:+: text ∧ (∀ c ∈ number, Text.isAsciiDigit c = true ∨ c = '_') ∧
    Number.countDigits number = count ∧ Number.mostDigits < count

/-! ## What readers come to -/

section

variable {α β : Type} {text chars : List Char}

/-- What comes out is in front of the end of a text, or it is a flaw, or a whole number of the text
that is too long. -/
def Stays (rest : α → List Char) (text : List Char) (result : Except Fault α) : Prop :=
  match result with
  | .ok done => rest done <:+ text
  | .error fault => ∀ count, fault = .tooManyDigits count → Overlong text count

/-- In front of the end of a text, a reader comes to what is in front of the end of the text. -/
def Reads (text : List Char) (reader : Reader α) : Prop :=
  ∀ chars, chars <:+ text → Stays Prod.snd text (reader chars)

theorem stays_flaw (rest : α → List Char) (flaw : Flaw) (chars : List Char) :
    Stays rest text (.error (flawAt flaw chars)) := nofun

theorem stays_bind {rest : α → List Char} {more : β → List Char} {result : Except Fault α}
    {next : α → Except Fault β} (first : Stays rest text result)
    (second : ∀ a, rest a <:+ text → Stays more text (next a)) :
    Stays more text (result >>= next) := by
  cases result with
  | error fault => exact first
  | ok a => exact second a first

theorem stays_map {rest : α → List Char} {more : β → List Char} {result : Except Fault α}
    {f : α → β} (first : Stays rest text result) (same : ∀ a, more (f a) = rest a) :
    Stays more text (result.map f) := by
  cases result with
  | error fault => exact first
  | ok a =>
      change more (f a) <:+ text
      rw [same]
      exact first

theorem stays_ite {rest : α → List Char} {c : Prop} [Decidable c] {result other : Except Fault α}
    (holds : Stays rest text result) (fails : Stays rest text other) :
    Stays rest text (if c then result else other) := by
  split
  · exact holds
  · exact fails

/-- What a draft says is found at a place is a flaw at most. -/
theorem stays_placed (rest : List Char) (result : Except Flaw α) :
    Stays (fun _ => []) text (placed rest result) := by
  cases result with
  | error flaw => exact stays_flaw _ flaw rest
  | ok a => exact List.nil_suffix

/-- What is found at the front of some characters is followed by their end. -/
def Leaves (chars : List Char) (found : Option (α × List Char)) : Prop :=
  ∀ done ∈ found, done.2 <:+ chars

theorem leaves_none : Leaves chars (none : Option (α × List Char)) := nofun

theorem leaves_some {a : α} {rest : List Char} (behind : rest <:+ chars) :
    Leaves chars (some (a, rest)) := by
  rintro done ⟨⟩
  exact behind

theorem leaves_bind {found : Option (α × List Char)}
    {next : α × List Char → Option (β × List Char)} (first : Leaves chars found)
    (second : ∀ a rest, rest <:+ chars → Leaves chars (next (a, rest))) :
    Leaves chars (found >>= next) := by
  cases found with
  | none => exact leaves_none
  | some done => exact second done.1 done.2 (first done rfl)

theorem leaves_map {found : Option (α × List Char)} {f : α × List Char → β × List Char}
    (first : Leaves chars found) (same : ∀ done, (f done).2 = done.2) :
    Leaves chars (found.map f) := by
  intro done member
  obtain ⟨other, held, rfl⟩ := Option.map_eq_some_iff.mp member
  rw [same]
  exact first other held

theorem leaves_ite {c : Prop} [Decidable c] {found other : Option (α × List Char)}
    (holds : Leaves chars found) (fails : Leaves chars other) :
    Leaves chars (if c then found else other) := by
  split
  · exact holds
  · exact fails

theorem Leaves.mono {rest : List Char} {found : Option (α × List Char)} (leaves : Leaves rest found)
    (behind : rest <:+ chars) : Leaves chars found :=
  fun done member => (leaves done member).trans behind

end

/-! ## Blanks, comments and strings -/

section

variable {text chars : List Char}

theorem skipBlanks_suffix (chars : List Char) : skipBlanks chars <:+ chars :=
  List.dropWhile_suffix isBlank

theorem stays_checkStretch (forbidden : Char → Bool) (stretch rest : List Char) :
    Stays (fun _ => []) text (checkStretch forbidden stretch rest) := by
  unfold checkStretch
  split
  · exact List.nil_suffix
  · exact stays_flaw _ _ _

theorem stays_skipComment (inside : chars <:+ text) : Stays id text (skipComment chars) := by
  unfold skipComment
  split
  · rename_i more
    refine stays_bind (stays_checkStretch _ _ _) fun _ _ => ?_
    exact ((List.dropWhile_suffix _).trans (List.suffix_cons _ more)).trans inside
  · exact inside

theorem stays_skipGaps (fuel : Nat) (inside : chars <:+ text) :
    Stays id text (skipGaps fuel chars) := by
  induction fuel generalizing chars with
  | zero => exact inside
  | succ fuel ih =>
      refine stays_bind (stays_skipComment ((List.dropWhile_suffix _).trans inside))
        fun rest behind => ?_
      exact stays_ite behind (ih behind)

theorem leaves_splitAtText (quote : List Char) (chars : List Char) :
    Leaves chars (splitAtText quote chars) := by
  induction chars with
  | nil => exact leaves_ite (leaves_some List.suffix_rfl) leaves_none
  | cons c rest ih =>
      refine leaves_ite (leaves_some (List.drop_suffix _ _)) ?_
      exact leaves_map (ih.mono (List.suffix_cons c rest)) fun _ => rfl

theorem reads_literalUpTo (quote : List Char) (forbidden : Char → Bool) :
    Reads text (literalUpTo quote forbidden) := by
  intro chars inside
  have leaves := leaves_splitAtText quote chars
  unfold literalUpTo
  split
  · exact stays_flaw _ _ _
  · rename_i content rest split
    refine stays_bind (stays_checkStretch _ _ _) fun _ _ => ?_
    exact (leaves _ split).trans inside

theorem reads_numberedChar (width : Nat) : Reads text (numberedChar width) := by
  intro chars inside
  refine stays_ite (stays_ite ?_ (stays_flaw _ _ _)) (stays_flaw _ _ _)
  exact (List.drop_suffix width chars).trans inside

theorem reads_escape : Reads text escape := by
  intro chars inside
  unfold escape
  split
  · exact stays_flaw _ _ _
  · exact reads_numberedChar 4 _ ((List.suffix_cons _ _).trans inside)
  · exact reads_numberedChar 8 _ ((List.suffix_cons _ _).trans inside)
  · split
    · exact (List.suffix_cons _ _).trans inside
    · exact stays_flaw _ _ _

theorem reads_escapeWithinLines : Reads text escapeWithinLines := by
  intro chars inside
  unfold escapeWithinLines
  split
  · exact ((List.dropWhile_suffix _).trans (List.suffix_cons _ _)).trans inside
  · rename_i c rest _
    refine stays_ite ?_ (reads_escape _ inside)
    have behind : skipBlanks rest <:+ text :=
      ((skipBlanks_suffix rest).trans (List.suffix_cons c rest)).trans inside
    split
    · exact List.nil_suffix
    · rename_i more same
      rw [same] at behind
      exact ((List.dropWhile_suffix _).trans (List.suffix_cons _ more)).trans behind
    · exact stays_flaw _ _ _
  · exact reads_escape [] List.nil_suffix

theorem reads_escapedUpTo (quote : List Char) (forbidden : Char → Bool)
    {escaped : Reader (List Char)} (reads : Reads text escaped) (fuel : Nat) :
    Reads text (escapedUpTo quote forbidden escaped fuel) := by
  induction fuel with
  | zero => exact fun chars _ => stays_flaw _ _ chars
  | succ fuel ih =>
      intro chars inside
      cases chars with
      | nil => exact stays_flaw _ _ _
      | cons c rest =>
          have behind : rest <:+ text := (List.suffix_cons c rest).trans inside
          refine stays_ite ((List.drop_suffix _ _).trans inside) (stays_ite ?_ ?_)
          · refine stays_bind (reads rest behind) fun found here => ?_
            exact stays_bind (ih found.2 here) fun more there => there
          · refine stays_ite (stays_flaw _ _ _) ?_
            exact stays_bind (ih rest behind) fun more there => there

theorem dropFirstBreak_suffix (chars : List Char) : dropFirstBreak chars <:+ chars := by
  unfold dropFirstBreak
  split
  · exact List.suffix_cons _ _
  · exact List.suffix_rfl

theorem reads_literalString : Reads text literalString := fun chars inside =>
  stays_bind (reads_literalUpTo _ _ chars inside) fun _ behind => behind

theorem reads_basicString : Reads text basicString := fun chars inside =>
  stays_bind (reads_escapedUpTo _ _ reads_escape _ chars inside) fun _ behind => behind

theorem reads_literalLines : Reads text literalLines := fun chars inside =>
  stays_bind (reads_literalUpTo _ _ _ ((dropFirstBreak_suffix chars).trans inside))
    fun _ behind => (List.drop_suffix _ _).trans behind

theorem reads_basicLines : Reads text basicLines := fun chars inside =>
  stays_bind (reads_escapedUpTo _ _ reads_escapeWithinLines _ _
    ((dropFirstBreak_suffix chars).trans inside))
    fun _ behind => (List.drop_suffix _ _).trans behind

end

/-! ## Scalars -/

section

variable {text chars : List Char}

theorem leaves_fixedNumber? (width low high : Nat) (chars : List Char) :
    Leaves chars (fixedNumber? width low high chars) :=
  leaves_ite (leaves_ite (leaves_some (List.drop_suffix width chars)) leaves_none) leaves_none

theorem suffix_of_after? {c : Char} {rest : List Char} (found : after? c chars = some rest) :
    rest <:+ chars := by
  cases chars with
  | nil => cases found
  | cons d more =>
      rw [after?] at found
      split_ifs at found
      cases found
      exact List.suffix_cons d _

/-- What is found behind a character that has to come first. -/
theorem leaves_after? {α : Type} (c : Char) {found : List Char → Option (α × List Char)}
    (leaves : ∀ rest, Leaves rest (found rest)) : Leaves chars (after? c chars >>= found) := by
  cases behind : after? c chars with
  | none => exact leaves_none
  | some rest => exact (leaves rest).mono (suffix_of_after? behind)

theorem microseconds_suffix (chars : List Char) : (microseconds chars).2 <:+ chars := by
  unfold microseconds
  split
  · rename_i rest
    dsimp only
    split_ifs
    · exact List.suffix_rfl
    · exact (List.dropWhile_suffix _).trans (List.suffix_cons _ rest)
  · exact List.suffix_rfl

theorem leaves_time? (chars : List Char) : Leaves chars (time? chars) := by
  refine leaves_bind (leaves_fixedNumber? _ _ _ _) fun hour rest behind => ?_
  refine Leaves.mono ?_ behind
  refine leaves_after? ':' fun rest => ?_
  refine leaves_bind (leaves_fixedNumber? _ _ _ _) fun minute rest behind => ?_
  refine Leaves.mono ?_ behind
  refine leaves_after? ':' fun rest => ?_
  refine leaves_bind (leaves_fixedNumber? _ _ _ _) fun second rest behind => ?_
  exact leaves_some ((microseconds_suffix rest).trans behind)

theorem leaves_offset? (chars : List Char) : Leaves chars (offset? chars) := by
  unfold offset?
  extract_lets hoursAndMinutes
  have leaves (s : Int) (rest : List Char) : Leaves rest (hoursAndMinutes s rest) := by
    refine leaves_bind (leaves_fixedNumber? _ _ _ _) fun hours rest behind => ?_
    refine Leaves.mono ?_ behind
    refine leaves_after? ':' fun rest => ?_
    exact leaves_bind (leaves_fixedNumber? _ _ _ _) fun minutes rest behind => leaves_some behind
  split
  · exact leaves_some (List.suffix_cons _ _)
  · exact leaves_some (List.suffix_cons _ _)
  · exact (leaves 1 _).mono (List.suffix_cons _ _)
  · exact (leaves (-1) _).mono (List.suffix_cons _ _)
  · exact leaves_none

theorem leaves_dateNumbers? (chars : List Char) : Leaves chars (dateNumbers? chars) := by
  refine leaves_bind (leaves_fixedNumber? _ _ _ _) fun year rest behind => ?_
  refine Leaves.mono ?_ behind
  refine leaves_after? '-' fun rest => ?_
  refine leaves_bind (leaves_fixedNumber? _ _ _ _) fun month rest behind => ?_
  refine Leaves.mono ?_ behind
  refine leaves_after? '-' fun rest => ?_
  exact leaves_bind (leaves_fixedNumber? _ _ _ _) fun day rest behind => leaves_some behind

theorem leaves_timeOfDate? (chars : List Char) : Leaves chars (timeOfDate? chars) := by
  cases chars with
  | nil => exact leaves_none
  | cons c rest =>
      exact leaves_ite ((leaves_time? rest).mono (List.suffix_cons c rest)) leaves_none

theorem leaves_date? (chars : List Char) : Leaves chars (date? chars) := by
  intro done member
  obtain ⟨⟨numbers, rest⟩, held, rfl⟩ := Option.map_eq_some_iff.mp member
  have behind : rest <:+ chars := leaves_dateNumbers? chars _ held
  dsimp only
  split
  · exact behind
  · rename_i time more timed
    have later : more <:+ chars := (leaves_timeOfDate? rest _ timed).trans behind
    split
    · exact later
    · rename_i seconds last shifted
      exact (leaves_offset? more _ shifted).trans later

/-- A run of digits and underscores with what is behind it. -/
theorem digitRun_facts (isDigit : Char → Bool) (chars : List Char) :
    (digitRun isDigit chars).1 ++ (digitRun isDigit chars).2 = chars ∧
      ∀ c ∈ (digitRun isDigit chars).1, isDigit c = true ∨ c = '_' := by
  fun_induction digitRun isDigit chars with
  | case1 c rest digit run more ran ih =>
      -- an underscore belongs to the run with the digit behind it
      rw [ran] at ih
      exact ⟨congrArg (fun s => '_' :: c :: s) ih.1,
        List.forall_mem_cons.mpr ⟨.inr rfl, List.forall_mem_cons.mpr ⟨.inl digit, ih.2⟩⟩⟩
  | case2 c rest digit => exact ⟨rfl, nofun⟩
  | case3 c rest other digit run more ran ih =>
      rw [ran] at ih
      exact ⟨congrArg (c :: ·) ih.1, List.forall_mem_cons.mpr ⟨.inl digit, ih.2⟩⟩
  | case4 c rest other digit => exact ⟨rfl, nofun⟩
  | case5 => exact ⟨rfl, nofun⟩

theorem digits?_facts {isDigit : Char → Bool} {run rest : List Char}
    (found : digits? isDigit chars = some (run, rest)) :
    run ++ rest = chars ∧ ∀ c ∈ run, isDigit c = true ∨ c = '_' := by
  cases chars with
  | nil => cases found
  | cons c more =>
      have facts := digitRun_facts isDigit (c :: more)
      rw [digits?] at found
      split_ifs at found
      rwa [Option.some.inj found] at facts

theorem leaves_digits? (isDigit : Char → Bool) (chars : List Char) :
    Leaves chars (digits? isDigit chars) :=
  fun ⟨run, _⟩ member => ⟨run, (digits?_facts member).1⟩

theorem leaves_based? (chars : List Char) : Leaves chars (based? chars) := by
  unfold based?
  dsimp only
  split
  · exact leaves_map ((leaves_digits? _ _).mono ⟨['0', 'x'], rfl⟩) fun _ => rfl
  · exact leaves_map ((leaves_digits? _ _).mono ⟨['0', 'o'], rfl⟩) fun _ => rfl
  · exact leaves_map ((leaves_digits? _ _).mono ⟨['0', 'b'], rfl⟩) fun _ => rfl
  · exact leaves_none

theorem sign_suffix (chars : List Char) : (sign chars).2 <:+ chars := by
  unfold sign
  split
  · exact List.suffix_cons _ _
  · exact List.suffix_cons _ _
  · exact List.suffix_rfl

theorem wholePart?_facts {run rest : List Char} (found : wholePart? chars = some (run, rest)) :
    run ++ rest = chars ∧ ∀ c ∈ run, Text.isAsciiDigit c = true ∨ c = '_' := by
  unfold wholePart? at found
  split at found
  · cases found
    exact ⟨rfl, List.forall_mem_singleton.mpr (.inl rfl)⟩
  · exact digits?_facts found

theorem fractionPart_suffix (chars : List Char) : (fractionPart chars).2 <:+ chars := by
  unfold fractionPart
  split
  · rename_i rest
    split
    · rename_i run more found
      exact (leaves_digits? _ rest _ found).trans (List.suffix_cons _ rest)
    · exact List.suffix_rfl
  · exact List.suffix_rfl

theorem exponentPart_suffix (chars : List Char) : (exponentPart chars).2 <:+ chars := by
  cases chars with
  | nil => exact List.suffix_rfl
  | cons c rest =>
      rw [exponentPart]
      split_ifs
      · dsimp only
        split
        · rename_i run more found
          exact ((leaves_digits? _ _ _ found).trans (sign_suffix rest)).trans
            (List.suffix_cons c rest)
        · exact List.suffix_rfl
      · exact List.suffix_rfl

/-- A decimal is followed by the end of the characters. It is a value, or a whole number that is
too long stands there. -/
theorem stays_decimal? (inside : chars <:+ text) {result : Except Fault Value} {rest : List Char}
    (found : decimal? chars = some (result, rest)) :
    Stays Prod.snd text (result.map fun v => (v, rest)) := by
  obtain ⟨⟨whole, more⟩, part, same⟩ := Option.map_eq_some_iff.mp found
  obtain ⟨split, digits⟩ := wholePart?_facts part
  have signed := (sign_suffix chars).trans inside
  have behind : (exponentPart (fractionPart more).2).2 <:+ text :=
    (((exponentPart_suffix _).trans (fractionPart_suffix more)).trans ⟨whole, split⟩).trans signed
  dsimp only at same
  -- only a number without a fraction and an exponent has its digits counted
  split_ifs at same with bare long
  · obtain ⟨rfl, rfl⟩ := Prod.mk.inj same
    rintro count ⟨⟩
    have stands : whole <:+: (sign chars).2 := ⟨[], more, split⟩
    exact ⟨whole, stands.trans signed.isInfix, digits, rfl, long⟩
  all_goals
    obtain ⟨rfl, rfl⟩ := Prod.mk.inj same
    exact behind

theorem leaves_numberWord? (chars : List Char) : Leaves chars (numberWord? chars) := by
  unfold numberWord?
  dsimp only
  refine leaves_ite ?_ leaves_none
  intro done member
  obtain ⟨x, _, rfl⟩ := Option.map_eq_some_iff.mp member
  exact (List.drop_suffix _ _).trans (sign_suffix chars)

theorem reads_bareScalar : Reads text bareScalar := by
  intro chars inside
  have dated := leaves_date? chars
  unfold bareScalar
  split
  · rename_i value rest found
    exact (dated _ found).trans inside
  · exact stays_flaw _ _ _
  · split
    · rename_i time rest found
      exact (leaves_time? chars _ found).trans inside
    · split
      · rename_i done found
        rcases Option.or_eq_some_iff.mp found with first | ⟨_, second⟩
        · exact (leaves_based? chars _ first).trans inside
        · exact (leaves_numberWord? chars _ second).trans inside
      · split
        · rename_i value rest found
          exact stays_decimal? inside found
        · exact stays_flaw _ _ _

end

/-! ## Keys, values and statements -/

section

variable {text chars : List Char}

theorem reads_name : Reads text name := by
  intro chars inside
  unfold name
  split
  · exact reads_basicString _ ((List.suffix_cons _ _).trans inside)
  · exact reads_literalString _ ((List.suffix_cons _ _).trans inside)
  · exact stays_ite ((List.dropWhile_suffix _).trans inside) (stays_flaw _ _ _)
  · exact stays_flaw _ _ _

theorem reads_names (fuel : Nat) : Reads text (names fuel) := by
  induction fuel with
  | zero => exact fun chars _ => stays_flaw _ _ chars
  | succ fuel ih =>
      intro chars inside
      refine stays_bind (reads_name chars inside) fun ⟨first, rest⟩ behind => ?_
      have later : skipBlanks rest <:+ text := (skipBlanks_suffix rest).trans behind
      dsimp only
      split
      · rename_i more same
        rw [same] at later
        have inner := ((skipBlanks_suffix more).trans (List.suffix_cons _ more)).trans later
        exact stays_bind (ih _ inner) fun _ there => there
      · exact later

theorem reads_key : Reads text key := fun chars inside => reads_names _ chars inside

theorem reads_entry {value : Reader Value} (reads : Reads text value) :
    Reads text (entry value) := by
  intro chars inside
  refine stays_bind (reads_key chars inside) fun ⟨key, rest⟩ behind => ?_
  dsimp only at behind ⊢
  split
  · rename_i more
    have inner := ((skipBlanks_suffix more).trans (List.suffix_cons _ more)).trans behind
    exact stays_bind (reads _ inner) fun _ there => there
  · exact stays_flaw _ _ _

theorem reads_items {value : Reader Value} (reads : Reads text value) (fuel : Nat) :
    Reads text (items value fuel) := by
  induction fuel with
  | zero => exact fun chars _ => stays_flaw _ _ chars
  | succ fuel ih =>
      intro chars inside
      refine stays_bind (stays_skipGaps _ inside) fun gapless here => ?_
      dsimp only [id] at here ⊢
      split
      · exact (List.suffix_cons _ _).trans here
      · refine stays_bind (reads _ here) fun ⟨first, rest⟩ behind => ?_
        refine stays_bind (stays_skipGaps _ behind) fun more there => ?_
        dsimp only [id] at there ⊢
        split
        · exact (List.suffix_cons _ _).trans there
        · exact stays_bind (ih _ ((List.suffix_cons _ _).trans there)) fun _ last => last
        · exact stays_flaw _ _ _

theorem reads_inlineEntries {value : Reader Value} (reads : Reads text value) (fuel : Nat)
    (draft : InlineDraft) : Reads text (inlineEntries value fuel draft) := by
  induction fuel generalizing draft with
  | zero => exact fun chars _ => stays_flaw _ _ chars
  | succ fuel ih =>
      intro chars inside
      refine stays_bind (reads_entry reads chars inside) fun ⟨⟨key, found⟩, rest⟩ behind => ?_
      refine stays_bind (stays_placed rest _) fun draft _ => ?_
      have later : skipBlanks rest <:+ text := (skipBlanks_suffix rest).trans behind
      split
      · rename_i more same
        rw [same] at later
        exact (List.suffix_cons _ more).trans later
      · rename_i more same
        rw [same] at later
        exact ih draft _ (((skipBlanks_suffix more).trans (List.suffix_cons _ more)).trans later)
      · exact stays_flaw _ _ _

theorem reads_inlineTable {value : Reader Value} (reads : Reads text value) :
    Reads text (inlineTable value) := by
  intro chars inside
  have later : skipBlanks chars <:+ text := (skipBlanks_suffix chars).trans inside
  unfold inlineTable
  split
  · rename_i more same
    rw [same] at later
    exact (List.suffix_cons _ more).trans later
  · exact reads_inlineEntries reads _ _ _ later

/-- A string as a value, behind its opening quotes. -/
theorem stays_string {reader : Reader String} (reads : Reads text reader) (opening : List Char)
    {rest : List Char} (inside : opening ++ rest <:+ text) :
    Stays Prod.snd text ((reader rest).map fun (s, rest) => (Value.text s, rest)) :=
  stays_map (reads rest ((List.suffix_append opening rest).trans inside)) fun _ => rfl

theorem reads_value (fuel : Nat) : Reads text (value fuel) := by
  induction fuel with
  | zero => exact fun chars _ => stays_flaw _ _ chars
  | succ fuel ih =>
      intro chars inside
      unfold value
      dsimp only
      split
      · exact stays_string reads_basicLines ['"', '"', '"'] inside
      · exact stays_string reads_basicString ['"'] inside
      · exact stays_string reads_literalLines ['\'', '\'', '\''] inside
      · exact stays_string reads_literalString ['\''] inside
      · exact List.IsSuffix.trans ⟨['t', 'r', 'u', 'e'], rfl⟩ inside
      · exact List.IsSuffix.trans ⟨['f', 'a', 'l', 's', 'e'], rfl⟩ inside
      · exact stays_bind (reads_items ih _ _ ((List.suffix_cons _ _).trans inside))
          fun _ behind => behind
      · exact stays_bind (reads_inlineTable ih _ ((List.suffix_cons _ _).trans inside))
          fun _ behind => behind
      · exact reads_bareScalar chars inside

theorem reads_declaration (closing : List Char) (unclosed : Flaw)
    (declare : Key → Except Flaw Draft) : Reads text (declaration closing unclosed declare) := by
  intro chars inside
  refine stays_bind (reads_key _ ((skipBlanks_suffix chars).trans inside))
    fun ⟨key, rest⟩ behind => ?_
  refine stays_bind (stays_placed rest _) fun draft _ => ?_
  exact stays_ite ((List.drop_suffix _ _).trans behind) (stays_flaw _ _ _)

theorem reads_statement (draft : Draft) : Reads text (statement draft) := by
  intro chars inside
  unfold statement
  dsimp only
  split
  · exact reads_declaration _ _ _ _ (List.IsSuffix.trans ⟨['[', '['], rfl⟩ inside)
  · exact reads_declaration _ _ _ _ ((List.suffix_cons _ _).trans inside)
  · exact inside
  · refine stays_ite ?_ (stays_flaw _ _ _)
    refine stays_bind (reads_entry (reads_value _) _ inside) fun ⟨⟨key, found⟩, rest⟩ behind => ?_
    exact stays_bind (stays_placed rest _) fun draft _ => behind
  · exact List.nil_suffix

theorem stays_statements (fuel : Nat) (draft : Draft) (inside : chars <:+ text) :
    Stays (fun _ => []) text (statements fuel draft chars) := by
  induction fuel generalizing draft chars with
  | zero => exact List.nil_suffix
  | succ fuel ih =>
      have later : skipBlanks chars <:+ text := (skipBlanks_suffix chars).trans inside
      rw [statements]
      split
      · exact List.nil_suffix
      · rename_i more same
        rw [same] at later
        exact ih draft ((List.suffix_cons _ more).trans later)
      · refine stays_bind (reads_statement draft _ later) fun ⟨draft, rest⟩ behind => ?_
        refine stays_bind (stays_skipComment ((skipBlanks_suffix rest).trans behind))
          fun more there => ?_
        dsimp only [id] at there ⊢
        split
        · exact List.nil_suffix
        · exact ih draft ((List.suffix_cons _ _).trans there)
        · exact stays_flaw _ _ _

end

/-- **Whole numbers that are too long.** Where reading breaks off for the number of digits of a
whole number, this number stands in the text. -/
theorem overlong_of_read {chars : List Char} {count : Nat}
    (broken : read chars = .error (.tooManyDigits count)) : Overlong chars count := by
  have stays : Stays (fun _ => []) chars (read chars) :=
    stays_map (stays_statements _ .empty List.suffix_rfl) fun _ => rfl
  rw [broken] at stays
  exact stays count rfl

end Wireframe.Toml
