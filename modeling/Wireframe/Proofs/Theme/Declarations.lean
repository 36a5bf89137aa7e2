import Mathlib.Tactic.SplitIfs
import Wireframe.Proofs.Theme.Overlay
import Wireframe.Text.Lines
import Wireframe.Theme.Css

/-! # Reading the block of variables

The block that declares the variables of a theme is read back line by line: a name stands
before the first colon with a blank behind it, a value before the last semicolon, and of
several declarations of a name the last one counts. Names and values are printed as they
are. So the lines say what the theme says exactly if no name and no value breaks a line and
no name holds such a colon, and each variable has its own value exactly if, besides, keys that
become one name have one value (`Wireframe.Theme.Resolved.read_of_text`).

Keys become one name where they differ in points and hyphens alone.
-/

namespace Wireframe.Theme

/-- What the block of variables declares: names in a style sheet, with values. -/
def Resolved.declarations (theme : Resolved) : Table String String :=
  theme.«variables».map fun (key, value) => (variableName key, value)

theorem Resolved.keys_declarations (theme : Resolved) :
    theme.declarations.keys = theme.«variables».keys.map variableName := by
  rw [declarations, Table.keys, Table.keys, List.map_map, List.map_map]
  rfl

/-! ## Lines -/

/-- The line that declares a variable. -/
def line (e : String × String) : List Char :=
  ' ' :: ' ' :: (e.1.toList ++ ':' :: ' ' :: (e.2.toList ++ [';']))

/-- Cuts a text at the first colon that has a blank behind it. -/
def cutAtColon? : List Char → Option (List Char × List Char)
  | [] => none
  | ':' :: ' ' :: value => some ([], value)
  | c :: rest => (cutAtColon? rest).map fun (name, value) => (c :: name, value)

/-- Reads the line of a declaration. -/
def declaration? : List Char → Option (String × String)
  | ' ' :: ' ' :: rest =>
    match cutAtColon? rest with
    | some (name, value) =>
      if value.getLast? = some ';' then some (String.ofList name, String.ofList value.dropLast)
      else none
    | none => none
  | _ => none

/-- Reads a block of declarations, where some characters end lines. -/
def block? (ends : Char → Bool) (s : List Char) : Option (List (String × String)) :=
  match s.splitOnP ends with
  | opening :: rest =>
    if opening = ":root \x7b".toList ∧ rest.getLast? = some "\x7d".toList then
      rest.dropLast.mapM declaration?
    else none
  | [] => none

/-- A name that holds a colon with a blank behind it. -/
def HoldsColon (name : List Char) : Prop := [':', ' '] <:+: name

instance (name : List Char) : Decidable (HoldsColon name) :=
  inferInstanceAs (Decidable (_ <:+: _))

theorem cutAtColon?_cons {c : Char} {rest : List Char} (other : ¬ [':', ' '] <+: c :: rest) :
    cutAtColon? (c :: rest) =
      (cutAtColon? rest).map fun (name, value) => (c :: name, value) := by
  rw [cutAtColon?]
  rintro value rfl rfl
  exact other ⟨value, rfl⟩

theorem cutAtColon?_of_free {name : List Char} (free : ¬ HoldsColon name) (value : List Char) :
    cutAtColon? (name ++ ':' :: ' ' :: value) = some (name, value) := by
  induction name with
  | nil => rfl
  | cons c rest ih =>
      have later : ¬ HoldsColon rest := fun holds => free (holds.trans (List.infix_cons_iff.mpr
        (.inr (List.infix_refl rest))))
      rw [List.cons_append, cutAtColon?_cons, ih later]
      · rfl
      · rintro ⟨tail, same⟩
        obtain ⟨rfl, next⟩ := List.cons.inj same
        cases rest with
        | nil => cases next
        | cons d rest =>
            obtain ⟨rfl, -⟩ := List.cons.inj next
            exact free ⟨[], rest, rfl⟩

/-- A name that holds a colon with a blank behind it is cut there. -/
theorem cutAtColon?_of_holds {name : List Char} (holds : HoldsColon name) (rest : List Char) :
    ∃ before value, cutAtColon? (name ++ rest) = some (before, value) ∧
      before.length < name.length := by
  induction name with
  | nil => exact absurd (List.eq_nil_of_infix_nil holds) (List.cons_ne_nil _ _)
  | cons c more ih =>
      by_cases here : [':', ' '] <+: c :: (more ++ rest)
      · obtain ⟨tail, same⟩ := here
        refine ⟨[], tail, ?_, by simp⟩
        rw [List.cons_append, ← same]
        rfl
      · have later : HoldsColon more := by
          rcases List.infix_cons_iff.mp holds with first | behind
          · exact absurd (first.trans ⟨rest, rfl⟩) here
          · exact behind
        obtain ⟨before, value, cut, shorter⟩ := ih later
        refine ⟨c :: before, value, ?_, by simpa using shorter⟩
        rw [List.cons_append, cutAtColon?_cons here, cut]
        rfl

/-- A line is read back exactly if the name holds no colon with a blank behind it. -/
theorem declaration?_line_iff {e : String × String} :
    declaration? (line e) = some e ↔ ¬ HoldsColon e.1.toList := by
  constructor
  · intro read holds
    obtain ⟨before, value, cut, shorter⟩ :=
      cutAtColon?_of_holds holds (':' :: ' ' :: (e.2.toList ++ [';']))
    rw [line, declaration?, cut] at read
    dsimp only at read
    split_ifs at read
    have same := congrArg (fun e => e.1.toList.length) (Option.some.inj read)
    rw [String.toList_ofList] at same
    omega
  · intro free
    rw [line, declaration?, cutAtColon?_of_free free]
    simp

/-! ## Blocks -/

section

variable {ends : Char → Bool}

/-- Lines that line feeds join are cut apart again, and where they break themselves. -/
theorem splitOnP_intercalate (feeds : ends '\n' = true) {pieces : List (List Char)}
    (some : pieces ≠ []) :
    (['\n'].intercalate pieces).splitOnP ends = pieces.flatMap (·.splitOnP ends) := by
  induction pieces with
  | nil => exact absurd rfl some
  | cons piece rest ih =>
      cases rest with
      | nil => simp
      | cons next rest =>
          have step : ['\n'].intercalate (piece :: next :: rest) =
              piece ++ '\n' :: ['\n'].intercalate (next :: rest) := by simp
          rw [step, List.splitOnP_append_cons _ _ feeds, ih (List.cons_ne_nil _ _)]
          rfl

/-- A text that is not cut breaks no line. -/
theorem unbroken_of_length {s : List Char} (single : (s.splitOnP ends).length = 1) :
    ∀ c ∈ s, ends c = false := by
  intro c member
  by_contra broken
  rw [Bool.not_eq_false] at broken
  obtain ⟨before, after, rfl⟩ := List.append_of_mem member
  rw [List.splitOnP_append_cons _ _ broken, List.length_append] at single
  have first := List.length_pos_of_ne_nil (List.splitOnP_ne_nil ends before)
  have second := List.length_pos_of_ne_nil (List.splitOnP_ne_nil ends after)
  omega

/-- Lists of at least one item each come to as many items as lists only if each has one item. -/
theorem length_of_flatMap {α β : Type} {f : α → List β} (filled : ∀ a, f a ≠ []) {items : List α}
    (same : (items.flatMap f).length ≤ items.length) : ∀ a ∈ items, (f a).length = 1 := by
  have least (items : List α) : items.length ≤ (items.flatMap f).length := by
    induction items with
    | nil => exact Nat.le_refl _
    | cons a rest ih =>
        have first := List.length_pos_of_ne_nil (filled a)
        rw [List.flatMap_cons, List.length_append, List.length_cons]
        omega
  induction items with
  | nil => exact nofun
  | cons a rest ih =>
      have first := List.length_pos_of_ne_nil (filled a)
      have others := least rest
      rw [List.flatMap_cons, List.length_append, List.length_cons] at same
      rw [List.forall_mem_cons]
      exact ⟨by omega, ih (by omega)⟩

end

theorem mapM_eq_some_iff {α β : Type} {f : α → Option β} {items : List α} {found : List β} :
    items.mapM f = some found ↔ List.Forall₂ (fun a b => f a = some b) items found := by
  induction items generalizing found with
  | nil => simp [eq_comm]
  | cons a rest ih =>
      simp only [List.mapM_cons, Option.bind_eq_bind, Option.bind_eq_some_iff, Option.pure_def,
        Option.some.injEq, List.forall₂_cons_left_iff, ih]
      constructor
      · rintro ⟨b, here, others, behind, rfl⟩
        exact ⟨b, others, here, behind, rfl⟩
      · rintro ⟨b, others, here, behind, rfl⟩
        exact ⟨b, here, others, behind, rfl⟩

theorem rootRule_eq_lines (theme : Resolved) :
    (theme.rootRule none 2).toList = ['\n'].intercalate
      (":root \x7b".toList :: (theme.declarations.map line ++ ["\x7d".toList])) := by
  have lines (vars : Variables) :
      (vars.filterMap fun (key, value) =>
        if ((none : Option (List String)).map (·.contains (variableName key))).getD true then
          some (indentation 2 ++ variableName key ++ ": " ++ value ++ ";") else none).map
            String.toList =
      (vars.map fun (key, value) => (variableName key, value)).map line := by
    induction vars with
    | nil => rfl
    | cons e rest ih =>
        have blanks : (indentation 2).toList = [' ', ' '] := by decide
        rw [List.map_cons, List.map_cons, ← ih]
        simp [line, blanks]
  rw [Resolved.rootRule, String.toList_intercalate, List.map_append, List.map_append, lines]
  rfl

/-- A declaration is one line, and its name ends at the first colon with a blank behind it. -/
structure IsLined (ends : Char → Bool) (e : String × String) : Prop where
  unbroken : ∀ c ∈ e.1.toList ++ e.2.toList, ends c = false
  free : ¬ HoldsColon e.1.toList

-- The characters are gone through as a list: those of a text, and not all that there are.
instance (ends : Char → Bool) (e : String × String) : Decidable (IsLined ends e) :=
  decidable_of_iff
    ((e.1.toList ++ e.2.toList).all (fun c => !ends c) = true ∧ ¬ HoldsColon e.1.toList) <| by
    simp only [List.all_eq_true, Bool.not_eq_true']
    exact ⟨fun h => ⟨h.1, h.2⟩, fun h => ⟨h.1, h.2⟩⟩

/-- Characters that end lines: the line feed, and any others at which lines are cut. -/
structure IsLineEnd (ends : Char → Bool) : Prop where
  feed : ends '\n' = true
  boundary : ∀ c, ends c = true → Text.isLineBoundary c = true

section

variable {ends : Char → Bool} (cuts : IsLineEnd ends)

include cuts

theorem unbroken_of_frame {s : List Char} (frame : s.any Text.isLineBoundary = false) :
    ∀ c ∈ s, ends c = false := by
  intro c member
  by_contra broken
  rw [Bool.not_eq_false] at broken
  exact List.any_eq_false.mp frame c member (cuts.boundary c broken)

theorem unbroken_line_iff {e : String × String} :
    (∀ c ∈ line e, ends c = false) ↔ ∀ c ∈ e.1.toList ++ e.2.toList, ends c = false := by
  have frame := unbroken_of_frame cuts (s := [' ', ':', ';']) (by decide)
  simp only [List.forall_mem_cons] at frame
  simp only [line, List.forall_mem_cons, List.forall_mem_append]
  tauto

/-- **Reading a block back.** The lines of the block of variables say what the theme declares, one
line for each declaration, exactly if each declaration is lined. -/
theorem block?_rootRule_iff {theme : Resolved} :
    block? ends (theme.rootRule none 2).toList = some theme.declarations ↔
      ∀ e ∈ theme.declarations, IsLined ends e := by
  have opening : (":root \x7b".toList).splitOnP ends = [":root \x7b".toList] :=
    List.splitOnP_eq_singleton (unbroken_of_frame cuts (by decide))
  have closing : ("\x7d".toList).splitOnP ends = ["\x7d".toList] :=
    List.splitOnP_eq_singleton (unbroken_of_frame cuts (by decide))
  have read : block? ends (theme.rootRule none 2).toList =
      (theme.declarations.flatMap fun e => (line e).splitOnP ends).mapM declaration? := by
    rw [block?, rootRule_eq_lines, splitOnP_intercalate cuts.feed (List.cons_ne_nil _ _),
      List.flatMap_cons, opening, List.flatMap_append, List.flatMap_singleton, closing,
      List.flatMap_map]
    simp
  have lines (whole : ∀ e ∈ theme.declarations, ∀ c ∈ line e, ends c = false) :
      (theme.declarations.flatMap fun e => (line e).splitOnP ends) =
        theme.declarations.map line := by
    rw [← List.flatMap_singleton' (theme.declarations.map line), List.flatMap_map]
    exact List.flatMap_congr fun e member => List.splitOnP_eq_singleton (whole e member)
  rw [read]
  constructor
  · intro found
    have same := (mapM_eq_some_iff.mp found).length_eq
    have single := length_of_flatMap (fun e => List.splitOnP_ne_nil ends (line e))
      (Nat.le_of_eq same)
    have whole : ∀ e ∈ theme.declarations, ∀ c ∈ line e, ends c = false :=
      fun e member => unbroken_of_length (single e member)
    rw [lines whole, mapM_eq_some_iff, List.forall₂_map_left_iff, List.forall₂_same] at found
    exact fun e member => ⟨(unbroken_line_iff cuts).mp (whole e member),
      declaration?_line_iff.mp (found e member)⟩
  · intro lined
    have whole : ∀ e ∈ theme.declarations, ∀ c ∈ line e, ends c = false :=
      fun e member => (unbroken_line_iff cuts).mpr (lined e member).unbroken
    rw [lines whole, mapM_eq_some_iff, List.forall₂_map_left_iff, List.forall₂_same]
    exact fun e member => declaration?_line_iff.mpr (lined e member).free

end

/-! ## Names that keys share -/

/-- Keys that become one name in a style sheet have one value. -/
def Resolved.Agrees (theme : Resolved) : Prop :=
  ∀ e ∈ theme.«variables», ∀ f ∈ theme.«variables»,
    variableName e.1 = variableName f.1 → e.2 = f.2

instance (theme : Resolved) : Decidable theme.Agrees :=
  inferInstanceAs (Decidable (∀ e ∈ theme.«variables», ∀ f ∈ theme.«variables»,
    variableName e.1 = variableName f.1 → e.2 = f.2))

/-- The characters of a key in the name of its variable: points become hyphens. -/
def hyphens (key : List Char) : List Char := key.map fun c => if c == '.' then '-' else c

theorem toList_variableName (key : String) :
    (variableName key).toList = '-' :: '-' :: hyphens key.toList := by
  have first : ("--" : String).toList = ['-', '-'] := by decide
  rw [variableName, String.toList_append, first, String.toList_ofList]
  rfl

/-- The names of keys without hyphens tell the keys apart. -/
theorem eq_of_variableName {key other : String} (plain : '-' ∉ key.toList)
    (also : '-' ∉ other.toList) (same : variableName key = variableName other) : key = other := by
  have back {s : List Char} (free : '-' ∉ s) :
      (hyphens s).map (fun c => if c == '-' then '.' else c) = s := by
    rw [hyphens, List.map_map]
    refine (List.map_congr_left fun c member => ?_).trans (List.map_id s)
    have other : c ≠ '-' := fun hyphen => free (hyphen ▸ member)
    by_cases point : c = '.' <;> simp [point, other]
  have spelled : hyphens key.toList = hyphens other.toList := by
    have names := congrArg String.toList same
    rw [toList_variableName, toList_variableName] at names
    exact (List.cons.inj (List.cons.inj names).2).2
  refine String.toList_inj.mp ?_
  rw [← back plain, spelled, back also]

/-- Where no key has a hyphen, no two keys become one name. -/
theorem Resolved.agrees_of_plain {theme : Resolved} (distinct : theme.«variables».keys.Nodup)
    (plain : ∀ key ∈ theme.«variables».keys, '-' ∉ key.toList) : theme.Agrees := by
  rintro ⟨key, value⟩ member ⟨other, also⟩ listed same
  have one : key = other := eq_of_variableName (plain key (List.mem_map_of_mem member))
    (plain other (List.mem_map_of_mem listed)) same
  subst one
  have first := Table.get?_of_mem distinct member
  exact Option.some.inj (first.symm.trans (Table.get?_of_mem distinct listed))

/-- Each variable has its own value under its name exactly if keys of one name have one value. -/
theorem Resolved.agrees_iff {theme : Resolved} (distinct : theme.«variables».keys.Nodup) :
    theme.Agrees ↔ ∀ key value, theme.get? key = some value →
      theme.declarations.lastValue? (variableName key) = some value := by
  constructor
  · intro agrees key value found
    have member : (key, value) ∈ theme.«variables» := Table.mem_of_get? found
    have declared : variableName key ∈ theme.declarations.keys := by
      rw [keys_declarations]
      exact List.mem_map_of_mem (List.mem_map_of_mem member)
    obtain ⟨last, counts⟩ := Table.exists_lastValue? declared
    obtain ⟨e, listed, same⟩ := List.mem_map.mp (Table.mem_of_lastValue? counts)
    obtain ⟨name, text⟩ := Prod.mk.inj same
    rw [counts, ← text, agrees e listed _ member name]
  · rintro each ⟨key, value⟩ member ⟨other, also⟩ listed same
    have first := each key value (Table.get?_of_mem distinct member)
    have second := each other also (Table.get?_of_mem distinct listed)
    rw [show variableName key = variableName other from same] at first
    exact Option.some.inj (first.symm.trans second)

/-! ## Themes of texts -/

/-- The tokens that come of loading a theme, if there are any. -/
def tokensOf (loaded : Except Failure UserTheme) : Option Tree :=
  loaded.toOption.bind fun user => user.tokens.map (·.tokens)

/-- The component styles in force after loading a theme: those of the base, with those of the theme
over them if it was not refused. -/
def Base.stylesOf (base : Base) (loaded : Except Failure UserTheme) : Tree :=
  match loaded with
  | .ok user => overlay base.styles (user.components.getD [])
  | .error _ => base.styles

/-- A theme is made of the layers that come of loading. -/
theorem Resolved.eq_resolve {base : Base} {loaded : Except Failure UserTheme} {theme : Resolved}
    (applied : ofUser base loaded = .ok theme) :
    theme = resolve base.tokens (tokensOf loaded) (some (base.stylesOf loaded))
      theme.diagnostics := by
  cases loaded with
  | ok user =>
      obtain ⟨-, rfl⟩ := ofUser_eq_ok.mp applied
      rfl
  | error failure =>
      cases failure with
      | refused refusal =>
          cases applied
          rfl
      | broken cause => cases applied

theorem Resolved.nodup_variables {base : Base} {loaded : Except Failure UserTheme}
    {theme : Resolved} (applied : ofUser base loaded = .ok theme) :
    theme.«variables».keys.Nodup := by
  rw [eq_resolve applied, variables_resolve]
  exact Table.nodup_putAll (show (Table.keys ([] : Variables)).Nodup from List.nodup_nil) _

theorem Resolved.nodup_of_text {base : Base} {content source : String} {theme : Resolved}
    (resolved : ofText base (some content) source = .ok theme) :
    theme.«variables».keys.Nodup := by
  have applied : ofUser base (UserTheme.ofText content source) = .ok theme := resolved
  exact nodup_variables applied

/-- A theme is read back from the block of its variables: the lines are its declarations, one for
each variable in order, and under its name each variable has the value that the last declaration of
the name gives it. -/
structure Resolved.IsRead (theme : Resolved) (ends : Char → Bool) : Prop where
  lines : block? ends (theme.rootRule none 2).toList = some theme.declarations
  values : ∀ key value, theme.get? key = some value →
    theme.declarations.lastValue? (variableName key) = some value

/-- **Reading a theme back.** The theme of a text is read back from the block of its variables
exactly if each declaration is one line with the name before its first colon, and keys that become
one name have one value. The first half decides about the lines alone. Keys that have no hyphens
become different names, so the second half holds where no key has one. -/
theorem Resolved.read_of_text {base : Base} {content source : String} {theme : Resolved}
    (resolved : ofText base (some content) source = .ok theme) {ends : Char → Bool}
    (cuts : IsLineEnd ends) :
    (block? ends (theme.rootRule none 2).toList = some theme.declarations ↔
      ∀ e ∈ theme.declarations, IsLined ends e) ∧
    (theme.IsRead ends ↔ (∀ e ∈ theme.declarations, IsLined ends e) ∧ theme.Agrees) ∧
    (∀ key ∈ theme.«variables».keys, ∀ other ∈ theme.«variables».keys, '-' ∉ key.toList →
      '-' ∉ other.toList → variableName key = variableName other → key = other) ∧
    ((∀ key ∈ theme.«variables».keys, '-' ∉ key.toList) → theme.Agrees) := by
  have distinct := nodup_of_text resolved
  have lines : block? ends (theme.rootRule none 2).toList = some theme.declarations ↔
      ∀ e ∈ theme.declarations, IsLined ends e := block?_rootRule_iff cuts
  refine ⟨lines, ⟨fun read => ?_, fun ⟨lined, agrees⟩ => ?_⟩,
    fun key _ other _ => eq_of_variableName, agrees_of_plain distinct⟩
  · exact ⟨lines.mp read.lines, (agrees_iff distinct).mpr read.values⟩
  · exact ⟨lines.mpr lined, (agrees_iff distinct).mp agrees⟩

/-- A result with what has been found of it. -/
theorem exists_of_toOption {ε α : Type} {p : α → Prop} [DecidablePred p] {result : Except ε α}
    (found : result.toOption.map (fun a => decide (p a)) = some true) :
    ∃ a, result = .ok a ∧ p a := by
  cases result with
  | error e => cases found
  | ok a => exact ⟨a, rfl, of_decide_eq_true (Option.some.inj found)⟩

theorem isLineEnd_feed : IsLineEnd (· == '\n') where
  feed := rfl
  boundary := by
    intro c feed
    rw [beq_iff_eq.mp feed]
    decide

/-- A base with one colour and no component styles. -/
def blueBase : Base := ⟨sole "colors" (.map (sole "primary" (.text "blue"))), [], rfl⟩

/-- A token in a category of its own is read back, and so is the colour of the base. -/
theorem Resolved.read_of_brand :
    ∃ theme, ofText blueBase (some "theme: \x7btokens: \x7bbrand: \x7bmain: red\x7d\x7d\x7d")
        "<theme>" = .ok theme ∧
      theme.diagnostics = [] ∧
      theme.«variables» = [("colors.primary", "blue"), ("brand.main", "red")] ∧
      theme.IsRead (· == '\n') := by
  have found : (ofText blueBase
      (some "theme: \x7btokens: \x7bbrand: \x7bmain: red\x7d\x7d\x7d")
      "<theme>").toOption.map (fun theme => decide (theme.diagnostics = [] ∧
        theme.«variables» = [("colors.primary", "blue"), ("brand.main", "red")] ∧
        (∀ e ∈ theme.declarations, IsLined (· == '\n') e) ∧
        ∀ key ∈ theme.«variables».keys, '-' ∉ key.toList)) = some true := by
    decide +kernel
  obtain ⟨theme, resolved, loads, known, lined, plain⟩ := exists_of_toOption found
  obtain ⟨-, whole, -, apart⟩ := read_of_text resolved isLineEnd_feed
  exact ⟨theme, resolved, loads, known, whole.mpr ⟨lined, apart plain⟩⟩

/-- A token whose key has a hyphen where that of a built-in one has a point takes over its name. -/
theorem Resolved.unread_by_hyphen :
    ¬ ∀ (content source : String) (theme : Resolved),
      ofText .builtin (some content) source = .ok theme → theme.diagnostics = [] →
      theme.IsRead (· == '\n') := by
  intro every
  have found : (UserTheme.ofText "theme: \x7btokens: \x7bcolors-primary: red\x7d\x7d"
      "<theme>").toOption.map (fun user =>
        let leaves := Base.builtin.tokenLeaves user ++ Base.builtin.styleLeaves user
        Base.builtin.writes user && decide (leaves.lastValue? "colors.primary" = some "#3B82F6" ∧
          leaves.lastValue? "colors-primary" = some "red")) = some true := by
    decide +kernel
  obtain ⟨theme, user, resolved, loads, -, applied, point, hyphen⟩ :=
    exists_of_loads .builtin found
  have agrees := (agrees_iff (nodup_of_text resolved)).mpr (every _ _ theme resolved loads).values
  have held {key value : String}
      (last : Table.lastValue? (Base.builtin.tokenLeaves user ++ Base.builtin.styleLeaves user)
        key = some value) : (key, value) ∈ theme.«variables» := by
    refine Table.mem_of_get? ?_
    rw [variables_ofUser applied, Table.get?_putAll, last]
    rfl
  have same : variableName "colors.primary" = variableName "colors-primary" := by decide +kernel
  exact absurd (agrees _ (held point) _ (held hyphen) same) (by decide)

end Wireframe.Theme
