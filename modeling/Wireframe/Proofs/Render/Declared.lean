import Wireframe.Proofs.Render.Minimal
import Wireframe.Proofs.Theme.StyleIndex

/-! # What rules read is declared

The block of a theme declares all variables of the theme. The structural rules read variables
that the built-in tokens give a value to, and each rule of a component style reads the variables
that the index of the theme leads to; so all that rules mean to read is declared
(`Wireframe.Render.declared_of_text`).

Names of kinds, variants and properties are printed as they are. A name with an opening bracket
can bring a reference of its own into a rule, and a reference ends where the name in it does, at
the first character that no name may hold. Other names do no harm: a text that opens a bracket
only in front of a name that is read is followed by `Wireframe.Render.Opens`.
-/

namespace Wireframe

/-! ## Brackets in names -/

namespace Text

/-- No letter becomes an opening bracket in lower case. -/
theorem eq_of_lowerChar {c : Char} (bracket : lowerChar c = '(') : c = '(' := by
  have small {n : Nat} (letter : 0x61 ≤ n) : Char.ofNat n ≠ '(' := by
    by_cases valid : n.isValidChar
    · rw [Char.ofNat, dif_pos valid]
      intro same
      have code : n = 40 := congrArg Char.toNat same
      omega
    · rw [Char.ofNat, dif_neg valid]
      decide
  have runs : ∀ run ∈ capitalRuns, 0x61 ≤ run.lower := by decide +kernel
  unfold lowerChar at bracket
  dsimp only at bracket
  split at bracket
  · split at bracket
    · rename_i letter
      refine absurd bracket (small ?_)
      simp only [Bool.and_eq_true, decide_eq_true_eq] at letter
      omega
    · exact bracket
  · split at bracket
    · rename_i run found
      have low := runs run (List.mem_of_find?_eq_some found)
      exact absurd bracket (small (by omega))
    · exact bracket

theorem mem_of_mem_lowerFrom {s : List Char} {before : Option Char}
    (member : '(' ∈ lowerFrom before s) : '(' ∈ s := by
  induction s generalizing before with
  | nil => exact member
  | cons c rest ih =>
      rw [lowerFrom] at member
      rcases List.mem_append.mp member with here | behind
      · split at here
        · exact absurd here (by decide)
        · split at here
          · exact absurd here (by decide)
          · rw [eq_of_lowerChar (List.mem_singleton.mp here).symm]
            exact List.mem_cons_self
      · exact List.mem_cons_of_mem c (ih behind)

theorem mem_of_mem_lower {s : String} (member : '(' ∈ (lower s).toList) : '(' ∈ s.toList := by
  rw [lower, String.toList_ofList] at member
  exact mem_of_mem_lowerFrom member

end Text

namespace Theme

theorem mem_of_mem_hyphenated {s : List Char} (member : '(' ∈ hyphenated s) : '(' ∈ s := by
  induction s using hyphenated.induct with
  | case1 => exact member
  | case2 c => exact member
  | case3 c next rest capital ih =>
      rw [hyphenated, if_pos capital] at member
      simp only [List.mem_cons] at member ih ⊢
      rcases member with here | hyphen | behind
      · exact .inl here
      · exact absurd hyphen (by decide)
      · exact .inr (ih behind)
  | case4 c next rest small ih =>
      rw [hyphenated, if_neg small] at member
      rcases List.mem_cons.mp member with here | behind
      · exact List.mem_cons.mpr (.inl here)
      · exact List.mem_cons_of_mem c (ih behind)

theorem mem_of_mem_propertyName {property : String}
    (member : '(' ∈ (propertyName property).toList) : '(' ∈ property.toList := by
  unfold propertyName at member
  split at member
  · exact Text.mem_of_mem_lower member
  · have inside := Text.mem_of_mem_lower member
    rw [String.toList_ofList] at inside
    exact mem_of_mem_hyphenated inside

/-- The characters of the name of a variable that styles components. -/
theorem mem_styleName {kind variant property : String} {c : Char}
    (member : c ∈ (variableName (styleKey kind variant property)).toList) :
    c ∈ "component-".toList ∨ c ∈ kind.toList ∨ c ∈ variant.toList ∨ c ∈ property.toList := by
  have hyphen : c = '-' → c ∈ "component-".toList := by
    rintro rfl
    decide
  have word : c ∈ componentKey.toList → c ∈ "component-".toList := fun inside =>
    List.mem_of_mem_take (i := 9) inside
  rw [toList_variableName] at member
  simp only [List.mem_cons, ← or_assoc, or_self] at member
  rcases member with first | inside
  · exact .inl (hyphen first)
  · obtain ⟨d, listed, same⟩ := List.mem_map.mp inside
    split at same
    · exact .inl (hyphen same.symm)
    · rename_i point
      subst same
      have other : d ∉ ".".toList := by simpa using point
      simp only [styleKey, String.toList_append, List.mem_append, other, or_false] at listed
      rcases listed with ((first | kind) | variant) | property
      · exact .inl (word first)
      · exact .inr (.inl kind)
      · exact .inr (.inr (.inl variant))
      · exact .inr (.inr (.inr property))

theorem mem_of_mem_componentClass {kind variant : String}
    (member : '(' ∈ (componentClass kind variant).toList) :
    '(' ∈ kind.toList ∨ '(' ∈ variant.toList := by
  simp only [componentClass, String.toList_append, List.mem_append] at member
  rcases member with ((first | inside) | hyphen) | behind
  · exact absurd first (by decide)
  · exact .inl (Text.mem_of_mem_lower inside)
  · exact absurd hyphen (by decide)
  · exact .inr behind

end Theme

namespace Render

open Theme (Resolved Variables variableName propertyName componentClass)

/-! ## Brackets in texts -/

/-- Each opening bracket of a text has a name of some kind behind it, and then a closing bracket, or
else it has a character behind it that begins no name. -/
def Opens (p : String → Prop) (s : List Char) : Prop :=
  ∀ before rest, s = before ++ '(' :: rest →
    (∃ name, p name ∧ ∃ after, rest = name.toList ++ ')' :: after) ∨
      ∃ c after, rest = c :: after ∧ c ≠ '-' ∧ Text.isBlank c = false

theorem toList_var (name : String) :
    ("var(" ++ name ++ ")").toList = ['v', 'a', 'r'] ++ '(' :: (name.toList ++ [')']) := by
  simp [String.toList_append]

section

variable {p : String → Prop}

theorem opens_of_none {s : List Char} (none : '(' ∉ s) : Opens p s := by
  rintro before rest rfl
  exact absurd (List.mem_append_right before List.mem_cons_self) none

theorem Opens.mono {q : String → Prop} {s : List Char} (opens : Opens p s)
    (weaker : ∀ name, p name → q name) : Opens q s :=
  fun before rest same => (opens before rest same).imp_left fun ⟨name, holds, behind⟩ =>
    ⟨name, weaker name holds, behind⟩

theorem Opens.append {s t : List Char} (left : Opens p s) (right : Opens p t) :
    Opens p (s ++ t) := by
  intro before rest same
  rcases List.append_eq_append_iff.mp same with ⟨between, rfl, behind⟩ | ⟨between, rfl, behind⟩
  · exact right between rest behind
  · cases between with
    | nil => exact right [] rest behind.symm
    | cons first between =>
        obtain ⟨rfl, rfl⟩ := List.cons.inj behind
        rcases left before between rfl with ⟨name, holds, after, rfl⟩ | ⟨c, after, rfl, other⟩
        · exact .inl ⟨name, holds, after ++ t, by simp⟩
        · exact .inr ⟨c, after ++ t, rfl, other⟩

theorem opens_intercalate {sep : List Char} (free : '(' ∉ sep) {pieces : List (List Char)}
    (each : ∀ piece ∈ pieces, Opens p piece) : Opens p (sep.intercalate pieces) := by
  induction pieces with
  | nil => exact opens_of_none List.not_mem_nil
  | cons piece rest ih =>
      obtain ⟨here, behind⟩ := List.forall_mem_cons.mp each
      cases rest with
      | nil => simpa using here
      | cons next rest =>
          rw [List.intercalate_cons_cons]
          exact (here.append (opens_of_none free)).append (ih behind)

/-- A reference to a name without brackets opens one bracket, in front of the name. -/
theorem opens_var {name : String} (holds : p name) (free : '(' ∉ name.toList) :
    Opens p ("var(" ++ name ++ ")").toList := by
  intro before rest same
  have once : '(' ∉ ['v', 'a', 'r'] ∧ '(' ∉ name.toList ++ [')'] := by
    refine ⟨by decide, fun inside => ?_⟩
    rcases List.mem_append.mp inside with here | last
    · exact free here
    · exact absurd last (by decide)
  rw [toList_var] at same
  obtain ⟨-, rfl⟩ := split_once same once
  exact .inl ⟨name, holds, [], rfl⟩

end

/-! ## Names behind brackets -/

/-- What stands at the front of a name in characters of some kind. -/
def cut (isChar : Char → Bool) (name : String) : String :=
  String.ofList (name.toList.takeWhile isChar)

/-- A name in characters of some kind stands behind a bracket, with or without blanks before it. -/
def Stands (isChar : Char → Bool) (s : List Char) (name : String) : Prop :=
  ∃ before blanks after, s = before ++ '(' :: (blanks ++ (name.toList ++ after)) ∧
    (∀ c ∈ blanks, Text.isBlank c = true) ∧ name.toList.head? = some '-' ∧
    (∀ c ∈ name.toList, isChar c = true) ∧ ∀ c ∈ after.head?, isChar c = false

theorem ends_dropWhile (isChar : Char → Bool) (s : List Char) :
    ∀ c ∈ (s.dropWhile isChar).head?, isChar c = false := by
  intro c member
  have ends := List.head?_dropWhile_not isChar s
  rw [Option.mem_def.mp member] at ends
  exact ends

theorem stands_of_reads {text name : String} (reads : Reads text name) :
    Stands isIdentChar text.toList name := by
  obtain ⟨word, before, blanks, after, spelled, -, blank, dashed, -, ends⟩ := reads
  obtain ⟨c, rest, hyphens⟩ := dashed.hyphens
  exact ⟨before ++ word, blanks, after, by rw [spelled, List.append_assoc], blank,
    by rw [hyphens, List.head?_cons], dashed.chars, ends⟩

theorem stands_of_referenceAtFront? {s : List Char} {name : String} {length : Nat}
    (found : referenceAtFront? s = some (name, length)) : Stands isNameChar s name := by
  unfold referenceAtFront? at found
  split at found
  · rename_i rest
    dsimp only at found
    split at found
    · rename_i more hyphens
      split at found
      · cases found
      · cases found
        have whole := List.takeWhile_append_dropWhile (p := Text.isBlank) (l := rest)
        rw [hyphens] at whole
        refine ⟨['v', 'a', 'r'], rest.takeWhile Text.isBlank, more.dropWhile isNameChar, ?_,
          fun c member => List.mem_takeWhile_imp member, ?_, ?_, ?_⟩
        · simp only [String.toList_ofList, List.cons_append, List.nil_append,
            List.takeWhile_append_dropWhile, whole]
        · rw [String.toList_ofList, List.head?_cons]
        · rw [String.toList_ofList]
          simp only [List.forall_mem_cons]
          exact ⟨by decide, by decide, fun c member => List.mem_takeWhile_imp member⟩
        · exact ends_dropWhile isNameChar more
    · cases found
  · cases found

theorem stands_of_mem_referencesFrom {passed : Nat} {s : List Char} {name : String}
    (member : name ∈ referencesFrom passed s) : Stands isNameChar s name := by
  have behind {c : Char} {rest : List Char} (stands : Stands isNameChar rest name) :
      Stands isNameChar (c :: rest) name := by
    obtain ⟨before, blanks, after, rfl, others⟩ := stands
    exact ⟨c :: before, blanks, after, rfl, others⟩
  induction s generalizing passed with
  | nil => cases passed <;> cases member
  | cons c rest ih =>
      cases passed with
      | succ passed => exact behind (ih member)
      | zero =>
          rw [referencesFrom] at member
          split at member
          · rename_i first length found
            rcases List.mem_cons.mp member with rfl | later
            · exact stands_of_referenceAtFront? found
            · exact behind (ih later)
          · exact behind (ih member)

theorem stands_of_mem_references {text name : String} (member : name ∈ references text) :
    Stands isNameChar text.toList name := stands_of_mem_referencesFrom member

/-- Where a text opens brackets in front of names alone, what stands behind a bracket is the front
of one of the names. -/
theorem eq_cut_of_stands {isChar : Char → Bool} (closing : isChar ')' = false)
    {p : String → Prop} (hyphens : ∀ name, p name → name.toList.head? = some '-')
    {s : List Char} (opens : Opens p s) {other : String} (stands : Stands isChar s other) :
    ∃ name, p name ∧ other = cut isChar name := by
  obtain ⟨before, blanks, after, same, blank, first, chars, ends⟩ := stands
  obtain ⟨more, hyphen⟩ := List.head?_eq_some_iff.mp first
  rcases opens before _ same with ⟨name, holds, tail, rest⟩ | ⟨c, tail, rest, unlike, unblank⟩
  swap
  · cases blanks with
    | nil =>
        rw [hyphen] at rest
        exact absurd (List.cons.inj rest).1.symm unlike
    | cons d blanks =>
        obtain rfl : d = c := (List.cons.inj rest).1
        cases unblank.symm.trans (blank d List.mem_cons_self)
  refine ⟨name, holds, ?_⟩
  have none : blanks = [] := by
    cases blanks with
    | nil => rfl
    | cons c blanks =>
        obtain ⟨more, hyphen⟩ := List.head?_eq_some_iff.mp (hyphens name holds)
        rw [hyphen] at rest
        obtain rfl : c = '-' := (List.cons.inj rest).1
        exact absurd (blank '-' List.mem_cons_self) (by decide)
  have theirs : (other.toList ++ after).takeWhile isChar = other.toList :=
    Markup.takeWhile_run chars ends
  have mine : (name.toList ++ ')' :: tail).takeWhile isChar = name.toList.takeWhile isChar := by
    rw [List.takeWhile_append]
    split
    · rename_i whole
      rw [List.takeWhile_cons_of_neg (by simp [closing]), List.append_nil,
        (List.takeWhile_prefix isChar).eq_of_length whole]
    · rfl
  rw [none, List.nil_append] at rest
  rw [rest, mine] at theirs
  rw [cut, theirs, String.ofList_toList]

/-- A reference to a name is read, up to the first character that no name may hold. -/
theorem readsAs_cut_of_within {text name : String} {c : Char} {rest : List Char}
    (dashed : name.toList = '-' :: '-' :: c :: rest) (ident : isIdentChar c = true)
    (stands : ' ' :: ("var(" ++ name ++ ")").toList <:+: text.toList) :
    ReadsAs ['v', 'a', 'r'] text (cut isIdentChar name) := by
  obtain ⟨before, after, spelled⟩ := stands
  have whole : (cut isIdentChar name).toList ++ name.toList.dropWhile isIdentChar =
      name.toList := by
    rw [cut, String.toList_ofList, List.takeWhile_append_dropWhile]
  refine ⟨before ++ [' '], [],
    name.toList.dropWhile isIdentChar ++ ')' :: after, ?_, by decide, nofun, ⟨?_, ?_⟩, ?_, ?_⟩
  · rw [List.nil_append, ← List.append_assoc (cut isIdentChar name).toList, whole, ← spelled,
      toList_var]
    simp
  · refine ⟨c, rest.takeWhile isIdentChar, ?_⟩
    have hyphen : isIdentChar '-' = true := by decide
    rw [cut, String.toList_ofList, dashed, List.takeWhile_cons_of_pos hyphen,
      List.takeWhile_cons_of_pos hyphen, List.takeWhile_cons_of_pos ident]
  · rw [cut, String.toList_ofList]
    exact fun c member => List.mem_takeWhile_imp member
  · simp
    decide
  · have ends := ends_dropWhile isIdentChar name.toList
    cases behind : name.toList.dropWhile isIdentChar with
    | nil =>
        simp
        decide
    | cons d more =>
        rw [behind] at ends
        simpa using ends

/-! ## Rules of component styles -/

/-- The names of component styles are in characters of some kind. -/
def NamedIn (theme : Resolved) (isChar : Char → Bool) : Prop :=
  ∀ style ∈ theme.components, ∀ name ∈ style.1.1 :: style.1.2 :: style.2.keys,
    ∀ c ∈ name.toList, isChar c = true

/-- The names in a style sheet of the variables that style components. -/
def styleNames (theme : Resolved) : List String :=
  theme.components.flatMap fun style => style.2.map fun e => variableName e.2

theorem exists_of_styleNames {theme : Resolved} {name : String} (member : name ∈ styleNames theme) :
    ∃ style ∈ theme.components, ∃ e ∈ style.2, name = variableName e.2 := by
  obtain ⟨style, inside, named⟩ := List.mem_flatMap.mp member
  obtain ⟨e, listed, rfl⟩ := List.mem_map.mp named
  exact ⟨style, inside, e, listed, rfl⟩

theorem head?_variableName (key : String) : (variableName key).toList.head? = some '-' := by
  rw [Theme.toList_variableName, List.head?_cons]

theorem styleNames_hyphens {theme : Resolved} :
    ∀ name ∈ styleNames theme, name.toList.head? = some '-' := by
  intro name member
  obtain ⟨_, _, e, _, rfl⟩ := exists_of_styleNames member
  exact head?_variableName e.2

theorem NamedIn.mono {theme : Resolved} {isChar other : Char → Bool} (named : NamedIn theme isChar)
    (weaker : ∀ c, isChar c = true → other c = true) : NamedIn theme other :=
  fun style member name listed c inside => weaker c (named style member name listed c inside)

theorem within_intercalate {α : Type} {sep piece : List α} {pieces : List (List α)}
    (member : piece ∈ pieces) : piece <:+: sep.intercalate pieces := by
  induction pieces with
  | nil => cases member
  | cons first rest ih =>
      cases rest with
      | nil =>
          obtain rfl := List.mem_singleton.mp member
          simp
      | cons next rest =>
          rw [List.intercalate_cons_cons]
          rcases List.mem_cons.mp member with rfl | behind
          · exact ((List.prefix_append _ _).trans (List.prefix_append _ _)).isInfix
          · exact (ih behind).trans (List.suffix_append _ _).isInfix

/-- The lines of a rule. -/
theorem toList_text (rule : Rule) :
    rule.text.toList = ['\n'].intercalate
      (([',', ' '].intercalate (rule.selectors.map String.toList) ++ [' ', '\x7b']) ::
        (rule.declarations.map Theme.line ++ [['\x7d']])) := by
  have lines : (rule.declarations.map
      fun e => "  " ++ e.1 ++ ": " ++ e.2 ++ ";").map String.toList =
      rule.declarations.map Theme.line := by
    rw [List.map_map]
    exact List.map_congr_left fun e _ => by simp [Theme.line]
  rw [Rule.text, String.toList_intercalate, List.map_append, List.map_append, lines,
    List.map_singleton, List.map_singleton, String.toList_append, String.toList_intercalate]
  rfl

theorem opens_text {p : String → Prop} {rule : Rule}
    (selectors : ∀ selector ∈ rule.selectors, '(' ∉ selector.toList)
    (declarations : ∀ e ∈ rule.declarations, '(' ∉ e.1.toList ∧ Opens p e.2.toList) :
    Opens p rule.text.toList := by
  rw [toList_text]
  refine opens_intercalate (by decide) ?_
  rw [List.forall_mem_cons, List.forall_mem_append, List.forall_mem_map,
    List.forall_mem_singleton]
  refine ⟨?_, fun e listed => ?_, opens_of_none (by decide)⟩
  · refine (opens_intercalate (by decide) ?_).append (opens_of_none (by decide))
    exact List.forall_mem_map.mpr fun selector member => opens_of_none (selectors selector member)
  · obtain ⟨free, opens⟩ := declarations e listed
    have pieces : Theme.line e =
        [' ', ' '] ++ e.1.toList ++ [':', ' '] ++ e.2.toList ++ [';'] := by
      simp [Theme.line]
    rw [pieces]
    exact ((((opens_of_none (by decide)).append (opens_of_none free)).append
      (opens_of_none (by decide))).append opens).append (opens_of_none (by decide))

theorem toList_componentRules (theme : Resolved) :
    (theme.componentRules 2).toList =
      ['\n'].intercalate (theme.components.map fun style => (styleRule style).text.toList) := by
  rw [componentRules_eq, String.toList_intercalate, List.map_map, List.map_map]
  rfl

/-- The declarations of component styles are lines of their rules. -/
theorem line_within {theme : Resolved} {style : (String × String) × Variables}
    (member : style ∈ theme.components) {e : String × String} (listed : e ∈ style.2) :
    Theme.line (propertyName e.1, "var(" ++ variableName e.2 ++ ")") <:+:
      (theme.componentRules 2).toList := by
  have line : Theme.line (propertyName e.1, "var(" ++ variableName e.2 ++ ")") <:+:
      (styleRule style).text.toList := by
    rw [toList_text]
    refine within_intercalate (List.mem_cons_of_mem _ (List.mem_append_left _ ?_))
    exact List.mem_map_of_mem (List.mem_map_of_mem listed)
  rw [toList_componentRules]
  exact line.trans (within_intercalate (List.mem_map_of_mem member))

section

variable {theme : Resolved} {styles : Variables} (coheres : theme.Coheres styles)

include coheres

/-- The name of a variable that styles components begins with hyphens. -/
theorem dashed_of_style {style : (String × String) × Variables} (member : style ∈ theme.components)
    {e : String × String} (listed : e ∈ style.2) :
    ∃ rest, (variableName e.2).toList = '-' :: '-' :: 'c' :: rest := by
  have first : Theme.componentKey.toList = 'c' :: "omponent".toList := by decide
  rw [(coheres.entry style member e listed).1, Theme.toList_variableName, Theme.styleKey]
  simp only [String.toList_append, first, List.cons_append]
  exact ⟨_, rfl⟩

/-- Where no name holds an opening bracket, the rules of component styles open brackets in front of
the names of their variables alone. -/
theorem opens_componentRules (free : NamedIn theme (· != '(')) :
    Opens (· ∈ styleNames theme) (theme.componentRules 2).toList := by
  have bracketless {name : String} (clear : ∀ c ∈ name.toList, (c != '(') = true) :
      '(' ∉ name.toList := fun inside => absurd (clear _ inside) (by decide)
  rw [toList_componentRules]
  refine opens_intercalate (by decide) (List.forall_mem_map.mpr fun style member => ?_)
  have names := free style member
  simp only [List.forall_mem_cons] at names
  obtain ⟨kind, variant, properties⟩ := names
  refine opens_text (List.forall_mem_singleton.mpr fun inside => ?_)
    (List.forall_mem_map.mpr fun e listed => ?_)
  · rw [String.toList_append] at inside
    rcases List.mem_append.mp inside with point | inside
    · exact absurd point (by decide)
    · exact (Theme.mem_of_mem_componentClass inside).elim (bracketless kind) (bracketless variant)
  · have property := bracketless (properties e.1 (List.mem_map_of_mem listed))
    refine ⟨fun inside => property (Theme.mem_of_mem_propertyName inside), opens_var ?_ ?_⟩
    · exact List.mem_flatMap.mpr ⟨style, member, List.mem_map_of_mem listed⟩
    · intro inside
      rw [(coheres.entry style member e listed).1] at inside
      rcases Theme.mem_styleName inside with first | inside | inside | inside
      · exact absurd first (by decide)
      · exact bracketless kind inside
      · exact bracketless variant inside
      · exact property inside

/-- The variables that style components are declared. -/
theorem styleNames_subset : styleNames theme ⊆ theme.declarations.keys := by
  intro name member
  obtain ⟨style, inside, e, listed, rfl⟩ := exists_of_styleNames member
  obtain ⟨-, -, value, -, found⟩ := coheres.entry style inside e listed
  rw [Resolved.keys_declarations]
  exact List.mem_map_of_mem (List.mem_map_of_mem (Table.mem_of_get? found))

/-- The rules of component styles read their variables, up to the first character that no name may
hold. -/
theorem reads_cut {name : String} (member : name ∈ styleNames theme) :
    Reads (theme.componentRules 2) (cut isIdentChar name) := by
  obtain ⟨style, inside, e, listed, rfl⟩ := exists_of_styleNames member
  obtain ⟨rest, dashed⟩ := dashed_of_style coheres inside listed
  refine ⟨_, readsAs_cut_of_within dashed (by decide) (List.IsInfix.trans ?_
    (line_within inside listed))⟩
  refine ⟨' ' :: ' ' :: ((propertyName e.1).toList ++ [':']), [';'], ?_⟩
  simp [Theme.line]

/-- What the rules of component styles read, where no name holds an opening bracket. -/
theorem reads_componentRules_iff (free : NamedIn theme (· != '(')) {name : String} :
    Reads (theme.componentRules 2) name ↔
      ∃ other ∈ styleNames theme, name = cut isIdentChar other := by
  constructor
  · exact fun reads => eq_cut_of_stands (by decide) styleNames_hyphens
      (opens_componentRules coheres free) (stands_of_reads reads)
  · rintro ⟨other, member, rfl⟩
    exact reads_cut coheres member

/-- Names of component styles in characters of some kind make names of variables in such
characters. -/
theorem cut_of_named {isChar : Char → Bool} (letters : "component-".toList.all isChar = true)
    (named : NamedIn theme isChar) {name : String} (member : name ∈ styleNames theme) :
    cut isChar name = name := by
  obtain ⟨style, inside, e, listed, rfl⟩ := exists_of_styleNames member
  have names := named style inside
  simp only [List.forall_mem_cons] at names
  obtain ⟨kind, variant, properties⟩ := names
  rw [cut, List.takeWhile_eq_self_iff.mpr, String.ofList_toList]
  intro c here
  rw [(coheres.entry style inside e listed).1] at here
  rcases Theme.mem_styleName here with first | here | here | here
  · exact List.all_eq_true.mp letters c first
  · exact kind c here
  · exact variant c here
  · exact properties e.1 (List.mem_map_of_mem listed) c here

end

/-- Component styles whose names are in characters of some kind, none of them a point, have an index
with names in such characters. -/
theorem namedIn_of_places {isChar : Char → Bool} (point : isChar '.' = false)
    {theme : Resolved} {tree : Theme.Tree}
    (coheres : theme.Coheres (Theme.flatten Theme.componentKey tree))
    (letters : ∀ name ∈ (Theme.places tree).keys.flatten, name.toList.all isChar = true) :
    NamedIn theme isChar := by
  have placed : ∀ style ∈ theme.components, ∀ e ∈ style.2,
      [style.1.1, style.1.2, e.1] ∈ (Theme.places tree).keys := by
    intro style member e listed
    obtain ⟨named, free, value, found, -⟩ := coheres.entry style member e listed
    have leaf : e.2 ∈ (Theme.leaves Theme.componentKey tree).keys := by
      have inside : e.2 ∈ (Theme.flatten Theme.componentKey tree).keys :=
        List.mem_map_of_mem (Table.mem_of_get? found)
      rwa [Theme.keys_flatten, List.mem_eraseDups] at inside
    rw [Theme.leaves_eq_places] at leaf
    obtain ⟨_, inside, spelled⟩ := List.mem_map.mp leaf
    obtain ⟨⟨place, text⟩, there, rfl⟩ := List.mem_map.mp inside
    have known : place ∈ (Theme.places tree).keys := List.mem_map_of_mem (f := Prod.fst) there
    have clear : Theme.NoPoint place := fun name member inside => by
      have letter := List.all_eq_true.mp
        (letters name (List.mem_flatten_of_mem known member)) _ inside
      cases point.symm.trans letter
    rwa [Theme.eq_of_styleKey clear free (spelled.trans named)] at known
  intro style member name listed c inside
  have entry : ∃ e ∈ style.2, name ∈ [style.1.1, style.1.2, e.1] := by
    simp only [List.mem_cons] at listed
    obtain ⟨e, property⟩ := List.exists_mem_of_ne_nil _ (coheres.filled style member)
    rcases listed with rfl | rfl | listed
    · exact ⟨e, property, by simp⟩
    · exact ⟨e, property, by simp⟩
    · obtain ⟨e, property, rfl⟩ := List.mem_map.mp listed
      exact ⟨e, property, by simp⟩
  obtain ⟨e, property, one⟩ := entry
  exact List.all_eq_true.mp
    (letters name (List.mem_flatten_of_mem (placed style member e property) one)) c inside

/-! ## Structural rules -/

/-- Whether a text has a name of some kind at its front, or a character that begins no name. -/
def opensAtFront (p : List Char → Bool) (s : List Char) : Bool :=
  (p (s.takeWhile isNameChar) && (s.dropWhile isNameChar).head? == some ')') ||
    s.head?.any fun c => c != '-' && !Text.isBlank c

/-- Whether all opening brackets of a text have names behind them, or nothing that begins one. -/
def opensThroughout (p : List Char → Bool) : List Char → Bool
  | [] => true
  | c :: rest => (c != '(' || opensAtFront p rest) && opensThroughout p rest

theorem opens_of_throughout {p : List Char → Bool} {s : List Char}
    (all : opensThroughout p s = true) :
    Opens (fun name => IsPlain name ∧ p name.toList = true) s := by
  rintro before rest rfl
  induction before with
  | nil =>
      rw [List.nil_append, opensThroughout, Bool.and_eq_true, bne_self_eq_false, Bool.false_or,
        opensAtFront, Bool.or_eq_true, Bool.and_eq_true, Option.any_eq_true] at all
      rcases all.1 with ⟨known, closed⟩ | ⟨c, first, other⟩
      · obtain ⟨after, behind⟩ := List.head?_eq_some_iff.mp (beq_iff_eq.mp closed)
        refine .inl ⟨String.ofList (rest.takeWhile isNameChar), ⟨?_, ?_⟩, after, ?_⟩
        · rw [IsPlain, String.toList_ofList]
          exact fun c member => List.mem_takeWhile_imp member
        · rwa [String.toList_ofList]
        · rw [String.toList_ofList, ← behind, List.takeWhile_append_dropWhile]
      · obtain ⟨after, rfl⟩ := List.head?_eq_some_iff.mp first
        exact .inr ⟨c, after, rfl, by simpa using other⟩
  | cons c before ih =>
      rw [List.cons_append, opensThroughout, Bool.and_eq_true] at all
      exact ih all.2

/-- A plain name is whole in characters of names. -/
theorem cut_of_plain {isChar : Char → Bool}
    (letters : ∀ c, isNameChar c = true → isChar c = true) {name : String}
    (plain : IsPlain name) : cut isChar name = name := by
  rw [cut, List.takeWhile_eq_self_iff.mpr fun c member => letters c (plain c member),
    String.ofList_toList]

/-- The names that the built-in tokens have in a style sheet. -/
def tokenNames : List String :=
  (Theme.leaves "" Theme.Base.builtin.tokens).keys.map variableName

/-- Whether some characters are those of the name of a built-in token. -/
def isTokenName (name : List Char) : Bool :=
  (Theme.leaves "" Theme.Base.builtin.tokens).keys.any fun key =>
    '-' :: '-' :: Theme.hyphens key.toList == name

theorem mem_tokenNames {name : String} (known : isTokenName name.toList = true) :
    name ∈ tokenNames := by
  obtain ⟨key, member, same⟩ := List.any_eq_true.mp known
  refine List.mem_map.mpr ⟨key, member, String.toList_inj.mp ?_⟩
  rw [Theme.toList_variableName, beq_iff_eq.mp same]

/-- The structural rules open brackets in front of names of built-in tokens, or for functions
of other kinds. -/
theorem opens_structuralSheet :
    Opens (fun name => IsPlain name ∧ name ∈ tokenNames) structuralSheet.toList := by
  have selectors : structuralRules.all (fun rule =>
      rule.selectors.all fun selector => !selector.toList.contains '(') = true := by
    decide +kernel
  have properties : structuralRules.all (fun rule =>
      rule.declarations.all fun e => !e.1.toList.contains '(') = true := by
    decide +kernel
  have values : structuralRules.all (fun rule =>
      rule.declarations.all fun e => opensThroughout isTokenName e.2.toList) = true := by
    decide +kernel
  simp only [List.all_eq_true, Bool.not_eq_true', List.contains_eq_mem,
    decide_eq_false_iff_not] at selectors properties values
  rw [structuralSheet, String.toList_intercalate, List.map_map]
  refine opens_intercalate (by decide) (List.forall_mem_map.mpr fun rule member => ?_)
  refine opens_text (selectors rule member) fun e listed => ⟨properties rule member e listed, ?_⟩
  have opens := opens_of_throughout (values rule member e listed)
  exact opens.mono fun name => And.imp_right mem_tokenNames

/-- The built-in tokens are declared by every theme over them. -/
theorem tokenNames_subset {loaded : Except Theme.Failure Theme.UserTheme} {theme : Resolved}
    (applied : Resolved.ofUser .builtin loaded = .ok theme) :
    tokenNames ⊆ theme.declarations.keys := by
  rw [Resolved.keys_declarations, Resolved.eq_resolve applied]
  refine List.map_subset _ fun key member => ?_
  exact (Theme.variables_of_leaves _ _ _ _).2.2.2.2 key (.inl member)

/-- **What rules read.** Under the theme of a text over the built-in one, the index leads to what
the component styles say, each variable that styles components is declared, and so is all that the
structural rules read. Where no name of a component style holds an opening bracket, the rules of
these styles read the names of their variables alone, each up to the first character that no name
may hold; so what they read is declared where all names are in characters of names. -/
theorem declared_of_text {content source : String} {theme : Resolved}
    (resolved : Resolved.ofText .builtin (some content) source = .ok theme) :
    let declared := theme.declarations.keys
    theme.Coheres (Theme.flatten Theme.componentKey
      (Theme.Base.builtin.stylesOf (Theme.UserTheme.ofText content source))) ∧
    (∀ name, Reads structuralSheet name ∨ name ∈ references structuralSheet → name ∈ declared) ∧
    styleNames theme ⊆ declared ∧
    (NamedIn theme (· != '(') →
      (∀ name, Reads (theme.componentRules 2) name ↔
        ∃ other ∈ styleNames theme, name = cut isIdentChar other) ∧
      ((∀ name, Reads (theme.componentRules 2) name → name ∈ declared) ↔
        ∀ name ∈ styleNames theme, cut isIdentChar name ∈ declared)) ∧
    (NamedIn theme isIdentChar →
      ∀ name, Reads (theme.componentRules 2) name → name ∈ declared) ∧
    (NamedIn theme isNameChar → ∀ name ∈ references (theme.componentRules 2), name ∈ declared) := by
  intro declared
  have applied : Resolved.ofUser .builtin (Theme.UserTheme.ofText content source) = .ok theme :=
    resolved
  have coheres := Resolved.coheres applied
  have styled : styleNames theme ⊆ declared := styleNames_subset coheres
  have tokens : tokenNames ⊆ declared := tokenNames_subset applied
  have sheet {isChar : Char → Bool} (closing : isChar ')' = false)
      (letters : ∀ c, isNameChar c = true → isChar c = true) {name : String}
      (stands : Stands isChar structuralSheet.toList name) : name ∈ declared := by
    have hyphens (other : String) (known : IsPlain other ∧ other ∈ tokenNames) :
        other.toList.head? = some '-' := by
      obtain ⟨key, -, rfl⟩ := List.mem_map.mp known.2
      exact head?_variableName key
    obtain ⟨other, ⟨plain, member⟩, rfl⟩ :=
      eq_cut_of_stands closing hyphens opens_structuralSheet stands
    rw [cut_of_plain letters plain]
    exact tokens member
  have rules {isChar : Char → Bool} (closing : isChar ')' = false) (opening : isChar '(' = false)
      (letters : "component-".toList.all isChar = true) (named : NamedIn theme isChar)
      {name : String} (stands : Stands isChar (theme.componentRules 2).toList name) :
      name ∈ declared := by
    have free : NamedIn theme (· != '(') := named.mono fun c letter => by
      rw [bne_iff_ne]
      rintro rfl
      cases opening.symm.trans letter
    obtain ⟨other, member, rfl⟩ := eq_cut_of_stands closing styleNames_hyphens
      (opens_componentRules coheres free) stands
    rw [cut_of_named coheres letters named member]
    exact styled member
  refine ⟨coheres, ?_, styled, fun free => ⟨fun name => reads_componentRules_iff coheres free,
      fun all name member => ?_, fun all name reads => ?_⟩,
    fun named name reads => ?_, fun named name member => ?_⟩
  · rintro name (reads | member)
    · exact sheet (by decide) (fun c => isIdentChar_of_nameChar) (stands_of_reads reads)
    · exact sheet (by decide) (fun c letter => letter) (stands_of_mem_references member)
  · exact all _ (reads_cut coheres member)
  · obtain ⟨other, member, rfl⟩ := (reads_componentRules_iff coheres free).mp reads
    exact all other member
  · exact rules (by decide) (by decide) (by decide +kernel) named (stands_of_reads reads)
  · exact rules (by decide) (by decide) (by decide +kernel) named
      (stands_of_mem_references member)

/-- The rules of the built-in styles and those of a card read declared variables. -/
theorem declared_of_card :
    ∃ theme, Resolved.ofText .builtin (some Theme.cardText) "<theme>" = .ok theme ∧
      theme.diagnostics = [] ∧
      Theme.indexed? theme.components "card" "big" "color" = some "component.card.big.color" ∧
      NamedIn theme isIdentChar ∧
      ∀ name, Reads (theme.componentRules 2) name → name ∈ theme.declarations.keys := by
  have found : (Theme.UserTheme.ofText Theme.cardText "<theme>").toOption.map (fun user =>
      let styles := Theme.overlay Theme.Base.builtin.styles (user.components.getD [])
      Theme.Base.builtin.writes user && decide (
        (∀ name ∈ (Theme.places styles).keys.flatten.eraseDups,
          name.toList.all isIdentChar = true) ∧
        "component.card.big.color" ∈ (Theme.leaves Theme.componentKey styles).keys)) =
      some true := by
    decide +kernel
  obtain ⟨theme, user, resolved, loads, loaded, -, letters, listed⟩ :=
    Resolved.exists_of_loads .builtin found
  obtain ⟨coheres, -, -, -, reads, -⟩ := declared_of_text resolved
  rw [loaded] at coheres
  have named := namedIn_of_places (by decide) coheres fun name member =>
    letters name (List.mem_eraseDups.mpr member)
  have inside : Theme.styleKey "card" "big" "color" ∈
      (Theme.flatten Theme.componentKey
        (Theme.Base.builtin.stylesOf (.ok user))).keys := by
    rw [Theme.keys_flatten, List.mem_eraseDups]
    exact listed
  exact ⟨theme, resolved, loads, coheres.indexed "card" "big" "color" (by decide +kernel) inside,
    named, reads named⟩

theorem key_of_single {key : String} (same : variableName key = "--y") : key = "y" := by
  have spelled := congrArg String.toList same
  have one : ("--y" : String).toList = ['-', '-', 'y'] := by decide
  rw [Theme.toList_variableName, one] at spelled
  obtain ⟨c, single, letter⟩ :=
    List.map_eq_singleton_iff.mp (List.cons.inj (List.cons.inj spelled).2).2
  refine String.toList_inj.mp (single.trans ?_)
  split at letter
  · exact absurd letter (by decide)
  · rw [letter]
    decide

/-- The name of a property that closes a declaration of its own, which reads a variable. -/
def lacedName : String := "--x: var(--y); color"

/-- The text of a theme with such a property. -/
def lacedText : String :=
  "theme: \x7bcomponents: \x7bbutton: \x7bprimary: \x7b\"" ++ lacedName ++
    "\": red\x7d\x7d\x7d\x7d"

/-- A property of that name makes a rule that reads a variable that is not there. -/
theorem undeclared_of_lacedName :
    ¬ ∀ (content source : String) (theme : Resolved),
      Resolved.ofText .builtin (some content) source = .ok theme →
      ∀ name, Reads (theme.componentRules 2) name → name ∈ references (theme.componentRules 2) →
        name ∈ theme.declarations.keys := by
  intro every
  have found : (Theme.UserTheme.ofText lacedText "<theme>").toOption.map (fun user =>
      Theme.Base.builtin.writes user && decide (
        Theme.styleKey "button" "primary" lacedName ∈
          (Theme.Base.builtin.styleLeaves user).keys ∧
        "y" ∉ (Theme.Base.builtin.tokenLeaves user).keys ++
          (Theme.Base.builtin.styleLeaves user).keys)) = some true := by
    decide +kernel
  obtain ⟨theme, user, resolved, -, -, applied, styled, missing⟩ :=
    Resolved.exists_of_loads .builtin found
  have coheres := Resolved.coheres applied
  have inside : Theme.styleKey "button" "primary" lacedName ∈
      (Theme.flatten Theme.componentKey (Theme.Base.builtin.stylesOf (.ok user))).keys := by
    rw [Theme.keys_flatten, List.mem_eraseDups]
    exact styled
  obtain ⟨properties, style, listed⟩ := Option.bind_eq_some_iff.mp
    (coheres.indexed "button" "primary" lacedName (by decide +kernel) inside)
  have laced : ' ' :: ("var(" ++ "--y" ++ ")").toList <:+: (propertyName lacedName).toList := by
    decide +kernel
  have line := line_within (Table.mem_of_get? style) (Table.mem_of_get? listed)
  have dashed : ("--y" : String).toList = ['-', '-', 'y'] := by decide
  have whole : cut isIdentChar "--y" = "--y" := by decide +kernel
  have reads := readsAs_cut_of_within dashed (by decide)
    (laced.trans (List.IsInfix.trans ⟨[' ', ' '], _, rfl⟩ line))
  rw [whole] at reads
  have plain : IsPlain "--y" := List.all_eq_true.mp (by decide +kernel)
  have declared := every _ _ theme resolved "--y" ⟨_, reads⟩ (mem_references reads plain)
  rw [Resolved.keys_declarations] at declared
  obtain ⟨key, known, same⟩ := List.mem_map.mp declared
  rw [key_of_single same, Theme.keys_ofUser applied, List.mem_eraseDups] at known
  exact missing known

end Render

end Wireframe
