import Mathlib.Logic.Relation
import Wireframe.Proofs.Render.Declared

/-! # Cycles of references

A variable refers to another one where its value reads the name of that one. Values are free
text on all layers of a theme, and to resolve a theme no reference is followed, so a theme can
write variables that refer to themselves through others.

It has to write them itself. The built-in tokens refer to nothing, and the built-in component
styles refer to tokens alone. So a cycle passes a built-in value only on its way from a component
style to a token that the theme has given another value, and if no token of a theme refers to a
component style, a cycle stays among the tokens or among the component styles that the theme has
written (`Wireframe.Render.cycles_of_text`).
-/

namespace Wireframe.Render

open Relation (ReflTransGen TransGen)
open Theme (Resolved Variables variableName)

/-! ## References between variables -/

/-- A value names a variable: it is read as a reference, or followed as one. -/
def Names (value name : String) : Prop := Reads value name ∨ name ∈ references value

/-- A variable of a theme refers to another one. -/
structure Refers (theme : Resolved) (key other : String) : Prop where
  named : ∃ value, theme.get? key = some value ∧ Names value (variableName other)
  known : other ∈ theme.«variables».keys

/-- A reference that lies on a cycle. -/
structure Turns (theme : Resolved) (key other : String) : Prop where
  refers : Refers theme key other
  back : ReflTransGen (Refers theme) other key

/-- A variable is on a cycle if one of its references is. -/
theorem transGen_iff_turns {theme : Resolved} {key : String} :
    TransGen (Refers theme) key key ↔ ∃ other, Turns theme key other :=
  TransGen.head'_iff.trans ⟨fun ⟨other, refers, back⟩ => ⟨other, refers, back⟩,
    fun ⟨other, turns⟩ => ⟨other, turns.refers, turns.back⟩⟩

/-- After a reference on a cycle comes another one. -/
theorem Turns.next {theme : Resolved} {key other : String} (turns : Turns theme key other) :
    ∃ more, Turns theme other more := by
  rw [← transGen_iff_turns]
  exact TransGen.tail' turns.back turns.refers

/-- What a value that opens brackets in front of plain names alone can name. -/
theorem holds_of_names {p : String → Prop} {value name : String}
    (opens : Opens (fun name => IsPlain name ∧ p name) value.toList)
    (hyphens : ∀ name, p name → name.toList.head? = some '-') (names : Names value name) :
    p name := by
  have whole {isChar : Char → Bool} (closing : isChar ')' = false)
      (letters : ∀ c, isNameChar c = true → isChar c = true)
      (stands : Stands isChar value.toList name) : p name := by
    obtain ⟨other, ⟨plain, holds⟩, rfl⟩ :=
      eq_cut_of_stands closing (fun name known => hyphens name known.2) opens stands
    rwa [cut_of_plain letters plain]
  rcases names with reads | member
  · exact whole (by decide) (fun c => isIdentChar_of_nameChar) (stands_of_reads reads)
  · exact whole (by decide) (fun c letter => letter) (stands_of_mem_references member)

/-- A value without brackets in front of names names nothing. -/
theorem not_names {value name : String}
    (bare : opensThroughout (fun _ => false) value.toList = true) : ¬ Names value name := by
  intro names
  have opens := opens_of_throughout bare
  simp only [Bool.false_eq_true, and_false] at opens
  exact holds_of_names (opens.mono fun _ => False.elim) (fun _ => False.elim) names

/-- The name of a variable of a component style. -/
def IsStyleName (name : String) : Prop := "--component-".toList <+: name.toList

/-- Whether some characters begin as the name of a variable does, but not as that of one of a
component style. -/
def isOtherName (name : List Char) : Bool :=
  name.head? == some '-' && !"--component-".toList.isPrefixOf name

theorem not_isStyleName {value name : String}
    (others : opensThroughout isOtherName value.toList = true) (names : Names value name) :
    ¬ IsStyleName name := by
  have opens := opens_of_throughout others
  simp only [isOtherName, Bool.and_eq_true, beq_iff_eq, Bool.not_eq_true'] at opens
  have other := holds_of_names opens (fun _ holds => holds.1) names
  intro styled
  cases other.2.symm.trans (List.isPrefixOf_iff_prefix.mpr styled)

/-! ## Built-in values -/

theorem names_of_token {e : String × String}
    (member : e ∈ Theme.leaves "" Theme.Base.builtin.tokens) {name : String} :
    ¬ Names e.2 name := by
  have values : (Theme.leaves "" Theme.Base.builtin.tokens).all
      (fun e => opensThroughout (fun _ => false) e.2.toList) = true := by
    decide +kernel
  exact not_names (List.all_eq_true.mp values e member)

theorem names_of_style {e : String × String}
    (member : e ∈ Theme.leaves Theme.componentKey Theme.Base.builtin.styles) {name : String}
    (names : Names e.2 name) : ¬ IsStyleName name := by
  have values : (Theme.leaves Theme.componentKey Theme.Base.builtin.styles).all
      (fun e => opensThroughout isOtherName e.2.toList) = true := by
    decide +kernel
  exact not_isStyleName (List.all_eq_true.mp values e member) names

theorem isStyleName_of_isComponentKey {key : String} (styled : Theme.IsComponentKey key) :
    IsStyleName (variableName key) := by
  obtain ⟨rest, same⟩ := styled
  have first : "--component-".toList =
      '-' :: '-' :: Theme.hyphens (Theme.componentKey ++ ".").toList := by
    decide +kernel
  rw [IsStyleName, Theme.toList_variableName, first, ← same, Theme.hyphens, Theme.hyphens,
    List.map_append]
  exact List.prefix_append _ _

/-! ## Variables on cycles -/

/-- A variable has the value that it has without a user's theme. -/
def Keeps (theme : Resolved) (key : String) : Prop :=
  ∃ value, (Resolved.defaults .builtin []).get? key = some value ∧ theme.get? key = some value

/-- A variable that keeps its value and refers to another one is a built-in component style, and the
other one has not the key of a component style. -/
theorem Refers.of_keeps {theme : Resolved} {key other : String} (refers : Refers theme key other)
    (keeps : Keeps theme key) :
    key ∈ (Theme.leaves Theme.componentKey Theme.Base.builtin.styles).keys ∧
      ¬ Theme.IsComponentKey other := by
  obtain ⟨⟨value, found, names⟩, -⟩ := refers
  obtain ⟨held, built, same⟩ := keeps
  obtain rfl := Option.some.inj (found.symm.trans same)
  have last := (Theme.variables_of_leaves Theme.Base.builtin.tokens none
    (some Theme.Base.builtin.styles) []).2.1 key
  rcases List.mem_append.mp (Table.mem_of_lastValue? (last.symm.trans built)) with token | style
  · rw [Option.getD_none, Theme.leaves, List.append_nil] at token
    exact absurd names (names_of_token token)
  · refine ⟨List.mem_map_of_mem style, fun styled => names_of_style style names ?_⟩
    exact isStyleName_of_isComponentKey styled

/-- The leaves of the tokens that come of loading a theme. -/
def givenTokens (loaded : Except Theme.Failure Theme.UserTheme) : Variables :=
  Theme.leaves "" ((Theme.tokensOf loaded).getD [])

/-- The leaves of the component styles in force after loading a theme over the built-in one. -/
def stylesInForce (loaded : Except Theme.Failure Theme.UserTheme) : Variables :=
  Theme.leaves Theme.componentKey (Theme.Base.builtin.stylesOf loaded)

theorem isComponentKey_of_stylesInForce {loaded : Except Theme.Failure Theme.UserTheme}
    {key : String} (member : key ∈ (stylesInForce loaded).keys) : Theme.IsComponentKey key :=
  Theme.leaves_below (by decide) _ key member

section

variable {loaded : Except Theme.Failure Theme.UserTheme} {theme : Resolved}
  (applied : Resolved.ofUser .builtin loaded = .ok theme)

include applied

/-- A variable has its value from a built-in token, from a token that the theme gives or from a
component style. -/
theorem mem_layers {key value : String} (found : theme.get? key = some value) :
    (key, value) ∈
      Theme.leaves "" Theme.Base.builtin.tokens ++ givenTokens loaded ++ stylesInForce loaded := by
  have last := (Theme.variables_of_leaves Theme.Base.builtin.tokens (Theme.tokensOf loaded)
    (some (Theme.Base.builtin.stylesOf loaded)) theme.diagnostics).2.1 key
  rw [← Resolved.eq_resolve applied] at last
  exact Table.mem_of_lastValue? (last.symm.trans found)

/-- A token that refers to anything is one that the theme gives. -/
theorem Refers.mem_givenTokens {key other : String} (refers : Refers theme key other)
    (token : key ∉ (stylesInForce loaded).keys) : key ∈ (givenTokens loaded).keys := by
  obtain ⟨⟨value, found, names⟩, -⟩ := refers
  rcases List.mem_append.mp (mem_layers applied found) with tokens | style
  · rcases List.mem_append.mp tokens with built | given
    · exact absurd names (names_of_token built)
    · exact List.mem_map_of_mem given
  · exact absurd (List.mem_map_of_mem style) token

/-- Where the tokens that a theme gives refer to nothing, and component styles to no component style,
each reference leads from a component style to a token. -/
theorem Refers.of_leaf_layer (literal : ∀ e ∈ givenTokens loaded, ∀ name, ¬ Names e.2 name)
    (leaf : ∀ e ∈ stylesInForce loaded, ∀ name, Names e.2 name → ¬ IsStyleName name)
    {key other : String} (refers : Refers theme key other) :
    key ∈ (stylesInForce loaded).keys ∧ other ∉ (stylesInForce loaded).keys := by
  obtain ⟨⟨value, found, names⟩, -⟩ := refers
  rcases List.mem_append.mp (mem_layers applied found) with tokens | style
  · rcases List.mem_append.mp tokens with built | given
    · exact absurd names (names_of_token built)
    · exact absurd names (literal _ given _)
  · refine ⟨List.mem_map_of_mem style, fun styled => leaf _ style _ names ?_⟩
    exact isStyleName_of_isComponentKey (isComponentKey_of_stylesInForce styled)

/-- What a variable that keeps its value refers to on a cycle is a token that the theme gives another
value. -/
theorem Turns.of_keeps {key other : String} (turns : Turns theme key other)
    (keeps : Keeps theme key) :
    key ∈ (Theme.leaves Theme.componentKey Theme.Base.builtin.styles).keys ∧
      other ∉ (stylesInForce loaded).keys ∧ other ∈ (givenTokens loaded).keys ∧
        ¬ Keeps theme other := by
  obtain ⟨built, unlike⟩ := turns.refers.of_keeps keeps
  obtain ⟨more, next⟩ := turns.next
  have token : other ∉ (stylesInForce loaded).keys := fun member =>
    unlike (isComponentKey_of_stylesInForce member)
  refine ⟨built, token, next.refers.mem_givenTokens applied token, fun keeps => unlike ?_⟩
  exact Theme.leaves_below (by decide) _ other (next.refers.of_keeps keeps).1

/-- Without a user's theme, and where that is refused, all variables keep their values. -/
theorem keeps_of_refused (refused : theme.diagnostics ≠ []) {key value : String}
    (found : theme.get? key = some value) : Keeps theme key := by
  refine ⟨value, ?_, found⟩
  cases loaded with
  | ok user =>
      obtain ⟨-, rfl⟩ := Resolved.ofUser_eq_ok.mp applied
      exact absurd rfl refused
  | error failure =>
      cases failure with
      | broken cause => cases applied
      | refused refusal =>
          rw [← Except.ok.inj applied] at found
          exact found

/-- There is no cycle where only values that are kept refer to anything. -/
theorem not_transGen_of_keeps (kept : ∀ key other, Refers theme key other → Keeps theme key)
    (key : String) : ¬ TransGen (Refers theme) key key := by
  intro cycle
  obtain ⟨other, turns⟩ := transGen_iff_turns.mp cycle
  obtain ⟨more, next⟩ := turns.next
  exact (turns.of_keeps applied (kept key other turns.refers)).2.2.2 (kept other more next.refers)

end

/-- **Cycles of references.** Under the theme of a text over the built-in one, each token on a cycle
is one that the text gives. Where a cycle passes a variable with its built-in value, this is a
built-in component style, and it comes to a token that the text gives another value. So there is no
cycle if the text is refused, or if it gives no value that refers to anything. If no token refers
to a component style, a cycle stays among the tokens or among the component styles, and passes no
built-in one of these. If the tokens of the text refer to nothing, and component styles to no
component style, there is no cycle. -/
theorem cycles_of_text {content source : String} {theme : Resolved}
    (resolved : Resolved.ofText .builtin (some content) source = .ok theme) :
    let given := givenTokens (Theme.UserTheme.ofText content source)
    let styles := stylesInForce (Theme.UserTheme.ofText content source)
    (∀ key other, Turns theme key other → key ∈ styles.keys ∨ key ∈ given.keys) ∧
    (∀ key other, Turns theme key other → Keeps theme key →
      key ∈ (Theme.leaves Theme.componentKey Theme.Base.builtin.styles).keys ∧
        other ∉ styles.keys ∧ other ∈ given.keys ∧ ¬ Keeps theme other) ∧
    (theme.diagnostics ≠ [] ∨ (∀ key other, Refers theme key other → Keeps theme key) →
      ∀ key, ¬ TransGen (Refers theme) key key) ∧
    ((∀ key ∉ styles.keys, ∀ other ∈ styles.keys, ¬ Refers theme key other) →
      ∀ key other, Turns theme key other →
        (key ∈ styles.keys ↔ other ∈ styles.keys) ∧ (key ∈ styles.keys → ¬ Keeps theme key)) ∧
    ((∀ e ∈ given, ∀ name, ¬ Names e.2 name) →
      (∀ e ∈ styles, ∀ name, Names e.2 name → ¬ IsStyleName name) →
      ∀ key, ¬ TransGen (Refers theme) key key) := by
  intro given styles
  have applied : Resolved.ofUser .builtin (Theme.UserTheme.ofText content source) = .ok theme :=
    resolved
  refine ⟨fun key other turns => ?_, fun key other turns => turns.of_keeps applied, ?_,
    fun closed key other turns => ?_, fun literal leaf key cycle => ?_⟩
  · by_cases style : key ∈ styles.keys
    · exact .inl style
    · exact .inr (turns.refers.mem_givenTokens applied style)
  · rintro (refused | kept)
    · refine not_transGen_of_keeps applied fun key other refers => ?_
      obtain ⟨value, found, -⟩ := refers.named
      exact keeps_of_refused applied refused found
    · exact not_transGen_of_keeps applied kept
  · have stays {start last : String} (token : start ∉ styles.keys)
        (run : ReflTransGen (Refers theme) start last) : last ∉ styles.keys := by
      induction run with
      | refl => exact token
      | tail _ refers ih => exact fun member => closed _ ih _ member refers
    have same : key ∈ styles.keys ↔ other ∈ styles.keys :=
      not_iff_not.mp ⟨fun token => stays token (.single turns.refers),
        fun token => stays token turns.back⟩
    exact ⟨same, fun member keeps => (turns.of_keeps applied keeps).2.1 (same.mp member)⟩
  · obtain ⟨other, refers, -⟩ := TransGen.head'_iff.mp cycle
    obtain ⟨last, -, returns⟩ := TransGen.tail'_iff.mp cycle
    exact (returns.of_leaf_layer applied literal leaf).2
      (refers.of_leaf_layer applied literal leaf).1

/-- The value that refers to a variable. -/
def reference (key : String) : String := "var(" ++ variableName key ++ ")"

/-- The key of a style of a card. -/
def cardKey : String := "component.card.big.color"

theorem dashed_cardKey : IsDashed (variableName cardKey) :=
  ⟨⟨'c', "omponent-card-big-color".toList, by decide +kernel⟩,
    List.all_eq_true.mp (by decide +kernel)⟩

theorem dashed_single : IsDashed (variableName "a") :=
  ⟨⟨'a', [], by decide +kernel⟩, List.all_eq_true.mp (by decide +kernel)⟩

/-- A theme gives one token, and beside the built-in component styles one for a card that refers to
that token. -/
structure Tints (user : Theme.UserTheme) (value : String) : Prop where
  tokens : Theme.leaves "" user.tokenTree = [("a", value)]
  styles : Theme.Base.builtin.styleLeaves user =
    Theme.leaves Theme.componentKey Theme.Base.builtin.styles ++ [(cardKey, reference "a")]

instance (user : Theme.UserTheme) (value : String) : Decidable (Tints user value) :=
  decidable_of_iff (Theme.leaves "" user.tokenTree = [("a", value)] ∧
    Theme.Base.builtin.styleLeaves user =
      Theme.leaves Theme.componentKey Theme.Base.builtin.styles ++ [(cardKey, reference "a")])
    ⟨fun both => ⟨both.1, both.2⟩, fun tints => ⟨tints.tokens, tints.styles⟩⟩

section

variable {user : Theme.UserTheme} {value : String} {theme : Resolved} (tints : Tints user value)

include tints

theorem Tints.mem_styles : cardKey ∈ (Theme.Base.builtin.styleLeaves user).keys := by
  rw [tints.styles, Table.keys_append]
  exact List.mem_append_right _ List.mem_cons_self

/-- The style of the card refers to the token. -/
theorem Tints.refers (applied : Resolved.ofUser .builtin (.ok user) = .ok theme) :
    Refers theme cardKey "a" := by
  refine ⟨⟨reference "a", ?_, .inl ⟨_, readsAs_var dashed_single⟩⟩, ?_⟩
  · rw [Theme.get?_ofUser applied tints.mem_styles, tints.styles, Table.lastValue?_append,
      Table.lastValue?_singleton]
    simp
  · rw [Theme.keys_ofUser applied, List.mem_eraseDups, Theme.Base.tokenLeaves, tints.tokens,
      Table.keys_append]
    exact List.mem_append_left _ (List.mem_append_right _ List.mem_cons_self)

end

/-- The text of a theme with a token and a card that refers to it. -/
def tintedText (value : String) : String :=
  "theme: \x7btokens: \x7ba: " ++ value ++ "\x7d, " ++
    "components: \x7bcard: \x7bbig: \x7bcolor: var(--a)\x7d\x7d\x7d\x7d"

/-- A component style that refers to a token closes no cycle. -/
theorem no_cycle_of_tinted :
    ∃ theme, Resolved.ofText .builtin (some (tintedText "red")) "<theme>" = .ok theme ∧
      theme.diagnostics = [] ∧ Refers theme cardKey "a" ∧
      ∀ key, ¬ TransGen (Refers theme) key key := by
  have found : (Theme.UserTheme.ofText (tintedText "red") "<theme>").toOption.map (fun user =>
      Theme.Base.builtin.writes user && decide (Tints user "red")) = some true := by
    decide +kernel
  obtain ⟨theme, user, resolved, loads, loaded, applied, tints⟩ :=
    Resolved.exists_of_loads .builtin found
  obtain ⟨-, -, -, -, acyclic⟩ := cycles_of_text resolved
  rw [loaded] at acyclic
  refine ⟨theme, resolved, loads, tints.refers applied, acyclic ?_ ?_⟩
  · change ∀ e ∈ Theme.leaves "" user.tokenTree, ∀ name, ¬ Names e.2 name
    rw [tints.tokens, List.forall_mem_singleton]
    exact fun name => not_names (by decide +kernel)
  · change ∀ e ∈ Theme.Base.builtin.styleLeaves user, _
    rw [tints.styles, List.forall_mem_append, List.forall_mem_singleton]
    exact ⟨fun e member name => names_of_style member,
      fun name => not_isStyleName (by decide +kernel)⟩

/-- A token that refers to the style of a card, which refers back to the token. -/
theorem cycle_of_tinted :
    ¬ ∀ (content source : String) (theme : Resolved),
      Resolved.ofText .builtin (some content) source = .ok theme → theme.diagnostics = [] →
      let styles := (stylesInForce (Theme.UserTheme.ofText content source)).keys
      (∀ key, ¬ TransGen (Refers theme) key key) ∨
        ∀ key ∉ styles, ∀ other ∈ styles, ¬ Refers theme key other := by
  intro every
  have found : (Theme.UserTheme.ofText (tintedText (reference cardKey)) "<theme>").toOption.map
      (fun user => Theme.Base.builtin.writes user && decide (Tints user (reference cardKey))) =
      some true := by
    decide +kernel
  obtain ⟨theme, user, resolved, loads, loaded, applied, tints⟩ :=
    Resolved.exists_of_loads .builtin found
  have card := tints.mem_styles
  have token : "a" ∉ (Theme.Base.builtin.styleLeaves user).keys := fun member =>
    absurd (Theme.isComponentKey_of_styleLeaves member) (by decide +kernel)
  have back : Refers theme "a" cardKey := by
    refine ⟨⟨reference cardKey, ?_, .inl ⟨_, readsAs_var dashed_cardKey⟩⟩, ?_⟩
    · rw [Resolved.get?, Theme.variables_ofUser applied, Table.get?_putAll,
        Table.lastValue?_append, Table.lastValue?_eq_none token, Theme.Base.tokenLeaves,
        Table.lastValue?_append, tints.tokens, Table.lastValue?_singleton]
      simp
    · rw [Theme.keys_ofUser applied, List.mem_eraseDups]
      exact List.mem_append_right _ card
  rcases every _ _ theme resolved loads with acyclic | closed
  · exact acyclic "a" (.tail (.single back) (tints.refers applied))
  · rw [loaded] at closed
    exact closed "a" token cardKey card back

end Wireframe.Render
