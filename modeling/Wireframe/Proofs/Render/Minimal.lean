import Wireframe.Proofs.Render.Classes
import Wireframe.Proofs.Render.Reached

/-! # The variables that style a fragment

A fragment comes with the names of some variables of its theme. They suffice if the rules that
match its elements read no other ones, neither themselves nor through the values of variables:
then the block that declares these variables alone gives each of them the value that the block
of all variables gives it (`Wireframe.Render.suffices_of_closed`).

The structural rules read no other ones under any theme. The component styles of a theme do not
either if their kinds are in lower case, as the classes of elements are, and none of them is for
the groups of a form, whose classes no style of a node is looked up under
(`Wireframe.Render.variables_suffice`).
-/

namespace Wireframe.Render

open Document
open Theme (Resolved Variables variableName propertyName componentClass)

/-! ## Rules of a theme -/

/-- The rule of a component style. -/
def styleRule (style : (String × String) × Variables) : Rule :=
  ⟨["." ++ componentClass style.1.1 style.1.2],
    style.2.map fun (property, key) => (propertyName property, "var(" ++ variableName key ++ ")")⟩

/-- The block that declares the variables of a theme; with a list of names, only those. -/
def rootBlock (theme : Resolved) (only : Option (List String)) : Rule :=
  ⟨[":root"],
    (theme.«variables».map fun (key, value) => (variableName key, value)).filter fun e =>
      (only.map (·.contains e.1)).getD true⟩

theorem rootRule_eq (theme : Resolved) (only : Option (List String)) :
    theme.rootRule only 2 = (rootBlock theme only).text := by
  have lines (vars : Variables) :
      (vars.filterMap fun (key, value) =>
        if (only.map (·.contains (variableName key))).getD true then
          some (Theme.indentation 2 ++ variableName key ++ ": " ++ value ++ ";") else none) =
      ((vars.map fun (key, value) => (variableName key, value)).filter fun e =>
        (only.map (·.contains e.1)).getD true).map
          fun (name, value) => "  " ++ name ++ ": " ++ value ++ ";" := by
    induction vars with
    | nil => rfl
    | cons e rest ih =>
        rw [List.filterMap_cons, List.map_cons, List.filter_cons]
        split_ifs
        · simp_all
          rfl
        · simp_all
  rw [Resolved.rootRule, Rule.text, rootBlock]
  exact congrArg (fun lines => "\n".intercalate ([":root \x7b"] ++ lines ++ ["\x7d"])) (lines _)

theorem componentRules_eq (theme : Resolved) :
    theme.componentRules 2 =
      "\n".intercalate ((theme.components.map styleRule).map Rule.text) := by
  rw [Resolved.componentRules, List.map_map]
  congr 1
  refine List.map_congr_left fun style _ => ?_
  obtain ⟨⟨kind, variant⟩, properties⟩ := style
  have lines : (properties.map fun (property, key) =>
      Theme.indentation 2 ++ propertyName property ++ ": var(" ++ variableName key ++ ");") =
      (styleRule ((kind, variant), properties)).declarations.map fun (property, value) =>
        "  " ++ property ++ ": " ++ value ++ ";" := by
    rw [styleRule, List.map_map]
    refine List.map_congr_left fun e _ => ?_
    have opening : (": var(" : String) = ": " ++ "var(" := by decide
    have closing : (");" : String) = ")" ++ ";" := by decide
    simp only [Function.comp_apply, opening, closing, String.append_assoc]
    rfl
  exact congrArg (fun lines =>
    "\n".intercalate (["." ++ componentClass kind variant ++ " \x7b"] ++ lines ++ ["\x7d"])) lines

/-- The rules that style a fragment under a theme: those of `structuralSheet`, and those that the
theme prints (`Wireframe.Render.componentRules_eq`). -/
def rules (theme : Resolved) : List Rule := structuralRules ++ theme.components.map styleRule

/-- A selector of the rule names a class that an element carries. -/
def Rule.Matches (rule : Rule) (trees : List Markup) : Prop :=
  ∃ name ∈ rule.classNames, name ∈ carried trees

/-- A declaration of the rule refers to a variable. -/
def Rule.Reads (rule : Rule) (name : String) : Prop :=
  ∃ e ∈ rule.declarations, Render.Reads e.2 name

/-- The value that a block gives a variable: of several declarations the last one counts. -/
def Rule.value? (rule : Rule) (name : String) : Option String :=
  Table.lastValue? rule.declarations name

/-- The value of a variable among all variables of a theme. -/
def valueIn? (theme : Resolved) (name : String) : Option String :=
  (rootBlock theme none).value? name

/-! ## Names that suffice -/

/-- A variable that trees need under a theme: a rule that matches them reads it, or the value of
another variable that they need. -/
inductive Needed (trees : List Markup) (theme : Resolved) : String → Prop where
  | read {rule : Rule} {name : String} (member : rule ∈ rules theme) (fits : rule.Matches trees)
    (reads : rule.Reads name) : Needed trees theme name
  | through {name other value : String} (needed : Needed trees theme name)
    (given : valueIn? theme name = some value) (reads : Reads value other) :
    Needed trees theme other

/-- Names of variables under which trees look as they do under all variables of a theme. -/
structure Suffices (trees : List Markup) (theme : Resolved) (names : List String) : Prop where
  read : ∀ rule ∈ rules theme, rule.Matches trees → ∀ name, rule.Reads name →
    (valueIn? theme name).isSome → name ∈ names
  closed : ∀ name ∈ names, ∀ value, valueIn? theme name = some value → ∀ other,
    Reads value other → (valueIn? theme other).isSome → other ∈ names
  same : ∀ name, Needed trees theme name →
    (rootBlock theme (some names)).value? name = valueIn? theme name

theorem value?_rootBlock (theme : Resolved) (names : List String) (name : String) :
    (rootBlock theme (some names)).value? name =
      if name ∈ names then valueIn? theme name else none := by
  have chosen := Table.lastValue?_filter (fun other => names.contains other)
    (theme.«variables».map fun (key, value) => (variableName key, value)) name
  have all : valueIn? theme name = Table.lastValue?
      (theme.«variables».map fun (key, value) => (variableName key, value)) name := by
    rw [valueIn?, Rule.value?, rootBlock]
    simp
  rw [all, Rule.value?, rootBlock]
  simpa using chosen

/-- Names suffice if they take in what is read and what their own values read. -/
theorem suffices_of_closed {trees : List Markup} {theme : Resolved} {names : List String}
    (read : ∀ rule ∈ rules theme, rule.Matches trees → ∀ name, rule.Reads name →
      (valueIn? theme name).isSome → name ∈ names)
    (closed : ∀ name ∈ names, ∀ value, valueIn? theme name = some value → ∀ other,
      Reads value other → (valueIn? theme other).isSome → other ∈ names) :
    Suffices trees theme names := by
  have taken {name : String} (needed : Needed trees theme name)
      (defined : (valueIn? theme name).isSome) : name ∈ names := by
    induction needed with
    | read member fits reads => exact read _ member fits _ reads defined
    | through needed given reads ih =>
        exact closed _ (ih (by rw [given]; rfl)) _ given _ reads defined
  refine ⟨read, closed, fun name needed => ?_⟩
  rw [value?_rootBlock]
  split_ifs with member
  · rfl
  · cases defined : valueIn? theme name with
    | none => rfl
    | some value => exact absurd (taken needed (by rw [defined]; rfl)) member

/-- The block of all variables gives a name the value that is followed from it. -/
theorem valueIn?_eq (theme : Resolved) (name : String) :
    valueIn? theme name = (named theme).get? name := by
  rw [valueIn?, Rule.value?, rootBlock, named, Table.get?_putAll]
  simp [Table.get?]

theorem mem_keys_named {theme : Resolved} {name : String}
    (defined : (valueIn? theme name).isSome) : name ∈ (named theme).keys := by
  by_contra missing
  rw [valueIn?_eq, Table.get?_eq_none missing] at defined
  cases defined

/-! ## Structural rules -/

theorem plain_structural :
    ∀ rule ∈ structuralRules, ∀ e ∈ rule.declarations, plainThroughout e.2.toList = true := by
  decide +kernel

/-- The structural rules that match a rendered document read variables that it depends on. -/
theorem mem_variables_of_structural {d : Document} {theme : Resolved} {rule : Rule} {name : String}
    (member : rule ∈ structuralRules) (fits : rule.Matches [Outline.page d.page])
    (reads : rule.Reads name) (defined : (valueIn? theme name).isSome) :
    name ∈ Render.variables d theme := by
  obtain ⟨class_, named, carried⟩ := fits
  obtain ⟨look, inside, known, wears⟩ := carried_page d carried
  have kind : look.1 ∈ Kind.page :: Kind.components := by cases look.1 <;> decide
  obtain ⟨owner, own, owned⟩ :=
    owned_of_worn rule member class_ named look.1 kind look.2 known wears
  obtain ⟨e, declared, word, reads⟩ := reads
  obtain ⟨rfl, plain⟩ :=
    isPlainValue_of_throughout (plain_structural rule member e declared) word name reads
  have refers : name ∈ rule.references :=
    List.mem_flatMap.mpr ⟨e, declared, mem_references reads plain⟩
  refine mem_variables (mem_keys_named defined) (List.mem_flatMap.mpr ⟨look, inside, ?_⟩)
  refine List.mem_append_left _ (List.mem_flatMap.mpr ⟨owner, own, ?_⟩)
  exact List.mem_flatMap.mpr ⟨rule, List.mem_filter.mpr ⟨member, owned⟩, refers⟩

/-! ## Component styles -/

/-- A component style that nodes can have: its kind is in lower case, it is not that of a group of
a form, and all names are ones that a style sheet can hold. -/
structure IsTidy (style : (String × String) × Variables) : Prop where
  lower : Text.lower style.1.1 = style.1.1
  single : style.1 ∉ formGroups
  idents : ∀ c ∈ style.1.1.toList ++ style.1.2.toList, isIdentChar c = true
  dashed : ∀ e ∈ style.2, IsDashed (variableName e.2)

theorem selectorClasses_of_idents {name : String}
    (idents : ∀ c ∈ name.toList, isIdentChar c = true) :
    selectorClasses ("." ++ name) = [name] := by
  have whole : ∀ c ∈ name.toList, (c == '.') = false := by
    intro c member
    rw [beq_eq_false_iff_ne]
    rintro rfl
    exact absurd (idents _ member) (by decide)
  have pieces : ("." ++ name).toList.splitOnP (· == '.') = [[], name.toList] := by
    have point : ("." ++ name).toList = '.' :: name.toList := by simp [String.toList_append]
    rw [point, List.splitOnP_cons_eq_if_modifyHead, if_pos (by decide),
      List.splitOnP_eq_singleton whole]
  rw [selectorClasses, pieces, List.drop_one, List.tail_cons, List.map_singleton,
    List.takeWhile_eq_self_iff.mpr idents, String.ofList_toList]

/-- The rule of a tidy style names the class of its kind and variant. -/
theorem classNames_styleRule {style : (String × String) × Variables} (tidy : IsTidy style) :
    (styleRule style).classNames = [componentClass style.1.1 style.1.2] := by
  have letters : ∀ c ∈ "textui-".toList, isIdentChar c = true :=
    List.all_eq_true.mp (by decide)
  have single : (styleRule style).classNames =
      selectorClasses ("." ++ componentClass style.1.1 style.1.2) := by
    rw [Rule.classNames, styleRule, List.flatMap_singleton]
  rw [single]
  refine selectorClasses_of_idents fun c member => ?_
  rw [toList_componentClass, tidy.lower] at member
  simp only [List.mem_append, List.mem_cons] at member
  rcases member with first | kind | rfl | variant
  · exact letters c first
  · exact tidy.idents c (List.mem_append_left _ kind)
  · decide
  · exact tidy.idents c (List.mem_append_right _ variant)

/-- The tidy component styles that match a rendered document read variables that it depends on. -/
theorem mem_variables_of_style {d : Document} {theme : Resolved}
    {style : (String × String) × Variables} {name : String}
    (distinct : theme.components.keys.Nodup) (member : style ∈ theme.components)
    (fits : (styleRule style).Matches [Outline.page d.page]) (tidy : IsTidy style)
    (reads : (styleRule style).Reads name) (defined : (valueIn? theme name).isSome) :
    name ∈ Render.variables d theme := by
  obtain ⟨class_, named, carried⟩ := fits
  rw [classNames_styleRule tidy] at named
  obtain rfl := List.mem_singleton.mp named
  obtain ⟨look, inside, known, wears⟩ := carried_page d carried
  have own : Text.lower style.1.1 = Text.lower look.1.name ∧ some style.1.2 = look.2 := by
    refine (look_of_worn known wears).resolve_right fun group => tidy.single ?_
    rw [tidy.lower] at group
    exact group
  have found : theme.components.get? (Text.lower look.1.name, style.1.2) = some style.2 := by
    refine Table.get?_of_mem distinct ?_
    rw [← own.1, tidy.lower]
    exact member
  obtain ⟨e, declared, word, reads⟩ := reads
  obtain ⟨property, listed, rfl⟩ := List.mem_map.mp declared
  obtain rfl := eq_of_readsAs (tidy.dashed property listed) reads
  refine mem_variables (mem_keys_named defined) (List.mem_flatMap.mpr ⟨look, inside, ?_⟩)
  refine List.mem_append_right _ ?_
  rw [← own.2]
  dsimp only
  rw [found]
  exact List.mem_map_of_mem listed

theorem nodup_index {components : Table (String × String) Variables}
    (distinct : components.keys.Nodup) (keys : List String) :
    (keys.foldl Theme.index components).keys.Nodup := by
  induction keys generalizing components with
  | nil => exact distinct
  | cons key keys ih =>
      refine ih ?_
      unfold Theme.index
      split
      · exact Table.nodup_put distinct _ _
      · exact distinct

/-- A theme has one style for each kind and variant. -/
theorem nodup_components {base : Theme.Base} {content : Option String} {source : String}
    {theme : Resolved} (resolved : Resolved.ofText base content source = .ok theme) :
    theme.components.keys.Nodup := by
  have fresh : (Table.keys ([] : Table (String × String) Variables)).Nodup := List.nodup_nil
  unfold Resolved.ofText at resolved
  split at resolved
  · cases resolved
    exact nodup_index fresh _
  · unfold Resolved.ofUser at resolved
    split at resolved
    · split at resolved
      · cases resolved
        exact nodup_index fresh _
      · cases resolved
    · cases resolved
      exact nodup_index fresh _
    · cases resolved

/-! ## Fragments -/

theorem plain_of_valueIn? {theme : Resolved} {name value : String}
    (plain : ∀ e ∈ theme.«variables», IsPlainValue e.2) (found : valueIn? theme name = some value) :
    IsPlainValue value := by
  have inside := List.mem_reverse.mp (Table.mem_of_get? found)
  obtain ⟨e, listed, same⟩ := List.mem_map.mp (List.mem_of_mem_filter inside)
  rw [← (Prod.mk.inj same).2]
  exact plain e listed

/-- **Variables of a fragment.** Of the variables of its theme, a fragment comes with all that the
matching structural rules read, all that the matching tidy component styles read, and all that the
values of these variables refer to in plain letters. So its variables suffice where every matching
component style is tidy and every value of the theme is in plain letters. -/
theorem variables_suffice {base : Theme.Base} {content : Option String} {source : String}
    {theme : Resolved} (resolved : Resolved.ofText base content source = .ok theme)
    (d : Document) :
    ∃ trees, Markup.read (fragment d theme).markup = .ok trees ∧
      let names := (fragment d theme).«variables»
      (∀ rule ∈ structuralRules, rule.Matches trees → ∀ name, rule.Reads name →
        (valueIn? theme name).isSome → name ∈ names) ∧
      (∀ style ∈ theme.components, (styleRule style).Matches trees → IsTidy style →
        ∀ name, (styleRule style).Reads name → (valueIn? theme name).isSome → name ∈ names) ∧
      (∀ name ∈ names, ∀ value, valueIn? theme name = some value → ∀ other,
        ReadsAs ['v', 'a', 'r'] value other → IsPlain other → (valueIn? theme other).isSome →
          other ∈ names) ∧
      ((∀ style ∈ theme.components, (styleRule style).Matches trees → IsTidy style) →
        (∀ e ∈ theme.«variables», IsPlainValue e.2) → Suffices trees theme names) := by
  have drop {rule : Rule} (fits : rule.Matches (Markup.dropBlanks [Outline.page d.page])) :
      rule.Matches [Outline.page d.page] := by
    rwa [Rule.Matches, carried_dropBlanks] at fits
  have distinct := nodup_components resolved
  have closed : ∀ name ∈ Render.variables d theme, ∀ value, valueIn? theme name = some value →
      ∀ other, ReadsAs ['v', 'a', 'r'] value other → IsPlain other →
        (valueIn? theme other).isSome → other ∈ Render.variables d theme := by
    intro name member value found other reads plain defined
    rw [valueIn?_eq] at found
    exact variables_closed member found (mem_references reads plain) (mem_keys_named defined)
  refine ⟨_, read_page d.page, ?_, ?_, closed, fun tidy plain => ?_⟩
  · exact fun rule member fits name reads defined =>
      mem_variables_of_structural member (drop fits) reads defined
  · exact fun style member fits tidy name reads defined =>
      mem_variables_of_style distinct member (drop fits) tidy reads defined
  · refine suffices_of_closed (fun rule member fits name reads defined => ?_)
      fun name member value found other reads defined => ?_
    · rcases List.mem_append.mp member with structural | styled
      · exact mem_variables_of_structural structural (drop fits) reads defined
      · obtain ⟨style, listed, rfl⟩ := List.mem_map.mp styled
        exact mem_variables_of_style distinct listed (drop fits) (tidy style listed fits) reads
          defined
    · obtain ⟨word, reads⟩ := reads
      obtain ⟨rfl, letters⟩ := plain_of_valueIn? plain found word other reads
      exact closed name member value found other reads letters defined

/-! ## A style before a token -/

theorem eq_ok_of_toOption {ε α : Type} {x : Except ε α} {a : α} (found : x.toOption = some a) :
    x = .ok a := by
  cases x with
  | error e => cases found
  | ok b => exact congrArg Except.ok (Option.some.inj found)

/-- The documents whose nodes look in some way. -/
theorem exists_of_styled {source : Source} {looks : List (Kind × Option String)}
    (found : (Document.ofSource source).toOption.map Render.styled = some looks) :
    ∃ d, Document.ofSource source = .ok d ∧ Render.styled d = looks := by
  obtain ⟨d, parsed, styled⟩ := Option.map_eq_some_iff.mp found
  exact ⟨d, eq_ok_of_toOption parsed, styled⟩

/-- A token, and a style for pages that refers to it. -/
def chainedTheme : Resolved :=
  ⟨[("a", "red"), ("component.page.vertical.color", "var(--a)")],
    [(("page", "vertical"), [("color", "component.page.vertical.color")])], [], false⟩

theorem tidy_chainedTheme : ∀ style ∈ chainedTheme.components, IsTidy style := by
  intro style member
  obtain rfl := List.mem_singleton.mp member
  refine ⟨by decide +kernel, by decide, List.all_eq_true.mp (by decide +kernel),
    fun e listed => ?_⟩
  obtain rfl := List.mem_singleton.mp listed
  exact ⟨⟨'c', "omponent-page-vertical-color".toList, by decide +kernel⟩,
    List.all_eq_true.mp (by decide +kernel)⟩

/-- The style of a page leads on to the token. -/
theorem variables_suffice_chained :
    let content := "theme: \x7btokens: \x7ba: red\x7d, " ++
      "components: \x7bpage: \x7bvertical: \x7bcolor: var(--a)\x7d\x7d\x7d\x7d"
    Resolved.ofText .bare (some content) "<theme>" = .ok chainedTheme ∧
      ∃ d, Document.ofSource (.text "page: \x7b\x7d") = .ok d ∧
        ∃ trees, Markup.read (fragment d chainedTheme).markup = .ok trees ∧
          Suffices trees chainedTheme (fragment d chainedTheme).«variables» ∧
          "--a" ∈ (fragment d chainedTheme).«variables» := by
  intro content
  have given : (Resolved.ofText .bare (some content) "<theme>").toOption =
      some chainedTheme := by
    decide +kernel
  have looks : (Document.ofSource (.text "page: \x7b\x7d")).toOption.map Render.styled =
      some [(.page, some "vertical")] := by
    decide +kernel
  have resolved := eq_ok_of_toOption given
  obtain ⟨d, parsed, styled⟩ := exists_of_styled looks
  obtain ⟨trees, read, -, -, -, whole⟩ := variables_suffice resolved d
  have plain : ∀ e ∈ chainedTheme.«variables», plainThroughout e.2.toList = true := by
    decide +kernel
  have enough := whole (fun style member _ => tidy_chainedTheme style member)
    fun e member => isPlainValue_of_throughout (plain e member)
  have first : "--component-page-vertical-color" ∈ (fragment d chainedTheme).«variables» := by
    refine mem_variables (by decide +kernel) ?_
    rw [referred, styled]
    decide +kernel
  refine ⟨resolved, d, parsed, trees, read, enough, ?_⟩
  have token : IsDashed "--a" :=
    ⟨⟨'a', [], by decide +kernel⟩, List.all_eq_true.mp (by decide +kernel)⟩
  exact enough.closed _ first ("var(" ++ "--a" ++ ")") (by decide +kernel) "--a"
    ⟨_, readsAs_var token⟩ (by decide +kernel)

/-! ## A kind in capitals -/

/-- A style whose kind is spelled as in documents. -/
def capitalTheme : Resolved :=
  ⟨[("component.Text.p.color", "red")], [(("Text", "p"), [("color", "component.Text.p.color")])],
    [], false⟩

/-- A class is in lower case, so the style matches a text, but the style is looked up under the kind
in lower case, where it is not. -/
theorem capital_style_unread :
    ¬ ∀ (base : Theme.Base) (content label : String) (theme : Resolved) (source : Source)
      (d : Document) (trees : List Markup),
      Resolved.ofText base (some content) label = .ok theme → Document.ofSource source = .ok d →
      Markup.read (fragment d theme).markup = .ok trees →
      Suffices trees theme (fragment d theme).«variables» := by
  intro every
  have given : (Resolved.ofText .bare
      (some "theme: \x7bcomponents: \x7bText: \x7bp: \x7bcolor: red\x7d\x7d\x7d\x7d")
      "<theme>").toOption = some capitalTheme := by
    decide +kernel
  let source := Source.text "page: \x7bcomponents: [Text: \x7bvalue: x, variant: p\x7d]\x7d"
  have sole : (Document.ofSource source).toOption.bind soleText? = some ⟨none, .p, "x"⟩ := by
    decide +kernel
  have looks : (Document.ofSource source).toOption.map Render.styled =
      some [(.page, some "vertical"), (.text, some "p")] := by
    decide +kernel
  obtain ⟨d, parsed, styled⟩ := exists_of_styled looks
  obtain ⟨_, again, attributes, outline⟩ := outline_soleText sole
  obtain rfl := Except.ok.inj (parsed.symm.trans again)
  have enough := every _ _ _ _ _ d _ (eq_ok_of_toOption given) parsed (read_page d.page)
  have inside : "textui-text-p" ∈ carried [Outline.textBlock ⟨none, .p, "x"⟩] := by
    rw [Outline.textBlock, carried_classed (by decide)]
    exact List.mem_append_left _ (by decide +kernel)
  have carries : "textui-text-p" ∈ carried (Markup.dropBlanks [Outline.page d.page]) := by
    rw [carried_dropBlanks, outline, carried_element]
    exact List.mem_append_right _ (List.mem_append_left _ inside)
  let style := (("Text", "p"), [("color", "component.Text.p.color")])
  have member : styleRule style ∈ rules capitalTheme :=
    List.mem_append_right _ (List.mem_map_of_mem List.mem_cons_self)
  have dashed : IsDashed (variableName "component.Text.p.color") :=
    ⟨⟨'c', "omponent-Text-p-color".toList, by decide +kernel⟩,
      List.all_eq_true.mp (by decide +kernel)⟩
  have reads : (styleRule style).Reads (variableName "component.Text.p.color") :=
    ⟨_, List.mem_cons_self, _, readsAs_var dashed⟩
  have needed := enough.read _ member ⟨"textui-text-p", by decide +kernel, carries⟩ _ reads
    (by decide +kernel)
  refine not_mem_variables ?_ ?_ needed
  · rw [referred, styled]
    decide +kernel
  · decide +kernel

end Wireframe.Render
