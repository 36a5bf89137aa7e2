import Wireframe.Proofs.Theme.Contract
import Wireframe.Proofs.Yaml.Faults
import Wireframe.Theme.Resolve

/-! # Themes that are refused

A text says what it says as a theme, or it does not say a theme at all. In the first case
its tokens and its component styles are laid over the base. In the second case the base
holds alone, and one diagnostic tells which source was refused. So resolution goes on
whatever the text is, with three exceptions: a scalar that is no value of its type, a number
too long to be written, and a name that is no text break it off
(`Wireframe.Theme.Resolved.falls_back`).
-/

namespace Wireframe.Theme

/-! ## What a text says -/

/-- A text holds a mapping under `theme`. -/
def Holds (content : String) (theme : Tree) : Prop :=
  ∃ entries, Yaml.load content = .ok (.map entries) ∧
    Value.field? "theme" entries = some (.map theme)

/-- The tokens that a theme gives: none, or a tree without the category of component styles. -/
inductive GivesTokens (theme : Tree) : Option Tree → Prop where
  | absent (missing : Value.field? "tokens" theme = none) : GivesTokens theme none
  | null (found : Value.field? "tokens" theme = some .null) : GivesTokens theme none
  | tree {tree titled : Tree} (found : Value.field? "tokens" theme = some (.map tree))
    (tokens : IsTokens tree) (free : Value.hasField Load.reservedCategory tree = false)
    (retitled : RetitledTokens tree titled) : GivesTokens theme (some titled)

/-- The component styles that a theme gives, if any. -/
inductive GivesStyles (theme : Tree) : Option Tree → Prop where
  | absent (missing : Value.field? "components" theme = none) : GivesStyles theme none
  | null (found : Value.field? "components" theme = some .null) : GivesStyles theme none
  | tree {tree titled : Tree} (found : Value.field? "components" theme = some (.map tree))
    (styles : IsStyles tree) (retitled : RetitledStyles tree titled) :
    GivesStyles theme (some titled)

theorem GivesTokens.sound {theme tree : Tree} {given : Option Tree}
    (gives : GivesTokens theme given) (found : Value.field? "tokens" theme = some (.map tree)) :
    IsTokens tree ∧ Value.hasField Load.reservedCategory tree = false := by
  cases gives with
  | absent missing => cases missing.symm.trans found
  | null other => cases other.symm.trans found
  | tree other tokens free =>
      cases other.symm.trans found
      exact ⟨tokens, free⟩

theorem GivesStyles.sound {theme tree : Tree} {given : Option Tree}
    (gives : GivesStyles theme given)
    (found : Value.field? "components" theme = some (.map tree)) : IsStyles tree := by
  cases gives with
  | absent missing => cases missing.symm.trans found
  | null other => cases other.symm.trans found
  | tree other styles =>
      cases other.symm.trans found
      exact styles

theorem GivesTokens.null_or_tree {theme : Tree} {given : Option Tree} {v : Value}
    (gives : GivesTokens theme given) (found : Value.field? "tokens" theme = some v) :
    v = .null ∨ ∃ tree, v = .map tree := by
  cases gives with
  | absent missing => cases missing.symm.trans found
  | null other => exact .inl (Option.some.inj (found.symm.trans other))
  | tree other => exact .inr ⟨_, Option.some.inj (found.symm.trans other)⟩

theorem GivesStyles.null_or_tree {theme : Tree} {given : Option Tree} {v : Value}
    (gives : GivesStyles theme given) (found : Value.field? "components" theme = some v) :
    v = .null ∨ ∃ tree, v = .map tree := by
  cases gives with
  | absent missing => cases missing.symm.trans found
  | null other => exact .inl (Option.some.inj (found.symm.trans other))
  | tree other => exact .inr ⟨_, Option.some.inj (found.symm.trans other)⟩

/-- A text says a theme with some tokens and some component styles. -/
def Says (content : String) (tokens styles : Option Tree) : Prop :=
  ∃ theme, Holds content theme ∧ GivesTokens theme tokens ∧ GivesStyles theme styles

/-- A theme is right in all but its names: one that has to be a text is none. -/
inductive Misnames (theme : Tree) : Prop where
  | tokens {tree : Tree} {e : Value × Value}
    (found : Value.field? "tokens" theme = some (.map tree)) (tokens : IsTokens tree)
    (free : Value.hasField Load.reservedCategory tree = false) (member : e ∈ tree)
    (nameless : IsNameless e.1) : Misnames theme
  | styles {given : Option Tree} {tree : Tree} {e : Value × Value}
    (gives : GivesTokens theme given)
    (found : Value.field? "components" theme = some (.map tree)) (styles : IsStyles tree)
    (member : e ∈ tree) (lacks : LacksName e) : Misnames theme

/-- A text that holds such a theme. -/
def Misnamed (content : String) : Prop := ∃ theme, Holds content theme ∧ Misnames theme

/-! ## Numbers that cannot be written -/

mutual

/-- A tree that is laid over another one brings in what it holds, and nothing else. -/
theorem overlong_of_overlay {below above : Tree}
    (overlong : Value.anyOverlongEntry (overlay below above) = true) :
    Value.anyOverlongEntry below = true ∨ Value.anyOverlongEntry above = true := by
  match above with
  | [] =>
      rw [overlay] at overlong
      exact .inl overlong
  | (key, v) :: rest =>
      rw [overlay] at overlong
      rw [Value.anyOverlongEntry_cons]
      obtain under | later := overlong_of_overlay overlong
      · split at under
        · exact .inl under
        · obtain named | laid | under := Value.overlong_of_put under
          · exact .inr (.inl named)
          · obtain ⟨u, found, held⟩ | held := overlong_of_overlayValue laid
            · obtain ⟨e, first, rfl⟩ := Option.map_eq_some_iff.mp found
              exact .inl (Value.isOverlong_of_mem_entries (List.mem_of_find?_eq_some first) held)
            · exact .inr (.inr (.inl held))
          · exact .inl under
      · exact .inr (.inr (.inr later))

theorem overlong_of_overlayValue {below : Option Value} {v : Value}
    (overlong : (overlayValue below v).isOverlong = true) :
    (∃ u, below = some u ∧ u.isOverlong = true) ∨ v.isOverlong = true := by
  match v with
  | .map entries =>
      rw [overlayValue.eq_def] at overlong
      dsimp only at overlong
      split at overlong
      · obtain under | above := overlong_of_overlay overlong
        · exact .inl ⟨_, rfl, under⟩
        · exact .inr above
      · exact .inr overlong
  | .null | .bool _ | .int _ | .float _ | .text _ | .halved _ | .bytes _ | .date _ | .dateTime _
  | .time _ | .tuple _ | .set _ | .list _ =>
      simp only [overlayValue] at overlong
      exact .inr overlong

end

mutual

/-- A tree holds what its leaves hold. -/
theorem overlong_of_leafPaths {above : List Value} {tree : Tree} {e : List Value × Value}
    (member : e ∈ leafPaths above tree) (overlong : e.2.isOverlong = true) :
    Value.anyOverlongEntry tree = true := by
  match tree with
  | [] =>
      rw [leafPaths] at member
      cases member
  | (name, v) :: rest =>
      rw [leafPaths, List.mem_append] at member
      rw [Value.anyOverlongEntry_cons]
      obtain here | later := member
      · exact .inr (.inl (overlong_of_leafPathsAt here overlong))
      · exact .inr (.inr (overlong_of_leafPaths later overlong))

theorem overlong_of_leafPathsAt {path : List Value} {v : Value} {e : List Value × Value}
    (member : e ∈ leafPathsAt path v) (overlong : e.2.isOverlong = true) :
    v.isOverlong = true := by
  match v with
  | .map entries =>
      rw [leafPathsAt] at member
      split at member
      · cases member
      · rename_i found
        obtain rfl := List.mem_singleton.mp member
        exact Value.isOverlong_of_field? found overlong
      · exact overlong_of_leafPaths member overlong
  | .null =>
      rw [leafPathsAt] at member
      cases member
  | .bool _ | .int _ | .float _ | .text _ | .halved _ | .bytes _ | .date _ | .dateTime _
  | .time _ | .tuple _ | .set _ | .list _ =>
      simp only [leafPathsAt] at member
      obtain rfl := List.mem_singleton.mp member
      exact overlong

end

theorem IsTitle.isOverlong {title : Value} (titled : IsTitle title) :
    title.isOverlong = false := by
  cases title with
  | text | halved => rfl
  | _ => exact titled.elim

/-- Turning names into texts brings in nothing. -/
theorem overlong_of_retitled {related : Value → Value → Prop}
    (kept : ∀ v w, related v w → w.isOverlong = true → v.isOverlong = true) {tree titled : Tree}
    (retitled : Retitled related tree titled) (overlong : Value.anyOverlongEntry titled = true) :
    Value.anyOverlongEntry tree = true := by
  obtain ⟨entries, turned, rfl⟩ := retitled
  obtain held | held := Value.overlong_of_putAll overlong
  · clear overlong
    induction turned with
    | nil => cases held
    | @cons e f _ _ first _ ih =>
        obtain ⟨means, same⟩ := first
        rw [Value.anyOverlongEntry_cons] at held ⊢
        rw [means.isTitle.isOverlong] at held
        obtain held | held | held := held
        · cases held
        · exact .inr (.inl (kept _ _ same held))
        · exact .inr (.inr (ih held))
  · cases held

theorem GivesTokens.overlong {theme tree : Tree} (gives : GivesTokens theme (some tree))
    (overlong : Value.anyOverlongEntry tree = true) : Value.anyOverlongEntry theme = true := by
  cases gives with
  | tree found _ _ retitled =>
      refine Value.isOverlong_of_field? found
        (overlong_of_retitled ?_ retitled overlong : Value.anyOverlongEntry _ = true)
      rintro v _ rfl held
      exact held

theorem GivesStyles.overlong {theme tree : Tree} (gives : GivesStyles theme (some tree))
    (overlong : Value.anyOverlongEntry tree = true) : Value.anyOverlongEntry theme = true := by
  cases gives with
  | tree found _ retitled =>
      refine Value.isOverlong_of_field? found
        (overlong_of_retitled ?_ retitled overlong : Value.anyOverlongEntry _ = true)
      rintro _ _ ⟨variants, titled, rfl, rfl, retitled⟩ held
      refine overlong_of_retitled ?_ retitled held
      rintro v _ rfl held
      exact held

/-! ## Loading -/

/-- What a theme has about it when loading breaks off: a name that is no text, or a number that
cannot be written. -/
inductive Hinders (theme : Tree) : Breakdown → Prop where
  | misnamed (misnames : Misnames theme) : Hinders theme .nameNotText
  | overlong (held : Value.anyOverlongEntry theme = true) : Hinders theme (.scalar .overlong)

/-- A part of a theme that holds such a number hinders the whole. -/
theorem Hinders.of_field? {theme tree : Tree} {name : String}
    (found : Value.field? name theme = some (.map tree))
    (held : Value.anyOverlongEntry tree = true) : Hinders theme (.scalar .overlong) :=
  .overlong (Value.isOverlong_of_field? found held)

namespace Load

/-- What comes of loading a part of a theme: what the part gives, or a refusal because it gives
nothing, or loading breaks off. -/
inductive Part {α β : Type} (source : String) (view : α → β) (gives : β → Prop)
    (hinders : Breakdown → Prop) : Except Failure α → Prop where
  | given {a : α} (held : gives (view a)) : Part source view gives hinders (.ok a)
  | refused {reason : Reason} (nothing : ∀ b, ¬ gives b) :
    Part source view gives hinders (.error (.refused ⟨source, reason⟩))
  | broken {cause : Breakdown} (held : hinders cause) :
    Part source view gives hinders (.error (.broken cause))

/-- A check that succeeds goes on, one that does not refuses, and one that breaks off does so. -/
theorem part_check {α β : Type} {source : String} {view : α → β} {gives : β → Prop}
    {hinders : Breakdown → Prop} {right overlong : Prop} {result : Except Objection Unit}
    {next : Except Failure α} (checked : Checked right overlong result)
    (fails : ¬ right → ∀ b, ¬ gives b) (stops : overlong → hinders (.scalar .overlong))
    (goes : right → Part source view gives hinders next) :
    Part source view gives hinders (check source result >>= fun _ => next) := by
  cases checked with
  | passed held => exact goes held
  | refused wrong => exact .refused (fails wrong)
  | stopped met => exact .broken (stops met)

theorem part_tokens (source : String) (theme : Tree) :
    Part source (Option.map TokenSet.tokens) (GivesTokens theme) (Hinders theme)
      (tokens source theme) := by
  unfold tokens
  split
  · exact .given (.absent ‹_›)
  · exact .given (.null ‹_›)
  · rename_i tree found
    refine part_check (checked_tree "theme.tokens" tree)
      (fun wrong set gives => wrong (gives.sound found).1) (Hinders.of_field? found)
      fun leaves => ?_
    split
    · rename_i taken
      refine .refused fun set gives => ?_
      exact absurd taken (by rw [(gives.sound found).2]; nofun)
    · rename_i free
      rw [Bool.not_eq_true] at free
      rw [checkName]
      split
      · rename_i named
        obtain ⟨name, given, overlong⟩ := Option.any_eq_true _ _ |>.mp named
        exact .broken (.overlong (Value.isOverlong_of_field? given overlong))
      · obtain ⟨titled, retitled, done⟩ | ⟨⟨e, member, nameless⟩, done⟩ := withTextNames_eq tree
        · rw [done]
          exact .given (.tree found leaves free retitled)
        · rw [done]
          exact .broken (.misnamed (.tokens found leaves free member nameless))
  · rename_i v notNull notMap found
    refine .refused fun set gives => ?_
    obtain rfl | ⟨tree, rfl⟩ := gives.null_or_tree found
    · exact notNull rfl
    · exact notMap tree rfl

theorem part_components {source : String} {theme : Tree} {given : Option Tree}
    (gives : GivesTokens theme given) :
    Part source id (GivesStyles theme) (Hinders theme) (components source theme) := by
  unfold components
  split
  · exact .given (.absent ‹_›)
  · exact .given (.null ‹_›)
  · rename_i tree found
    refine part_check (checked_kinds tree) (fun wrong styles gives => wrong (gives.sound found))
      (Hinders.of_field? found) fun right => ?_
    obtain ⟨titled, retitled, done⟩ | ⟨⟨e, member, lacks⟩, done⟩ := stylesWithTextNames_eq right
    · rw [done]
      exact .given (.tree found right retitled)
    · rw [done]
      exact .broken (.misnamed (.styles gives found right member lacks))
  · rename_i v notNull notMap found
    refine .refused fun styles gives => ?_
    obtain rfl | ⟨tree, rfl⟩ := gives.null_or_tree found
    · exact notNull rfl
    · exact notMap tree rfl

theorem themeEntries_eq_ok {v : Value} {theme : Tree} :
    themeEntries v = .ok theme ↔
      ∃ entries, v = .map entries ∧ Value.field? "theme" entries = some (.map theme) := by
  constructor
  · intro opened
    unfold themeEntries at opened
    split at opened
    · cases opened
    · split at opened
      · split at opened
        · cases opened
          exact ⟨_, rfl, ‹_›⟩
        · cases opened
      · cases opened
  · rintro ⟨entries, rfl, found⟩
    have filled : entries.isEmpty = false := by
      cases entries with
      | nil => cases found
      | cons e rest => rfl
    simp only [themeEntries, Value.isVoid, filled, found, Bool.false_eq_true, ↓reduceIte]

end Load

/-- What a text has about it when loading a theme from it breaks off: a scalar that is no value of
its type, a number that cannot be written, or a name that is no text. -/
inductive Breaks (content : String) : Breakdown → Prop where
  | flawed {fault : Yaml.ScalarFault} (flawed : Yaml.Flawed content fault) :
    Breaks content (.scalar fault)
  | overlong {v : Value} (loaded : Yaml.load content = .ok v) (held : v.isOverlong = true) :
    Breaks content (.scalar .overlong)
  | misnamed (misnamed : Misnamed content) : Breaks content .nameNotText

/-- What comes of loading a theme: the theme that the text says, a refusal because it says none, or
a fault that loading does not take for a refusal. -/
inductive Loaded (source content : String) : Except Failure UserTheme → Prop where
  | said {user : UserTheme}
    (told : Says content (user.tokens.map TokenSet.tokens) user.components) :
    Loaded source content (.ok user)
  | refused {reason : Reason} (nothing : ∀ tokens styles, ¬ Says content tokens styles) :
    Loaded source content (.error (.refused ⟨source, reason⟩))
  | broken {cause : Breakdown} (breaks : Breaks content cause) :
    Loaded source content (.error (.broken cause))

/-- A text that holds a number that cannot be written in its theme does so as a whole. -/
theorem Holds.overlong {content : String} {theme : Tree} (holds : Holds content theme)
    (overlong : Value.anyOverlongEntry theme = true) : Breaks content (.scalar .overlong) := by
  obtain ⟨entries, loaded, found⟩ := holds
  exact .overlong loaded (Value.isOverlong_of_field? found overlong)

theorem Hinders.breaks {content : String} {theme : Tree} {cause : Breakdown}
    (hinders : Hinders theme cause) (holds : Holds content theme) : Breaks content cause := by
  cases hinders with
  | misnamed misnames => exact .misnamed ⟨theme, holds, misnames⟩
  | overlong held => exact holds.overlong held

theorem Holds.unique {content : String} {theme other : Tree} (holds : Holds content theme)
    (also : Holds content other) : theme = other := by
  obtain ⟨entries, loaded, found⟩ := holds
  obtain ⟨others, again, alike⟩ := also
  cases loaded.symm.trans again
  cases found.symm.trans alike
  rfl

section

variable {content source : String}

theorem loaded_theme {theme : Tree} (holds : Holds content theme) :
    Loaded source content (do
      let tokens ← Load.tokens source theme
      return ⟨source, Load.themeName? theme, tokens, ← Load.components source theme⟩) := by
  have tokens := Load.part_tokens source theme
  generalize Load.tokens source theme = result at tokens
  cases tokens with
  | refused nothing =>
      refine .refused ?_
      rintro tokens styles ⟨other, also, gives, -⟩
      obtain rfl := holds.unique also
      exact nothing tokens gives
  | broken hinders => exact .broken (hinders.breaks holds)
  | given gives =>
      have styles := (Load.part_components gives : Load.Part source id _ _ _)
      dsimp only [bind, Except.bind]
      generalize Load.components source theme = result at styles
      cases styles with
      | refused nothing =>
          refine .refused ?_
          rintro tokens styles ⟨other, also, -, given⟩
          obtain rfl := holds.unique also
          exact nothing styles given
      | broken hinders => exact .broken (hinders.breaks holds)
      | given given => exact .said ⟨theme, holds, gives, given⟩

theorem loaded_value {v : Value} (loaded : Yaml.load content = .ok v) :
    Loaded source content (do
      let theme ← (Load.themeEntries v).mapError fun reason => Failure.refused ⟨source, reason⟩
      let tokens ← Load.tokens source theme
      return ⟨source, Load.themeName? theme, tokens, ← Load.components source theme⟩) := by
  cases opened : Load.themeEntries v with
  | error reason =>
      refine .refused ?_
      rintro tokens styles ⟨theme, ⟨entries, again, found⟩, -⟩
      cases loaded.symm.trans again
      cases opened.symm.trans (Load.themeEntries_eq_ok.mpr ⟨entries, rfl, found⟩)
  | ok theme =>
      obtain ⟨entries, rfl, found⟩ := Load.themeEntries_eq_ok.mp opened
      exact loaded_theme ⟨entries, loaded, found⟩

theorem loaded_ofText (content source : String) :
    Loaded source content (UserTheme.ofText content source) := by
  unfold UserTheme.ofText
  cases loaded : Yaml.load content with
  | ok v =>
      rw [Load.value, loaded]
      exact loaded_value loaded
  | error e =>
      rw [Load.value, loaded]
      have silent (tokens styles : Option Tree) : ¬ Says content tokens styles := by
        rintro ⟨theme, ⟨entries, other, -⟩, -⟩
        cases loaded.symm.trans other
      cases e with
      | unprintable found position => exact .refused silent
      | broken problem mark => exact .refused silent
      | scalar fault => exact .broken (.flawed (Yaml.flawed_of_load loaded))

end

/-! ## Resolution -/

/-- The text that a theme is read from, if there is one: the bytes have to be UTF-8. -/
def Content.text? : Content → Option String
  | .missing | .unreadable _ => none
  | .bytes b => (Text.Utf8.decode b).toOption.map String.ofList

/-- A theme that is the base alone, with one diagnostic that names a source. -/
structure Resolved.FallsBack (theme : Resolved) (base : Base) (source : String) : Prop where
  diagnostics : ∃ reason, theme.diagnostics = [⟨source, reason⟩]
  «variables» : theme.«variables» = (defaults base []).«variables»
  components : theme.components = (defaults base []).components

theorem Resolved.fallsBack_defaults (base : Base) (source : String) (reason : Reason) :
    (defaults base [⟨source, reason⟩]).FallsBack base source := ⟨⟨reason, rfl⟩, rfl, rfl⟩

/-- What comes of a text as a theme over a base. Where the text says a theme, it is laid over the
base and there are no diagnostics; where it says none, the base holds alone. Or resolution breaks
off. -/
inductive Comes (base : Base) (source content : String) : Except Breakdown Resolved → Prop where
  | applied {tokens styles : Option Tree} (told : Says content tokens styles) :
    Comes base source content
      (.ok (resolve base.tokens tokens (some (overlay base.styles (styles.getD []))) []))
  | refused {theme : Resolved} (nothing : ∀ tokens styles, ¬ Says content tokens styles)
    (falls : theme.FallsBack base source) : Comes base source content (.ok theme)
  | broken {cause : Breakdown} (breaks : Breaks content cause) :
    Comes base source content (.error cause)

/-- Of the layers of a theme, the base can be written. -/
theorem Says.breaks {base : Base} {user : UserTheme} {content : String}
    (told : Says content (user.tokens.map TokenSet.tokens) user.components)
    (unwritten : ¬ base.writes user = true) : Breaks content (.scalar .overlong) := by
  obtain ⟨theme, holds, givesTokens, givesStyles⟩ := told
  obtain ⟨e, member, overlong⟩ : ∃ e ∈ layeredPaths [] (user.tokens.map TokenSet.tokens)
      (some (overlay base.styles (user.components.getD []))), e.2.isOverlong = true := by
    simpa [Base.writes] using unwritten
  have writable := base.writable
  rw [Bool.or_eq_false_iff, Bool.or_eq_false_iff] at writable
  simp only [layeredPaths, leafPaths, Option.map_some, Option.getD_some, List.nil_append,
    List.mem_append] at member
  obtain member | member := member
  · cases given : user.tokens.map TokenSet.tokens with
    | none =>
        rw [given] at member
        cases member
    | some tree =>
        rw [given] at member givesTokens
        exact holds.overlong (givesTokens.overlong (overlong_of_leafPaths member overlong))
  · obtain under | above := overlong_of_overlay (overlong_of_leafPaths member overlong)
    · cases writable.1.2.symm.trans under
    · cases given : user.components with
      | none =>
          rw [given] at above
          cases above
      | some tree =>
          rw [given] at above givesStyles
          exact holds.overlong (givesStyles.overlong above)

theorem Resolved.comes_ofText (base : Base) (content source : String) :
    Comes base source content (ofText base (some content) source) := by
  have loaded := loaded_ofText content source
  rw [ofText]
  generalize UserTheme.ofText content source = result at loaded ⊢
  cases loaded with
  | said told =>
      rw [ofUser]
      split
      · exact .applied told
      · rename_i unwritten
        exact .broken (told.breaks unwritten)
  | refused nothing => exact .refused nothing (fallsBack_defaults base source _)
  | broken breaks => exact .broken breaks

theorem Comes.breaks {base : Base} {source content : String} {cause : Breakdown}
    (comes : Comes base source content (.error cause)) : Breaks content cause := by
  cases comes with
  | broken breaks => exact breaks

/-- A file breaks resolution off only by its text. -/
theorem Resolved.breaks_of_ofFile {base : Base} {file : Content} {source : String}
    {cause : Breakdown} (broken : ofFile base (some (file, source)) = .error cause) :
    ∃ content, file.text? = some content ∧ Breaks content cause := by
  cases file with
  | missing => cases broken
  | unreadable message => cases broken
  | bytes b =>
      rw [ofFile, UserTheme.ofFile] at broken
      cases decoded : Text.Utf8.decode b with
      | error failure =>
          rw [decoded] at broken
          cases broken
      | ok chars =>
          rw [decoded] at broken
          refine ⟨String.ofList chars, ?_, ?_⟩
          · rw [Content.text?, decoded]
            rfl
          · have comes := comes_ofText base (String.ofList chars) source
            rw [ofText, broken] at comes
            exact comes.breaks

/-- **Falling back.** A text that says a theme is laid over the base, and there are no diagnostics.
A text that says none leaves the base as it is, and the one diagnostic names the source. The bytes
of a file come to the same as the text they encode, and a file without a text leaves the base as it
is too. So resolution has a result, unless a scalar is no value of its type, a number cannot be
written, or a name is no text. -/
theorem Resolved.falls_back (base : Base) (source : String) :
    (∀ content, Comes base source content (ofText base (some content) source)) ∧
      ∀ file : Content,
        match file.text? with
        | some content => Comes base source content (ofFile base (some (file, source)))
        | none => ∃ theme, ofFile base (some (file, source)) = .ok theme ∧
            theme.FallsBack base source := by
  refine ⟨fun content => comes_ofText base content source, fun file => ?_⟩
  cases file with
  | missing => exact ⟨_, rfl, fallsBack_defaults base source _⟩
  | unreadable message => exact ⟨_, rfl, fallsBack_defaults base source _⟩
  | bytes b =>
      rw [Content.text?, ofFile, UserTheme.ofFile]
      cases decoded : Text.Utf8.decode b with
      | ok chars => exact comes_ofText base (String.ofList chars) source
      | error failure => exact ⟨_, rfl, fallsBack_defaults base source _⟩

/-- A category of tokens goes by a number: nothing is resolved, not even the base. -/
theorem Resolved.broken_by_number :
    ¬ ∀ (base : Base) (content source : String),
      ∃ theme, ofText base (some content) source = .ok theme := by
  intro every
  obtain ⟨theme, resolved⟩ :=
    every .bare "theme: \x7btokens: \x7b1: a\x7d\x7d" "<theme>"
  have breaks : (ofText .bare (some "theme: \x7btokens: \x7b1: a\x7d\x7d")
      "<theme>").toOption.isNone := by
    decide +kernel
  rw [resolved] at breaks
  cases breaks

end Wireframe.Theme
