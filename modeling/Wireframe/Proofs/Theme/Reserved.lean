import Wireframe.Proofs.Document.Contract
import Wireframe.Proofs.Theme.Fallback
import Wireframe.Proofs.Theme.Index

/-! # The names kept for component styles

The keys of component styles stand below `component`, and a theme may not call a category of
tokens by that name. A key that joins several names can begin in the same way all the same.
A tree of tokens has such a key exactly if a name on its first level, or on a level below empty
names only, spells one (`Wireframe.Theme.slips_iff`). The check of names sees the text
`component` alone, so it lets other spellings through; where no token slips past it, the
variables keep tokens and component styles apart (`Wireframe.Theme.Resolved.apart_iff`).
-/

namespace Wireframe

namespace Theme

/-- An entry of a mapping into which another one is put is one of the two. -/
theorem mem_put {title v : Value} (titled : IsTitle title) {tree : Tree} {e : Value × Value}
    (member : e ∈ Value.put title v tree) : e = (title, v) ∨ e ∈ tree := by
  induction tree with
  | nil => exact .inl (List.mem_singleton.mp member)
  | cons first rest ih =>
      rw [Value.put] at member
      by_cases same : first.1.sameKey title = true
      · rw [if_pos same, (sameKey_title_iff titled).mp same] at member
        exact (List.mem_cons.mp member).imp_right (List.mem_cons_of_mem first)
      · rw [if_neg same] at member
        rcases List.mem_cons.mp member with rfl | later
        · exact .inr List.mem_cons_self
        · exact (ih later).imp_right (List.mem_cons_of_mem first)

/-- A key that only component styles ought to have. -/
def IsReserved (key : String) : Prop := key = componentKey ∨ IsComponentKey key

instance (key : String) : Decidable (IsReserved key) :=
  inferInstanceAs (Decidable (_ ∨ _))

/-! ## Keys below a name -/

theorem no_point {name : String} : ¬ (name ++ ".").toList <+: componentKey.toList := by
  intro first
  have point : '.' ∈ componentKey.toList := first.subset (by simp)
  exact absurd point (by decide)

/-- A name with a point behind it begins another such name only if the two are one, or if it begins
the other name alone. -/
theorem begins_joined {name other : String}
    (first : (name ++ ".").toList <+: (other ++ ".").toList) :
    name = other ∨ (name ++ ".").toList <+: other.toList := by
  rw [String.toList_append (s := other)] at first
  refine (List.prefix_concat_iff.mp first).imp_left fun same => ?_
  rw [String.toList_append] at same
  exact String.toList_inj.mp (List.append_cancel_right same)

/-- A key at or below a name is reserved exactly if the name is. -/
theorem isReserved_below {name key : String}
    (below : key = name ∨ (name ++ ".").toList <+: key.toList) :
    IsReserved key ↔ IsReserved name := by
  rcases below with rfl | below
  · rfl
  constructor
  · rintro (rfl | reserved)
    · exact absurd below no_point
    · rcases List.prefix_or_prefix_of_prefix reserved below with outer | inner
      · exact (begins_joined outer).imp_left Eq.symm
      · exact .inl ((begins_joined inner).resolve_right no_point)
  · rintro (rfl | reserved)
    · exact .inr below
    · refine .inr (reserved.trans (.trans ?_ below))
      rw [String.toList_append]
      exact List.prefix_append _ _

/-- A leaf of a value stands at the key of the value or below it. -/
theorem key_of_leavesAt {above key : String} (named : above ≠ "") {v : Value}
    (member : key ∈ Table.keys (leavesAt above v)) :
    key = above ∨ (above ++ ".").toList <+: key.toList := by
  cases v with
  | map entries =>
      rw [leavesAt] at member
      cases held : Value.field? leafName entries with
      | none =>
          rw [held] at member
          exact .inr (leaves_below named entries key member)
      | some leaf =>
          rw [held] at member
          cases leaf <;> first | exact .inl (List.mem_singleton.mp member) | cases member
  | null => cases member
  | _ => exact .inl (List.mem_singleton.mp member)

/-! ## Trees with reserved keys -/

/-- A tree has leaves under a name that is reserved, on its first level or on a level that is
reached through empty names. -/
inductive Slips : Tree → Prop where
  | here {tree : Tree} {e : Value × Value} (member : e ∈ tree) (reserved : IsReserved e.1.toText)
    (filled : leavesAt e.1.toText e.2 ≠ []) : Slips tree
  | inside {tree entries : Tree} {name : Value} (member : (name, .map entries) ∈ tree)
    (nameless : name.toText = "") (group : Value.field? leafName entries = none)
    (slips : Slips entries) : Slips tree

theorem Slips.mono {tree other : Tree} (slips : Slips tree) (part : tree ⊆ other) :
    Slips other := by
  cases slips with
  | here member reserved filled => exact .here (part member) reserved filled
  | inside member nameless group slips => exact .inside (part member) nameless group slips

mutual

theorem slips_of_leaves {key : String} (reserved : IsReserved key) (tree : Tree)
    (member : key ∈ Table.keys (leaves "" tree)) : Slips tree := by
  match tree with
  | [] => cases member
  | (name, v) :: rest =>
      rw [leaves, Table.keys_append] at member
      rcases List.mem_append.mp member with here | behind
      · by_cases nameless : name.toText = ""
        · rw [show joinKey "" name = "" from nameless] at here
          obtain ⟨entries, rfl, group, slips⟩ := slips_of_leavesAt reserved v here
          exact .inside List.mem_cons_self nameless group slips
        · refine .here List.mem_cons_self ((isReserved_below ?_).mp reserved) fun none => ?_
          · exact key_of_leavesAt nameless here
          · rw [show joinKey "" name = name.toText from rfl, none] at here
            cases here
      · exact (slips_of_leaves reserved rest behind).mono (List.subset_cons_self _ _)

/-- Under the empty key only a group has leaves whose keys are reserved. -/
theorem slips_of_leavesAt {key : String} (reserved : IsReserved key) (v : Value)
    (member : key ∈ Table.keys (leavesAt "" v)) :
    ∃ entries, v = .map entries ∧ Value.field? leafName entries = none ∧ Slips entries := by
  have unkept {text : String} (alone : key ∈ Table.keys [("", text)]) : False := by
    obtain rfl : key = "" := List.mem_singleton.mp alone
    exact absurd reserved (by decide)
  match v with
  | .map entries =>
      rw [leavesAt] at member
      cases held : Value.field? leafName entries with
      | none =>
          rw [held] at member
          exact ⟨entries, rfl, held, slips_of_leaves reserved entries member⟩
      | some leaf =>
          rw [held] at member
          cases leaf <;> first | exact (unkept member).elim | cases member
  | .null => cases member
  | .bool _ | .int _ | .float _ | .text _ | .halved _ | .bytes _ | .date _ | .dateTime _ | .time _
  | .list _ | .tuple _ | .set _ => exact (unkept member).elim

end

/-- The leaves of an entry are leaves of the tree. -/
theorem leavesAt_subset {above : String} {tree : Tree} {e : Value × Value} (member : e ∈ tree) :
    leavesAt (joinKey above e.1) e.2 ⊆ leaves above tree := by
  induction tree with
  | nil => cases member
  | cons first rest ih =>
      rw [leaves]
      rcases List.mem_cons.mp member with rfl | behind
      · exact List.subset_append_left _ _
      · exact List.Subset.trans (ih behind) (List.subset_append_right _ _)

/-- **Reserved keys.** A tree of tokens has a leaf whose key is reserved exactly if it has leaves
under a reserved name, which only empty names may stand above. -/
theorem slips_iff {tree : Tree} :
    Slips tree ↔ ∃ key ∈ Table.keys (leaves "" tree), IsReserved key := by
  constructor
  · intro slips
    induction slips with
    | @here tree e member reserved filled =>
        obtain ⟨leaf, found⟩ := List.exists_mem_of_ne_nil _ filled
        have key : leaf.1 ∈ Table.keys (leavesAt e.1.toText e.2) := List.mem_map_of_mem found
        refine ⟨leaf.1, List.mem_map_of_mem (leavesAt_subset member found), ?_⟩
        refine (isReserved_below (key_of_leavesAt (fun empty => ?_) key)).mpr reserved
        rw [empty] at reserved
        exact absurd reserved (by decide)
    | @inside tree entries name member nameless group slips ih =>
        obtain ⟨key, found, reserved⟩ := ih
        have same : leavesAt (joinKey "" name) (.map entries) = leaves "" entries := by
          rw [show joinKey "" name = "" from nameless, leavesAt, group]
        rw [← same] at found
        exact ⟨key, List.map_subset _ (leavesAt_subset member) found, reserved⟩
  · rintro ⟨key, member, reserved⟩
    exact slips_of_leaves reserved tree member

instance (tree : Tree) : Decidable (Slips tree) := decidable_of_iff _ slips_iff.symm

/-! ## Categories of a text -/

/-- A category in the text of a theme whose tokens get reserved keys: its name stands for
`component` without being that text, as bytes do, or begins with `component.`, or is empty above
such a name. -/
inductive Intrudes : Value × Value → Prop where
  | disguised {name title v : Value} (differs : name ≠ .text componentKey)
    (means : MeansName name title) (whole : title.toText = componentKey) : Intrudes (name, v)
  | joined {name title v : Value} (means : MeansName name title)
    (below : IsComponentKey title.toText) : Intrudes (name, v)
  | nameless {name title : Value} {entries : Tree} (means : MeansName name title)
    (empty : title.toText = "") (slips : Slips entries) : Intrudes (name, .map entries)

/-- A category whose name is kept is not called by the text of that name. -/
theorem intrudes_of_reserved {tree : Tree} {e : Value × Value} {title : Value} (member : e ∈ tree)
    (free : Value.hasField Load.reservedCategory tree = false) (means : MeansName e.1 title)
    (reserved : IsReserved title.toText) : Intrudes e := by
  obtain ⟨raw, v⟩ := e
  obtain whole | below := reserved
  · refine .disguised ?_ means whole
    rintro rfl
    have taken : Value.hasField Load.reservedCategory tree = true := by
      rw [Value.hasField, Value.field?, Option.isSome_map, List.find?_isSome]
      exact ⟨_, member, beq_self_eq_true _⟩
    cases taken.symm.trans free
  · exact .joined means below

/-- An entry of a tree with titles stems from one of the tree that it was made of. -/
theorem Retitled.origin {related : Value → Value → Prop} {tree titled : Tree}
    (retitled : Retitled related tree titled) {e : Value × Value} (member : e ∈ titled) :
    ∃ raw ∈ tree, Retitles related raw e := by
  obtain ⟨entries, turned, rfl⟩ := retitled
  suffices stems : ∀ found, e ∈ Value.putAll entries found →
      (∃ raw ∈ tree, Retitles related raw e) ∨ e ∈ found from
    (stems [] member).resolve_right List.not_mem_nil
  clear member
  induction turned with
  | nil => exact fun found => .inr
  | @cons raw f tree entries turn _ ih =>
      intro found member
      have step : Value.putAll (f :: entries) found =
          Value.putAll entries (Value.put f.1 f.2 found) := rfl
      rw [step] at member
      rcases ih _ member with ⟨other, inside, titles⟩ | put
      · exact .inl ⟨other, List.mem_cons_of_mem raw inside, titles⟩
      · rcases mem_put turn.1.isTitle put with rfl | before
        · exact .inl ⟨raw, List.mem_cons_self, turn⟩
        · exact .inr before

/-- Where the tokens that a theme gives have reserved keys, a category of its text intrudes. -/
theorem GivesTokens.intrudes {theme : Tree} {given : Option Tree} (gives : GivesTokens theme given)
    (slips : Slips (given.getD [])) :
    ∃ tree, Value.field? "tokens" theme = some (.map tree) ∧ ∃ e ∈ tree, Intrudes e := by
  have nothing : ¬ Slips [] := by
    intro slips
    obtain ⟨key, member, -⟩ := slips_iff.mp slips
    cases member
  cases gives with
  | absent => exact absurd slips nothing
  | null => exact absurd slips nothing
  | @tree tree _ found tokens free retitled =>
      refine ⟨tree, found, ?_⟩
      cases slips with
      | here member reserved filled =>
          obtain ⟨raw, inside, means, -⟩ := retitled.origin member
          exact ⟨raw, inside, intrudes_of_reserved inside free means reserved⟩
      | inside member nameless group slips =>
          obtain ⟨⟨raw, v⟩, inside, means, same⟩ := retitled.origin member
          obtain rfl : v = .map _ := same
          exact ⟨_, inside, .nameless means nameless slips⟩

/-! ## Variables -/

/-- The tokens of a theme, which are none where it gives none. -/
def UserTheme.tokenTree (user : UserTheme) : Tree := (user.tokens.map TokenSet.tokens).getD []

/-- The leaves of the tokens of a theme over a base, those of the base first. -/
def Base.tokenLeaves (base : Base) (user : UserTheme) : Variables :=
  leaves "" base.tokens ++ leaves "" user.tokenTree

/-- The leaves of the component styles of a theme over a base. -/
def Base.styleLeaves (base : Base) (user : UserTheme) : Variables :=
  leaves componentKey (overlay base.styles (user.components.getD []))

/-- The variables of a theme are those of its tokens and, behind them, those of its component
styles, and only the latter have reserved keys. -/
structure Resolved.Divides (theme : Resolved) (tokens styles : Variables) : Prop where
  reserved : ∀ key ∈ theme.«variables».keys, IsReserved key → key ∈ styles.keys ∧ key ∉ tokens.keys
  order : theme.«variables».keys = tokens.keys.eraseDups ++ styles.keys.eraseDups

/-- Of two lists the first occurrences are those in the first and those that only the second has. -/
theorem eraseDups_append (tokens styles : List String) :
    (tokens ++ styles).eraseDups = tokens.eraseDups ++ styles.eraseDups.filter (· ∉ tokens) := by
  rw [List.eraseDups_append, Table.filter_eraseDups, List.removeAll]
  simp

section

variable {base : Base} {user : UserTheme} {theme : Resolved}

theorem isComponentKey_of_styleLeaves {key : String} (member : key ∈ (base.styleLeaves user).keys) :
    IsComponentKey key :=
  leaves_below (by decide) _ key member

variable (applied : Resolved.ofUser base (.ok user) = .ok theme)
include applied

theorem variables_ofUser :
    theme.«variables» = Table.putAll [] (base.tokenLeaves user ++ base.styleLeaves user) := by
  obtain ⟨-, rfl⟩ := Resolved.ofUser_eq_ok.mp applied
  exact variables_resolve _ _ _ _

theorem keys_ofUser :
    theme.«variables».keys =
      ((base.tokenLeaves user).keys ++ (base.styleLeaves user).keys).eraseDups := by
  rw [variables_ofUser applied, keys_putAll_nil, Table.keys_append]

/-- A key of component styles has the value that the styles give it. -/
theorem get?_ofUser {key : String} (member : key ∈ (base.styleLeaves user).keys) :
    theme.get? key = (base.styleLeaves user).lastValue? key := by
  obtain ⟨value, last⟩ := Table.exists_lastValue? member
  rw [Resolved.get?, variables_ofUser applied, Table.get?_putAll, Table.lastValue?_append, last]
  rfl

/-- The variables of a theme are divided between its tokens and its component styles exactly if no
tree of tokens has a reserved key. -/
theorem divides_iff :
    theme.Divides (base.tokenLeaves user) (base.styleLeaves user) ↔
      ¬ Slips base.tokens ∧ ¬ Slips user.tokenTree := by
  have free : (¬ Slips base.tokens ∧ ¬ Slips user.tokenTree) ↔
      ∀ key ∈ (base.tokenLeaves user).keys, ¬ IsReserved key := by
    rw [slips_iff, slips_iff, Base.tokenLeaves, Table.keys_append]
    simp only [not_exists, not_and, List.forall_mem_append]
  rw [free]
  have keys := keys_ofUser applied
  constructor
  · intro divides key member reserved
    refine (divides.reserved key ?_ reserved).2 member
    rw [keys, List.mem_eraseDups]
    exact List.mem_append_left _ member
  · intro free
    refine ⟨fun key member reserved => ?_, ?_⟩
    · rw [keys, List.mem_eraseDups] at member
      have foreign := fun inside => free key inside reserved
      exact ⟨(List.mem_append.mp member).resolve_left foreign, foreign⟩
    · rw [keys, eraseDups_append, List.filter_eq_self.mpr]
      intro key member
      have styled := isComponentKey_of_styleLeaves (List.mem_eraseDups.mp member)
      exact decide_eq_true fun inside => free key inside (.inr styled)

end

/-- **The names kept for component styles.** Over a theme that loads, the keys of component styles
have the values that the styles give them, and the variables are the keys of the tokens and, behind
them, those that component styles alone have. No token has a reserved key, and all tokens stand
before all component styles, exactly if no token slips past the check of names; and a token that
does stands in a category of the text that is called `component` in another way than by that text,
that begins with `component.`, or that has an empty name. -/
theorem Resolved.divided_of_text {base : Base} {content source : String} {theme : Resolved}
    (resolved : ofText base (some content) source = .ok theme) (loads : theme.diagnostics = []) :
    ∃ user, UserTheme.ofText content source = .ok user ∧
      let tokens := base.tokenLeaves user
      let styles := base.styleLeaves user
      (∀ key ∈ styles.keys, IsComponentKey key ∧ theme.get? key = styles.lastValue? key) ∧
      theme.«variables».keys =
        tokens.keys.eraseDups ++ styles.keys.eraseDups.filter (· ∉ tokens.keys) ∧
      (theme.Divides tokens styles ↔ ¬ Slips base.tokens ∧ ¬ Slips user.tokenTree) ∧
      (Slips user.tokenTree → ∃ mapping tree, Holds content mapping ∧
        Value.field? "tokens" mapping = some (.map tree) ∧ ∃ e ∈ tree, Intrudes e) := by
  have loaded := loaded_ofText content source
  rw [ofText] at resolved
  generalize UserTheme.ofText content source = result at loaded resolved ⊢
  cases loaded with
  | refused nothing =>
      cases resolved
      cases loads
  | broken breaks => cases resolved
  | @said user told =>
      refine ⟨user, rfl, fun key member => ?_, ?_, divides_iff resolved, fun slips => ?_⟩
      · exact ⟨isComponentKey_of_styleLeaves member, get?_ofUser resolved member⟩
      · rw [keys_ofUser resolved, eraseDups_append]
      · obtain ⟨mapping, holds, gives, -⟩ := told
        obtain ⟨tree, found, intrudes⟩ := gives.intrudes slips
        exact ⟨mapping, tree, holds, found, intrudes⟩

theorem not_slips_builtin : ¬ Slips Base.builtin.tokens := by decide +kernel

/-- The text of a theme with a token and a component style. -/
def cardText : String :=
  "theme: \x7btokens: \x7ba: 1\x7d, components: \x7bcard: \x7bbig: \x7bcolor: red\x7d\x7d\x7d\x7d"

/-- The text of a theme whose one token has a name that begins with `component.`. -/
def joinedText : String := "theme: \x7btokens: \x7bcomponent.x: 1\x7d\x7d"

/-- A text that loads, with what has been found of its theme. -/
theorem Resolved.exists_of_loads {content source : String} {p : UserTheme → Prop}
    [DecidablePred p] (base : Base)
    (found : (UserTheme.ofText content source).toOption.map
      (fun user => base.writes user && decide (p user)) = some true) :
    ∃ theme user, ofText base (some content) source = .ok theme ∧ theme.diagnostics = [] ∧
      UserTheme.ofText content source = .ok user ∧ ofUser base (.ok user) = .ok theme ∧
      p user := by
  cases loaded : UserTheme.ofText content source with
  | error failure =>
      rw [loaded] at found
      cases found
  | ok user =>
      rw [loaded] at found
      obtain ⟨writes, holds⟩ := Bool.and_eq_true_iff.mp (Option.some.inj found)
      obtain ⟨theme, applied, loads⟩ : ∃ theme,
          ofUser base (.ok user) = .ok theme ∧ theme.diagnostics = [] :=
        ⟨_, ofUser_eq_ok.mpr ⟨writes, rfl⟩, rfl⟩
      have resolved : ofText base (some content) source = .ok theme := by
        rw [ofText, loaded]
        exact applied
      exact ⟨theme, user, resolved, loads, rfl, applied, of_decide_eq_true holds⟩

/-- Over the built-in theme such a token and such a style are divided. -/
theorem Resolved.divided_of_text_card :
    ∃ theme user,
      ofText .builtin (some cardText) "<theme>" = .ok theme ∧ theme.diagnostics = [] ∧
      UserTheme.ofText cardText "<theme>" = .ok user ∧
      theme.Divides (Base.builtin.tokenLeaves user) (Base.builtin.styleLeaves user) := by
  have free : (UserTheme.ofText cardText "<theme>").toOption.map
      (fun user => Base.builtin.writes user && decide (¬ Slips user.tokenTree)) = some true := by
    decide +kernel
  obtain ⟨theme, user, resolved, loads, loaded, -, kept⟩ := exists_of_loads .builtin free
  obtain ⟨same, again, -, -, divided, -⟩ := divided_of_text resolved loads
  obtain rfl := Except.ok.inj (loaded.symm.trans again)
  exact ⟨theme, user, resolved, loads, loaded, divided.mpr ⟨not_slips_builtin, kept⟩⟩

/-- A token called `component.x` is no component style, but its key is reserved. -/
theorem Resolved.token_among_styles :
    ¬ ∀ (content source : String) (theme : Resolved) (user : UserTheme),
      ofText .builtin (some content) source = .ok theme → theme.diagnostics = [] →
      UserTheme.ofText content source = .ok user →
      theme.Divides (Base.builtin.tokenLeaves user) (Base.builtin.styleLeaves user) := by
  intro every
  have found : (UserTheme.ofText joinedText "<theme>").toOption.map
      (fun user => Base.builtin.writes user && decide (Slips user.tokenTree)) = some true := by
    decide +kernel
  obtain ⟨theme, user, resolved, loads, loaded, applied, slips⟩ := exists_of_loads .builtin found
  have divides := every joinedText "<theme>" theme user resolved loads loaded
  exact ((divides_iff applied).mp divides).2 slips

end Theme

end Wireframe
