import Wireframe.Proofs.Theme.Entries
import Wireframe.Proofs.Theme.Fallback
import Wireframe.Proofs.Theme.Layers

/-! # Null in a theme

A null leaf in a theme says as much as no entry at all, for a category of tokens, for a
group of tokens or a leaf below it, and for a property of component styles. Checks pass
it, overlaying leaves alone what is below it, and flattening skips it. So a text with such
an entry and a text without it resolve to the same
(`Wireframe.Theme.Resolved.null_is_absent`). The variant of a kind is different: a text in
which it is null does not say a theme (`Wireframe.Theme.not_says_of_null_variant`).
-/

namespace Wireframe.Theme

open Document.Contract (sameKey_text_iff)

/-! ## Null leaves -/

theorem leafPathsAt_of_isNullLeaf {v : Value} (null : isNullLeaf v = true) (path : List Value) :
    leafPathsAt path v = [] := by
  cases v with
  | null => rfl
  | map entries =>
      rw [isNullLeaf] at null
      rw [leafPathsAt]
      split at null
      · rename_i found
        rw [found]
      · cases null
  | _ => cases null

theorem Load.checkNode_of_isNullLeaf {v : Value} (null : isNullLeaf v = true) (path : String) :
    checkNode path v = .ok () := by
  cases v with
  | null => rfl
  | map entries =>
      rw [isNullLeaf] at null
      rw [checkNode]
      split at null
      · rename_i found
        rw [found]
        rfl
      · cases null
  | _ => cases null

/-- The entry under a name, which can be written, is left out of a tree, where it is a null leaf. -/
inductive Drops (name : Value) : Tree → Tree → Prop where
  | here {v : Value} {rest : Tree} (null : isNullLeaf v = true)
    (written : name.isOverlong = false) : Drops name ((name, v) :: rest) rest
  | behind {e : Value × Value} {old new : Tree} (drops : Drops name old new) :
    Drops name (e :: old) (e :: new)

/-- A null leaf is left out of a tree or of a group in it, whose names are others than `value`. -/
inductive Omits : Tree → Tree → Prop where
  | drops {name : Value} {old new : Tree} (named : name ≠ .text leafName)
    (drops : Drops name old new) : Omits old new
  | inside {name : Value} {old new rest : Tree} (named : name ≠ .text leafName)
    (omits : Omits old new) : Omits ((name, .map old) :: rest) ((name, .map new) :: rest)
  | behind {e : Value × Value} {old new : Tree} (omits : Omits old new) :
    Omits (e :: old) (e :: new)

namespace Drops

variable {name : Value} {old new : Tree} (drops : Drops name old new)

include drops

theorem field? {other : String} (named : name ≠ .text other) :
    Value.field? other old = Value.field? other new := by
  induction drops with
  | here null written => exact field?_cons_of_ne named
  | @behind e old new drops ih =>
      obtain ⟨key, v⟩ := e
      by_cases same : key = .text other
      · rw [same, field?_cons_self, field?_cons_self]
      · rw [field?_cons_of_ne same, field?_cons_of_ne same, ih]

theorem leafPaths_eq (above : List Value) : leafPaths above old = leafPaths above new := by
  induction drops with
  | here null written => rw [leafPaths, leafPathsAt_of_isNullLeaf null, List.nil_append]
  | behind drops ih => rw [leafPaths, leafPaths, ih]

theorem checkTree_eq (path : String) : Load.checkTree path old = Load.checkTree path new := by
  induction drops with
  | here null written =>
      have named : Load.below path name = .ok (path ++ "." ++ name.toText) := by
        rw [Load.below, if_neg (Bool.eq_false_iff.mp written)]
      rw [Load.checkTree, named]
      change (Load.checkNode _ _ >>= fun _ => _) = _
      rw [Load.checkNode_of_isNullLeaf null]
      rfl
  | behind drops ih => rw [Load.checkTree, Load.checkTree, ih]

theorem overlay_eq (below : Tree) : overlay below old = overlay below new := by
  induction drops generalizing below with
  | here null written => rw [overlay, if_pos null]
  | behind drops ih => rw [overlay, overlay, ih]

end Drops

namespace Omits

variable {old new : Tree} (omits : Omits old new)

include omits

theorem field? : Value.field? leafName old = Value.field? leafName new := by
  induction omits with
  | drops named drops => exact drops.field? named
  | inside named omits ih => rw [field?_cons_of_ne named, field?_cons_of_ne named]
  | @behind e old new omits ih =>
      obtain ⟨key, v⟩ := e
      by_cases same : key = .text leafName
      · rw [same, field?_cons_self, field?_cons_self]
      · rw [field?_cons_of_ne same, field?_cons_of_ne same, ih]

theorem leafPaths_eq (above : List Value) : leafPaths above old = leafPaths above new := by
  induction omits generalizing above with
  | drops named drops => exact drops.leafPaths_eq above
  | inside named omits ih =>
      rw [leafPaths, leafPaths, leafPathsAt, leafPathsAt, omits.field?, ih]
  | behind omits ih => rw [leafPaths, leafPaths, ih]

theorem checkTree_eq (path : String) : Load.checkTree path old = Load.checkTree path new := by
  induction omits generalizing path with
  | drops named drops => exact drops.checkTree_eq path
  | inside named omits ih =>
      simp only [Load.checkTree, Load.checkNode, omits.field?, ih]
  | behind omits ih => rw [Load.checkTree, Load.checkTree, ih]

theorem leafPathsAt_eq (path : List Value) :
    leafPathsAt path (.map old) = leafPathsAt path (.map new) := by
  rw [leafPathsAt, leafPathsAt, omits.field?, omits.leafPaths_eq]

theorem checkNode_eq (path : String) :
    Load.checkNode path (.map old) = Load.checkNode path (.map new) := by
  rw [Load.checkNode, Load.checkNode, omits.field?, omits.checkTree_eq]

end Omits

/-! ## Trees of the same names -/

/-- Trees of the same names, with values under each of them that are related in some way. -/
inductive Pairs (related : Value → Value → Value → Prop) : Tree → Tree → Prop where
  | nil : Pairs related [] []
  | cons {name v w : Value} {tree other : Tree} (here : related name v w)
    (behind : Pairs related tree other) : Pairs related ((name, v) :: tree) ((name, w) :: other)

/-- A tree whose names are texts and differ from each other. -/
def Titled (tree : Tree) : Prop :=
  (∀ key ∈ tree.map Prod.fst, IsTitle key) ∧ (tree.map Prod.fst).Nodup

/-- A name that does not make a leaf of the mapping in which it stands. -/
def IsPlain (name : Value) : Prop := name ≠ .text leafName

/-- Two values that have the same leaves. They may differ under some names only. -/
def SameLeaves (free : Value → Prop) (name v w : Value) : Prop :=
  v = w ∨ free name ∧ ∀ path, leafPathsAt path v = leafPathsAt path w

/-- Two values that have the same leaves whatever they are laid over. -/
structure Alike (v w : Value) : Prop where
  null : isNullLeaf v = isNullLeaf w
  overlaid : ∀ below path,
    leafPathsAt path (overlayValue below v) = leafPathsAt path (overlayValue below w)

/-- Two values that are alike. They may differ under some names only. -/
def SameStyles (free : Value → Prop) (name v w : Value) : Prop := v = w ∨ free name ∧ Alike v w

theorem SameStyles.sameLeaves {free : Value → Prop} {name v w : Value}
    (same : SameStyles free name v w) : SameLeaves free name v w := by
  rcases same with same | ⟨named, alike⟩
  · exact .inl same
  · refine .inr ⟨named, fun path => ?_⟩
    have bare := alike.overlaid none path
    rwa [overlayValue_none, overlayValue_none] at bare

namespace Pairs

variable {related : Value → Value → Value → Prop} {tree other : Tree}

theorem refl (each : ∀ name v, related name v v) (tree : Tree) : Pairs related tree tree := by
  induction tree with
  | nil => exact .nil
  | cons e rest ih => exact .cons (each e.1 e.2) ih

theorem mono {weaker : Value → Value → Value → Prop} (pairs : Pairs related tree other)
    (weaken : ∀ name v w, related name v w → weaker name v w) : Pairs weaker tree other := by
  induction pairs with
  | nil => exact .nil
  | cons here rest ih => exact .cons (weaken _ _ _ here) ih

theorem put {title v w : Value} (titled : IsTitle title) (pairs : Pairs related tree other)
    (here : related title v w) :
    Pairs related (Value.put title v tree) (Value.put title w other) := by
  induction pairs with
  | nil => exact .cons here .nil
  | @cons key x y tree other under rest ih =>
      rw [Value.put, Value.put]
      split_ifs with found
      · rw [(sameKey_title_iff titled).mp found]
        exact .cons here rest
      · exact .cons under ih

theorem field? (pairs : Pairs (SameLeaves IsPlain) tree other) :
    Value.field? leafName tree = Value.field? leafName other := by
  induction pairs with
  | nil => rfl
  | @cons key x y tree other under rest ih =>
      by_cases named : key = .text leafName
      · subst named
        rcases under with rfl | ⟨differs, -⟩
        · rw [field?_cons_self, field?_cons_self]
        · cases differs rfl
      · rw [field?_cons_of_ne named, field?_cons_of_ne named, ih]

theorem leafPaths_eq {free : Value → Prop} (pairs : Pairs (SameLeaves free) tree other)
    (above : List Value) : leafPaths above tree = leafPaths above other := by
  induction pairs with
  | nil => rfl
  | @cons key x y tree other under rest ih =>
      have here : leafPathsAt (above ++ [key]) x = leafPathsAt (above ++ [key]) y := by
        rcases under with rfl | ⟨-, every⟩
        · rfl
        · exact every _
      rw [leafPaths, leafPaths, here, ih]

theorem leafPathsAt_eq (pairs : Pairs (SameLeaves IsPlain) tree other) (path : List Value) :
    leafPathsAt path (.map tree) = leafPathsAt path (.map other) := by
  rw [leafPathsAt, leafPathsAt, pairs.field?, pairs.leafPaths_eq]

end Pairs

/-! ## Overlaying -/

theorem isNullLeaf_map {tree other : Tree}
    (same : Value.field? leafName tree = Value.field? leafName other) :
    isNullLeaf (.map tree) = isNullLeaf (.map other) := by
  rw [isNullLeaf, isNullLeaf, same]

/-- Trees of alike values have the same leaves when they are laid over a tree, or over two of the
same leaves which agree on the names that are set. -/
theorem Pairs.overlay {free : Value → Prop} {tree other : Tree}
    (pairs : Pairs (SameStyles free) tree other) (titled : Titled tree) {below under : Tree}
    (lower : Pairs (SameLeaves free) below under)
    (found : ∀ e ∈ tree, find? e.1 below = find? e.1 under) :
    Pairs (SameLeaves free) (Theme.overlay below tree) (Theme.overlay under other) := by
  induction pairs generalizing below under with
  | nil => exact lower
  | @cons key v w tree other here rest ih =>
      obtain ⟨titles, distinct⟩ := titled
      rw [List.map_cons, List.forall_mem_cons] at titles
      rw [List.map_cons, List.nodup_cons] at distinct
      obtain ⟨title, titles⟩ := titles
      obtain ⟨first, others⟩ := List.forall_mem_cons.mp found
      have null : isNullLeaf v = isNullLeaf w := by
        rcases here with rfl | ⟨-, alike⟩
        · rfl
        · exact alike.null
      have set : SameLeaves free key (overlayValue (find? key below) v)
          (overlayValue (find? key under) w) := by
        rw [← first]
        rcases here with rfl | ⟨named, alike⟩
        · exact .inl rfl
        · exact .inr ⟨named, alike.overlaid _⟩
      rw [Theme.overlay, Theme.overlay, ← null]
      split_ifs
      · exact ih ⟨titles, distinct.2⟩ lower others
      · refine ih ⟨titles, distinct.2⟩ (lower.put title set) ?_
        intro e member
        have also := titles e.1 (List.mem_map_of_mem member)
        have differs : key ≠ e.1 := by
          intro same
          exact distinct.1 (List.mem_map.mpr ⟨e, member, same.symm⟩)
        rw [find?_put_of_ne also differs, find?_put_of_ne also differs, others e member]

/-- Mappings of alike values are alike. -/
theorem Pairs.alike {tree other : Tree} (pairs : Pairs (SameStyles IsPlain) tree other)
    (titled : Titled tree) : Alike (.map tree) (.map other) := by
  have leaves := pairs.mono fun _ _ _ => SameStyles.sameLeaves
  refine ⟨isNullLeaf_map leaves.field?, fun below path => ?_⟩
  obtain ⟨under, laid⟩ | alone := overlayValue_cases below
  · rw [laid, laid]
    refine (pairs.overlay titled (Pairs.refl (fun _ _ => .inl rfl) under) ?_).leafPathsAt_eq path
    exact fun _ _ => rfl
  · rw [alone, alone]
    exact leaves.leafPathsAt_eq path

/-- A mapping without a null leaf is like the one with it. -/
theorem Drops.alike {name : Value} {old new : Tree} (drops : Drops name old new)
    (named : name ≠ .text leafName) : Alike (.map old) (.map new) := by
  refine ⟨isNullLeaf_map (drops.field? named), fun below path => ?_⟩
  obtain ⟨under, laid⟩ | alone := overlayValue_cases below
  · rw [laid, laid, drops.overlay_eq]
  · rw [alone, alone]
    exact (Omits.drops named drops).leafPathsAt_eq path

/-! ## Names that are turned into texts -/

theorem Titled.put {tree : Tree} (titled : Titled tree) {title : Value} (also : IsTitle title)
    (v : Value) : Titled (Value.put title v tree) := by
  rw [Titled]
  rcases names_put title v tree with same | ⟨missing, longer⟩
  · rw [same]
    exact titled
  · rw [longer]
    refine ⟨fun key member => ?_, ?_⟩
    · rcases List.mem_append.mp member with inside | last
      · exact titled.1 key inside
      · rwa [List.mem_singleton.mp last]
    · rw [List.nodup_append']
      refine ⟨titled.2, List.nodup_singleton _, List.disjoint_singleton.mpr fun member => ?_⟩
      exact missing title member ((sameKey_title_iff also).mpr rfl)

theorem titled_nil : Titled [] := ⟨nofun, List.nodup_nil⟩

/-- Two computations fail alike, or both succeed and their results are related in some way. -/
inductive Agree {ε α β : Type} (related : α → β → Prop) : Except ε α → Except ε β → Prop where
  | ok {a : α} {b : β} (same : related a b) : Agree related (.ok a) (.ok b)
  | error (e : ε) : Agree related (.error e) (.error e)

theorem Agree.bind {ε α β γ δ : Type} {related : α → β → Prop} {also : γ → δ → Prop}
    {x : Except ε α} {y : Except ε β} {f : α → Except ε γ} {g : β → Except ε δ}
    (agree : Agree related x y) (next : ∀ a b, related a b → Agree also (f a) (g b)) :
    Agree also (x >>= f) (y >>= g) := by
  cases agree with
  | ok same => exact next _ _ same
  | error e => exact .error e

theorem Agree.mono {ε α β : Type} {related also : α → β → Prop} {x : Except ε α} {y : Except ε β}
    (agree : Agree related x y) (weaken : ∀ a b, related a b → also a b) : Agree also x y := by
  cases agree with
  | ok same => exact .ok (weaken _ _ same)
  | error e => exact .error e

theorem Agree.mapError {ε φ α β : Type} {related : α → β → Prop} {x : Except ε α} {y : Except ε β}
    (agree : Agree related x y) (f : ε → φ) : Agree related (x.mapError f) (y.mapError f) := by
  cases agree with
  | ok same => exact .ok same
  | error e => exact .error (f e)

theorem Agree.refl {ε α : Type} {related : α → α → Prop} (each : ∀ a, related a a)
    (x : Except ε α) : Agree related x x := by
  cases x with
  | ok a => exact .ok (each a)
  | error e => exact .error e

/-- Sets an entry under the text that its name stands for. -/
def setTitled (found : Tree) (e : Value × Value) : Except Breakdown Tree :=
  match Load.textName? e.1 with
  | some name => .ok (Value.put name e.2 found)
  | none => .error .nameNotText

theorem withTextNames_eq_foldlM (tree : Tree) :
    Load.withTextNames tree = tree.foldlM setTitled [] := rfl

theorem setTitled_of_means {key name : Value} (means : MeansName key name) (v : Value)
    (found : Tree) : setTitled found (key, v) = .ok (Value.put name v found) := by
  rw [setTitled, Load.textName?_eq_some.mpr means]

theorem setTitled_of_nameless {key : Value} (nameless : IsNameless key) (v : Value)
    (found : Tree) : setTitled found (key, v) = .error .nameNotText := by
  rw [setTitled, Load.textName?_eq_none.mpr nameless]

theorem means_or_nameless (key : Value) : (∃ name, MeansName key name) ∨ IsNameless key := by
  rw [IsNameless, ← not_exists]
  exact Classical.em _

/-- What two trees have become whose names have been turned into texts. -/
def Retitle (related : Value → Value → Value → Prop) (tree other : Tree) : Prop :=
  Titled tree ∧ Pairs related tree other

/-- Turning the names into texts one after the other goes alike where each step does. -/
theorem Pairs.foldlM {related also : Value → Value → Value → Prop} {tree other : Tree}
    {f g : Tree → Value × Value → Except Breakdown Tree} (pairs : Pairs related tree other)
    (step : ∀ key v w found fresh, related key v w → Retitle also found fresh →
      Agree (Retitle also) (f found (key, v)) (g fresh (key, w))) :
    Agree (Retitle also) (tree.foldlM f []) (other.foldlM g []) := by
  suffices every : ∀ found fresh, Retitle also found fresh →
      Agree (Retitle also) (tree.foldlM f found) (other.foldlM g fresh) from
    every [] [] ⟨titled_nil, .nil⟩
  induction pairs with
  | nil => exact fun found fresh before => .ok before
  | @cons key v w tree other here rest ih =>
      intro found fresh before
      rw [List.foldlM_cons, List.foldlM_cons]
      exact (step key v w found fresh here before).bind ih

theorem Pairs.withTextNames {related also : Value → Value → Value → Prop} {tree other : Tree}
    (pairs : Pairs related tree other)
    (turns : ∀ name title v w, MeansName name title → related name v w → also title v w) :
    Agree (Retitle also) (Load.withTextNames tree) (Load.withTextNames other) := by
  rw [withTextNames_eq_foldlM, withTextNames_eq_foldlM]
  refine pairs.foldlM fun key v w found fresh here before => ?_
  rcases means_or_nameless key with ⟨name, means⟩ | nameless
  · rw [setTitled_of_means means, setTitled_of_means means]
    exact .ok ⟨before.1.put means.isTitle v,
      before.2.put means.isTitle (turns key name v w means here)⟩
  · rw [setTitled_of_nameless nameless, setTitled_of_nameless nameless]
    exact .error _

/-- The variants of a kind in two themes, which are alike once their names are texts. -/
def SameVariants (v w : Value) : Prop :=
  v = w ∨ ∃ variants others, v = .map variants ∧ w = .map others ∧
    Agree (Retitle (SameStyles IsPlain)) (Load.withTextNames variants) (Load.withTextNames others)

theorem SameVariants.cases {v w : Value} (same : SameVariants v w) :
    (v = w ∧ ∀ variants, v ≠ .map variants) ∨
      ∃ variants others, v = .map variants ∧ w = .map others ∧
        Agree (Retitle (SameStyles IsPlain)) (Load.withTextNames variants)
          (Load.withTextNames others) := by
  rcases same with rfl | maps
  · by_cases grouped : ∃ variants, v = .map variants
    · obtain ⟨variants, rfl⟩ := grouped
      refine .inr ⟨variants, variants, rfl, rfl, ?_⟩
      have same : Pairs (fun _ v w => v = w) variants variants :=
        Pairs.refl (fun _ _ => rfl) variants
      exact same.withTextNames fun _ _ _ _ _ => .inl
    · exact .inl ⟨rfl, fun variants same => grouped ⟨variants, same⟩⟩
  · exact .inr maps

theorem Pairs.stylesWithTextNames {tree other : Tree}
    (pairs : Pairs (fun _ => SameVariants) tree other) :
    Agree (Retitle (SameStyles fun _ => True)) (Load.stylesWithTextNames tree)
      (Load.stylesWithTextNames other) := by
  refine pairs.foldlM fun key v w found fresh here before => ?_
  obtain ⟨rfl, single⟩ | ⟨variants, others, rfl, rfl, agree⟩ := here.cases
  · cases named : Load.textName? key <;> cases v <;>
      first | exact .error _ | exact absurd rfl (single _)
  · cases named : Load.textName? key with
    | none => exact .error _
    | some title =>
        have is := (Load.textName?_eq_some.mp named).isTitle
        refine agree.bind fun titled also same => .ok ⟨before.1.put is _, before.2.put is ?_⟩
        exact .inr ⟨trivial, same.2.alike same.1⟩

/-! ## A category that is left out -/

/-- A tree without the entries under a name, all of which are null leaves. -/
inductive Spares (name : Value) : Tree → Tree → Prop where
  | nil : Spares name [] []
  | kept {e : Value × Value} {tree rest : Tree} (other : e.1 ≠ name)
    (spares : Spares name tree rest) : Spares name (e :: tree) (e :: rest)
  | left {v : Value} {tree rest : Tree} (null : isNullLeaf v = true)
    (spares : Spares name tree rest) : Spares name ((name, v) :: tree) rest

namespace Spares

variable {name : Value} {tree rest : Tree} (spares : Spares name tree rest)

include spares

theorem leafPaths_eq (above : List Value) : leafPaths above tree = leafPaths above rest := by
  induction spares with
  | nil => rfl
  | kept other spares ih => rw [leafPaths, leafPaths, ih]
  | left null spares ih => rw [leafPaths, leafPathsAt_of_isNullLeaf null, List.nil_append, ih]

theorem put_null (titled : IsTitle name) {v : Value} (null : isNullLeaf v = true) :
    Spares name (Value.put name v tree) rest := by
  induction spares with
  | nil => exact .left null .nil
  | @kept e tree rest other spares ih =>
      rw [Value.put, if_neg fun same => other ((sameKey_title_iff titled).mp same)]
      exact .kept other ih
  | left _ spares ih =>
      rw [Value.put, if_pos ((sameKey_title_iff titled).mpr rfl)]
      exact .left null spares

theorem put_other {title : Value} (titled : IsTitle title) (differs : title ≠ name) (v : Value) :
    Spares name (Value.put title v tree) (Value.put title v rest) := by
  induction spares with
  | nil => exact .kept differs .nil
  | @kept e tree rest other spares ih =>
      rw [Value.put, Value.put]
      split_ifs
      · exact .kept other spares
      · exact .kept other ih
  | left null spares ih =>
      rw [Value.put, if_neg fun same => differs ((sameKey_title_iff titled).mp same).symm]
      exact .left null ih

end Spares

/-- Entries under other names are set in both trees. -/
theorem Spares.foldlM {name : Value} {tree found fresh : Tree} (spares : Spares name found fresh)
    (others : ∀ e ∈ tree, ¬ MeansName e.1 name) :
    Agree (Spares name) (tree.foldlM setTitled found) (tree.foldlM setTitled fresh) := by
  induction tree generalizing found fresh with
  | nil => exact .ok spares
  | cons e tree ih =>
      obtain ⟨here, others⟩ := List.forall_mem_cons.mp others
      rw [List.foldlM_cons, List.foldlM_cons]
      rcases means_or_nameless e.1 with ⟨title, means⟩ | nameless
      · have differs : title ≠ name := fun same => here (same ▸ means)
        rw [setTitled_of_means means, setTitled_of_means means]
        exact ih (spares.put_other means.isTitle differs e.2) others
      · rw [setTitled_of_nameless nameless, setTitled_of_nameless nameless]
        exact .error _

/-- An entry that is left out is the only one under its name. -/
theorem Drops.withTextNames {name title : Value} {old new : Tree}
    (drops : Drops name old new) (means : MeansName name title)
    (others : ∀ e ∈ new, ¬ MeansName e.1 title) :
    Agree (Spares title) (Load.withTextNames old) (Load.withTextNames new) := by
  rw [withTextNames_eq_foldlM, withTextNames_eq_foldlM]
  suffices every : ∀ found fresh, Spares title found fresh →
      Agree (Spares title) (old.foldlM setTitled found) (new.foldlM setTitled fresh) from
    every [] [] .nil
  induction drops with
  | @here v rest null written =>
      intro found fresh spares
      rw [List.foldlM_cons, setTitled_of_means means]
      exact (spares.put_null means.isTitle null).foldlM others
  | @behind e old new drops ih =>
      intro found fresh spares
      obtain ⟨here, others⟩ := List.forall_mem_cons.mp others
      rw [List.foldlM_cons, List.foldlM_cons]
      rcases means_or_nameless e.1 with ⟨also, alike⟩ | nameless
      · have differs : also ≠ title := fun same => here (same ▸ alike)
        rw [setTitled_of_means alike, setTitled_of_means alike]
        exact ih others _ _ (spares.put_other alike.isTitle differs e.2)
      · rw [setTitled_of_nameless nameless, setTitled_of_nameless nameless]
        exact .error _

/-! ## Places where null may stand -/

/-- A category without a null leaf, in itself or in a group below. -/
def OmitsBelow (v w : Value) : Prop :=
  v = w ∨ ∃ old new, v = .map old ∧ w = .map new ∧ Omits old new

/-- A variant without a property that is a null leaf. -/
def DropsProperty (variant v w : Value) : Prop :=
  v = w ∨ ¬ MeansName variant (.text leafName) ∧ ∃ name old new, v = .map old ∧ w = .map new ∧
    IsPlain name ∧ Drops name old new

/-- A kind without properties of its variants that are null leaves. -/
def DropsProperties (v w : Value) : Prop :=
  v = w ∨ ∃ variants others, v = .map variants ∧ w = .map others ∧
    Pairs DropsProperty variants others

/-- A theme without null leaves of another theme: without a category of tokens, the only one that
goes by its text; without groups or leaves below categories; or without properties of component
styles. -/
inductive OmitsNull (theme less : Tree) : Prop where
  | category {tree rest : Tree} {name title : Value}
    (found : Value.field? "tokens" theme = some (.map tree))
    (left : Value.field? "tokens" less = some (.map rest))
    (styles : Value.field? "components" theme = Value.field? "components" less)
    (free : name ≠ .text Load.reservedCategory) (means : MeansName name title)
    (drops : Drops name tree rest) (sole : ∀ e ∈ rest, ¬ MeansName e.1 title) :
    OmitsNull theme less
  | token {tree rest : Tree} (found : Value.field? "tokens" theme = some (.map tree))
    (left : Value.field? "tokens" less = some (.map rest))
    (styles : Value.field? "components" theme = Value.field? "components" less)
    (pairs : Pairs (fun _ => OmitsBelow) tree rest) : OmitsNull theme less
  | property {tree rest : Tree} (found : Value.field? "components" theme = some (.map tree))
    (left : Value.field? "components" less = some (.map rest))
    (tokens : Value.field? "tokens" theme = Value.field? "tokens" less)
    (pairs : Pairs (fun _ => DropsProperties) tree rest) : OmitsNull theme less

namespace Pairs

variable {tree other : Tree}

theorem hasField_eq {related : Value → Value → Value → Prop} (pairs : Pairs related tree other)
    (name : String) : Value.hasField name tree = Value.hasField name other := by
  induction pairs with
  | nil => rfl
  | @cons key v w tree other _ rest ih =>
      rw [Value.hasField, Value.hasField] at ih ⊢
      by_cases named : key = .text name
      · rw [named, field?_cons_self, field?_cons_self]
        rfl
      · rw [field?_cons_of_ne named, field?_cons_of_ne named, ih]

theorem checkTree_eq (pairs : Pairs (fun _ => OmitsBelow) tree other) (path : String) :
    Load.checkTree path tree = Load.checkTree path other := by
  induction pairs with
  | nil => rfl
  | @cons key v w tree other here rest ih =>
      have node (there : String) : Load.checkNode there v = Load.checkNode there w := by
        rcases here with rfl | ⟨old, new, rfl, rfl, omits⟩
        · rfl
        · exact omits.checkNode_eq _
      simp only [Load.checkTree, node, ih]

theorem checkVariants_eq (pairs : Pairs DropsProperty tree other) (kind : Value) :
    Load.checkVariants kind tree = Load.checkVariants kind other := by
  induction pairs with
  | nil => rfl
  | @cons key v w tree other here rest ih =>
      have variant (there : String) : Load.checkVariant there v = Load.checkVariant there w := by
        rcases here with rfl | ⟨-, name, old, new, rfl, rfl, -, drops⟩
        · rfl
        · rw [Load.checkVariant, Load.checkVariant, drops.checkTree_eq]
      simp only [Load.checkVariants, variant, ih]

theorem checkKinds_eq (pairs : Pairs (fun _ => DropsProperties) tree other) :
    Load.checkKinds tree = Load.checkKinds other := by
  induction pairs with
  | nil => rfl
  | @cons key v w tree other here rest ih =>
      rcases here with rfl | ⟨variants, others, rfl, rfl, below⟩
      · cases v with
        | map variants => rw [Load.checkKinds, Load.checkKinds, ih]
        | _ => rfl
      · rw [Load.checkKinds, Load.checkKinds, below.checkVariants_eq, ih]

theorem sameLeaves (pairs : Pairs (fun _ => OmitsBelow) tree other) :
    Agree (Retitle (SameLeaves fun _ => True)) (Load.withTextNames tree)
      (Load.withTextNames other) := by
  refine pairs.withTextNames fun name s v w means here => ?_
  rcases here with rfl | ⟨old, new, rfl, rfl, omits⟩
  · exact .inl rfl
  · exact .inr ⟨trivial, omits.leafPathsAt_eq⟩

theorem sameVariants (pairs : Pairs (fun _ => DropsProperties) tree other) :
    Pairs (fun _ => SameVariants) tree other := by
  refine pairs.mono fun _ v w here => ?_
  rcases here with rfl | ⟨variants, others, rfl, rfl, below⟩
  · exact .inl rfl
  · refine .inr ⟨variants, others, rfl, rfl, below.withTextNames fun name s v w means here => ?_⟩
    rcases here with rfl | ⟨differs, property, old, new, rfl, rfl, named, drops⟩
    · exact .inl rfl
    · refine .inr ⟨?_, drops.alike named⟩
      rintro same
      exact differs (same ▸ means)

end Pairs

/-! ## Resolution -/

/-- Tokens that have the same leaves. -/
def SameTokens (tokens other : Option TokenSet) : Prop :=
  leafPaths [] ((tokens.map TokenSet.tokens).getD []) =
    leafPaths [] ((other.map TokenSet.tokens).getD [])

theorem SameTokens.refl (tokens : Option TokenSet) : SameTokens tokens tokens := rfl

/-- Component styles that have the same leaves whatever they are laid over. -/
def SameOverlays (styles other : Option Tree) : Prop :=
  ∀ below, leafPaths [.text componentKey] (overlay below (styles.getD [])) =
    leafPaths [.text componentKey] (overlay below (other.getD []))

theorem Load.tokens_agree {source : String} {theme less tree rest : Tree}
    (found : Value.field? "tokens" theme = some (.map tree))
    (left : Value.field? "tokens" less = some (.map rest))
    (checked : ∀ path, checkTree path tree = checkTree path rest)
    (reserved : Value.hasField reservedCategory tree = Value.hasField reservedCategory rest)
    (named : checkName theme = checkName less)
    (titled : Agree (fun tree rest => leafPaths [] tree = leafPaths [] rest) (withTextNames tree)
      (withTextNames rest)) :
    Agree SameTokens (tokens source theme) (tokens source less) := by
  rw [tokens, tokens, found, left]
  dsimp only
  rw [checked, reserved, named]
  refine (Agree.refl (fun _ => Eq.refl _) _).bind fun _ _ _ => ?_
  split_ifs
  · exact .error _
  · refine (Agree.refl (fun _ => Eq.refl _) _).bind fun _ _ _ => ?_
    exact (titled.mapError _).bind fun _ _ same => .ok same

theorem Load.tokens_of_same (source : String) {theme less : Tree}
    (same : Value.field? "tokens" theme = Value.field? "tokens" less)
    (named : checkName theme = checkName less) :
    Agree SameTokens (tokens source theme) (tokens source less) := by
  by_cases grouped : ∃ tree, Value.field? "tokens" theme = some (.map tree)
  · obtain ⟨tree, found⟩ := grouped
    refine tokens_agree found (same ▸ found) (fun _ => rfl) rfl named ?_
    exact Agree.refl (fun tree => Eq.refl (leafPaths [] tree)) _
  · have alike : tokens source theme = tokens source less := by
      rw [tokens, tokens, ← same]
      split
      · rfl
      · rfl
      · exact absurd ⟨_, ‹_›⟩ grouped
      · rfl
    rw [alike]
    exact Agree.refl SameTokens.refl _

theorem Load.components_of_same (source : String) {theme less : Tree}
    (same : Value.field? "components" theme = Value.field? "components" less) :
    Agree SameOverlays (components source theme) (components source less) := by
  have alike : components source theme = components source less := by
    rw [components, components, same]
  rw [alike]
  exact Agree.refl (fun _ _ => rfl) _

theorem Load.components_agree {source : String} {theme less tree rest : Tree}
    (found : Value.field? "components" theme = some (.map tree))
    (left : Value.field? "components" less = some (.map rest))
    (pairs : Pairs (fun _ => DropsProperties) tree rest) :
    Agree SameOverlays (components source theme) (components source less) := by
  rw [components, components, found, left]
  dsimp only
  rw [pairs.checkKinds_eq]
  refine (Agree.refl (fun _ => Eq.refl _) _).bind fun _ _ _ => ?_
  refine (pairs.sameVariants.stylesWithTextNames.mapError _).bind fun styles others same => .ok ?_
  intro below
  refine (same.2.overlay same.1 (Pairs.refl (fun _ _ => .inl rfl) below) ?_).leafPaths_eq _
  exact fun _ _ => rfl

/-- The parts of a theme without null leaves have the leaves of the parts with them. -/
theorem OmitsNull.agree {theme less : Tree} (omits : OmitsNull theme less)
    (named : Load.checkName theme = Load.checkName less) (source : String) :
    Agree SameTokens (Load.tokens source theme) (Load.tokens source less) ∧
      Agree SameOverlays (Load.components source theme) (Load.components source less) := by
  cases omits with
  | category found left styles free means drops sole =>
      refine ⟨?_, Load.components_of_same source styles⟩
      refine Load.tokens_agree found left drops.checkTree_eq ?_ named ?_
      · rw [Value.hasField, Value.hasField, drops.field? free]
      · exact (drops.withTextNames means sole).mono fun _ _ spares => spares.leafPaths_eq []
  | token found left styles pairs =>
      refine ⟨?_, Load.components_of_same source styles⟩
      refine Load.tokens_agree found left pairs.checkTree_eq (pairs.hasField_eq _) named ?_
      exact pairs.sameLeaves.mono fun _ _ same => same.2.leafPaths_eq []
  | property found left tokens pairs =>
      exact ⟨Load.tokens_of_same source tokens named, Load.components_agree found left pairs⟩

theorem layeredPaths_getD (defaults : Tree) (tokens styles : Option Tree) :
    layeredPaths defaults tokens styles = leafPaths [] defaults ++
      leafPaths [] (tokens.getD []) ++ leafPaths [.text componentKey] (styles.getD []) := by
  cases tokens <;> cases styles <;> rfl

theorem resolve_congr (defaults : Tree) {tokens other styles also : Option Tree}
    (same : leafPaths [] (tokens.getD []) = leafPaths [] (other.getD []))
    (alike : leafPaths [.text componentKey] (styles.getD []) =
      leafPaths [.text componentKey] (also.getD [])) (diagnostics : List Refusal) :
    resolve defaults tokens styles diagnostics = resolve defaults other also diagnostics := by
  have tokenLeaves := leaves_of_leafPaths same
  have styleLeaves := leaves_of_leafPaths alike
  rw [resolve, resolve, flatten_getD, flatten_getD, flatten_getD, flatten_getD,
    layeredPaths_getD, layeredPaths_getD, same, alike]
  rw [show leaves "" (tokens.getD []) = _ from tokenLeaves,
    show leaves componentKey (styles.getD []) = _ from styleLeaves]
  rfl

/-- A theme is resolved from the leaves of its tokens and of its overlaid styles. -/
theorem Resolved.ofUser_congr (base : Base) {user other : UserTheme}
    (same : SameTokens user.tokens other.tokens)
    (alike : SameOverlays user.components other.components) :
    ofUser base (.ok user) = ofUser base (.ok other) := by
  have styles : leafPaths [.text componentKey]
        ((some (overlay base.styles (user.components.getD []))).getD []) =
      leafPaths [.text componentKey]
        ((some (overlay base.styles (other.components.getD []))).getD []) := alike base.styles
  have writes : base.writes user = base.writes other := by
    rw [Base.writes, Base.writes, layeredPaths_getD, layeredPaths_getD, same, styles]
  rw [ofUser, ofUser, writes, resolve_congr base.tokens same styles []]

theorem Resolved.ofUser_agree (base : Base) {source : String} {name also : Option String}
    {tokens tokens' : Except Failure (Option TokenSet)}
    {styles styles' : Except Failure (Option Tree)}
    (same : Agree SameTokens tokens tokens') (alike : Agree SameOverlays styles styles') :
    ofUser base (do
      let tokens ← tokens
      return ⟨source, name, tokens, ← styles⟩) =
    ofUser base (do
      let tokens ← tokens'
      return ⟨source, also, tokens, ← styles'⟩) := by
  cases same with
  | error failure => rfl
  | ok same =>
      cases alike with
      | error failure => rfl
      | ok alike =>
          exact ofUser_congr base same alike

theorem UserTheme.ofText_of_holds {content : String} {theme : Tree} (holds : Holds content theme)
    (source : String) :
    ofText content source = (do
      let tokens ← Load.tokens source theme
      return ⟨source, Load.themeName? theme, tokens, ← Load.components source theme⟩) := by
  obtain ⟨entries, loaded, found⟩ := holds
  have opened := Load.themeEntries_eq_ok.mpr ⟨entries, rfl, found⟩
  rw [ofText, Load.value, loaded]
  dsimp only [bind, Except.bind]
  rw [opened]
  rfl

/-- **Null is absent.** Two texts hold themes that differ in null leaves, which one has and the
other leaves out: a category of tokens that no other category is called like, groups and leaves of
tokens at any depth, or properties of component styles. Where the name that the theme gives itself
can be written in both or in none, they come to the same over every base, be it a theme, with its
variables in their order and its index, a refusal, or a break. -/
theorem Resolved.null_is_absent {content shorter : String} {theme less : Tree}
    (first : Holds content theme) (second : Holds shorter less) (omits : OmitsNull theme less)
    (named : Load.checkName theme = Load.checkName less) (base : Base) (source : String) :
    ofText base (some content) source = ofText base (some shorter) source := by
  obtain ⟨tokens, styles⟩ := omits.agree named source
  rw [ofText, ofText, UserTheme.ofText_of_holds first, UserTheme.ofText_of_holds second]
  exact ofUser_agree base tokens styles

/-! ## Texts with and without null -/

/-- A text holds a theme that is made of texts, nulls and mappings alone. -/
theorem holds_of_isPlain {content : String} {theme : Tree}
    (plain : (Yaml.load content).toOption.any fun v =>
      isPlain v (.map [(.text "theme", .map theme)])) : Holds content theme := by
  cases loaded : Yaml.load content with
  | error e =>
      rw [loaded] at plain
      cases plain
  | ok v =>
      rw [loaded] at plain
      exact ⟨_, loaded.trans (congrArg Except.ok (eq_of_isPlain plain)), field?_cons_self ..⟩

/-- The text of a theme in which a colour is null beside another one. -/
def nullColorText : String :=
  "theme: \x7btokens: \x7bcolors: \x7bprimary: null, text: red\x7d\x7d\x7d"

/-- The text of the theme that has the other colour alone. -/
def colorText : String := "theme: \x7btokens: \x7bcolors: \x7btext: red\x7d\x7d\x7d"

/-- A colour that is null says as much as none. -/
theorem Resolved.null_color_is_absent :
    ofText .builtin (some nullColorText) "<theme>" =
      ofText .builtin (some colorText) "<theme>" := by
  let text : Value × Value := (.text "text", .text "red")
  have first : Holds nullColorText
      [(.text "tokens", .map [(.text "colors", .map [(.text "primary", .null), text])])] :=
    holds_of_isPlain (by decide +kernel)
  have second : Holds colorText [(.text "tokens", .map [(.text "colors", .map [text])])] :=
    holds_of_isPlain (by decide +kernel)
  have named : (.text "primary" : Value) ≠ .text leafName := by
    intro same
    exact absurd (Value.text.inj same) (by decide)
  refine null_is_absent first second ?_ rfl .builtin "<theme>"
  refine .token (field?_cons_self ..) (field?_cons_self ..) rfl (.cons (.inr ?_) .nil)
  exact ⟨_, _, rfl, rfl, .drops named (.here rfl rfl)⟩

/-- A text in which a variant is null does not say a theme. -/
theorem not_says_of_null_variant {content : String} {theme styles variants : Tree}
    {kind variant : Value} (holds : Holds content theme)
    (found : Value.field? "components" theme = some (.map styles))
    (held : (kind, .map variants) ∈ styles) (null : (variant, .null) ∈ variants)
    (tokens given : Option Tree) : ¬ Says content tokens given := by
  rintro ⟨other, also, -, gives⟩
  cases holds.unique also
  obtain ⟨among, same, each⟩ := gives.sound found _ held
  cases same
  obtain ⟨properties, differs, -⟩ := each _ null
  cases differs

/-- A variant that is null is refused, and with it the theme. -/
theorem Resolved.null_variant_refused :
    ofText .builtin (some "theme: \x7bcomponents: \x7bbutton: \x7bprimary: null\x7d\x7d\x7d")
        "<theme>" ≠
      ofText .builtin (some "theme: \x7bcomponents: \x7bbutton: \x7b\x7d\x7d\x7d")
        "<theme>" := by
  intro same
  have refused := congrArg (fun result => result.toOption.map (·.diagnostics.length)) same
  revert refused
  decide +kernel

end Wireframe.Theme
