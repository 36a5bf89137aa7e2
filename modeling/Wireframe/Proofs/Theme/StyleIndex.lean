import Wireframe.Proofs.Theme.Declarations

/-! # The index of component styles

The index of a theme is made by cutting the keys of its component styles at their points. Names
may hold points themselves, or be empty, so one key can come from names on several levels; but
its parts with points between them are the key again. So the index holds the keys of four parts
and no other ones, each under its own parts, whatever tree they come from
(`Wireframe.Theme.indexed_foldl`), and what it leads to is in the theme with the value of the
component styles (`Wireframe.Theme.Resolved.coheres`).
-/

namespace Wireframe.Theme

/-! ## Parts of a key -/

theorem keyParts_eq_splitOn (key : List Char) : keyParts key = key.splitOn '.' := by
  induction key with
  | nil => rfl
  | cons c rest ih =>
      rw [List.splitOn_cons_eq_if_modifyHead, ← ih]
      by_cases point : c = '.'
      · subst point
        rw [keyParts]
        rfl
      · obtain ⟨part, parts, same, joined⟩ := keyParts_cons point rest
        rw [joined, same, if_neg (by simpa using point)]
        rfl

theorem no_point_in_part {key part : List Char} (member : part ∈ keyParts key) : '.' ∉ part := by
  induction key generalizing part with
  | nil =>
      obtain rfl := List.mem_singleton.mp member
      exact List.not_mem_nil
  | cons c rest ih =>
      by_cases point : c = '.'
      · subst point
        rw [keyParts] at member
        rcases List.mem_cons.mp member with rfl | behind
        · exact List.not_mem_nil
        · exact ih behind
      · obtain ⟨first, parts, same, joined⟩ := keyParts_cons point rest
        rw [joined] at member
        rw [same] at ih
        rcases List.mem_cons.mp member with rfl | behind
        · rw [List.mem_cons, not_or]
          exact ⟨Ne.symm point, ih List.mem_cons_self⟩
        · exact ih (List.mem_cons_of_mem first behind)

/-- The parts of a key are the names that it joins, of which none has a point. -/
theorem parts_iff {key : String} {names : List String} (some : names ≠ []) :
    (keyParts key.toList).map String.ofList = names ↔
      key = ".".intercalate names ∧ NoPoint names := by
  have spelled : (".".intercalate names).toList = ['.'].intercalate (names.map String.toList) :=
    String.toList_intercalate
  constructor
  · rintro rfl
    refine ⟨String.toList_inj.mp ?_, ?_⟩
    · have back : String.toList ∘ String.ofList = id := funext fun _ => String.toList_ofList
      rw [spelled, List.map_map, back, List.map_id, keyParts_eq_splitOn, List.intercalate_splitOn]
    · rw [NoPoint, List.forall_mem_map]
      intro part member
      rw [String.toList_ofList]
      exact no_point_in_part member
  · rintro ⟨rfl, free⟩
    have cut : (['.'].intercalate (names.map String.toList)).splitOn '.' =
        names.map String.toList :=
      List.splitOn_intercalate '.' (List.forall_mem_map.mpr free) (by simpa using some)
    rw [keyParts_eq_splitOn, spelled, cut, List.map_map]
    exact List.map_id'' (fun _ => String.ofList_toList) names

/-- The key of a component style. -/
def styleKey (kind variant property : String) : String :=
  componentKey ++ "." ++ kind ++ "." ++ variant ++ "." ++ property

theorem styleKey_eq (kind variant property : String) :
    styleKey kind variant property = ".".intercalate [componentKey, kind, variant, property] := by
  simp [styleKey, String.append_assoc]

theorem noPoint_componentKey {names : List String} :
    NoPoint (componentKey :: names) ↔ NoPoint names := by
  have whole : '.' ∉ componentKey.toList := by decide
  rw [NoPoint, List.forall_mem_cons]
  exact and_iff_right whole

/-- The key of a place of component styles has the names of the place as its parts, if these have no
points. -/
theorem parts_spell {place : List String} (free : NoPoint place) :
    (keyParts (spell componentKey place).toList).map String.ofList = componentKey :: place := by
  rw [keyParts_spell free (by decide), keyParts_single (by decide), List.map_append,
    List.map_singleton, List.map_map, String.ofList_toList, List.singleton_append]
  exact congrArg _ (List.map_id'' (fun _ => String.ofList_toList) place)

/-- A key below that of component styles has `component` as its first part. -/
theorem parts_of_isComponentKey {key : String} (styled : IsComponentKey key) :
    ∃ parts, (keyParts key.toList).map String.ofList = componentKey :: parts := by
  obtain ⟨rest, same⟩ := styled
  rw [String.toList_append, List.append_assoc] at same
  have whole : '.' ∉ componentKey.toList := by decide
  have cut := List.splitOn_append_cons_self (a := '.') componentKey.toList rest
  rw [List.splitOn_eq_singleton whole] at cut
  rw [keyParts_eq_splitOn, ← same]
  exact ⟨(rest.splitOn '.').map String.ofList, by
    rw [show ".".toList ++ rest = '.' :: rest from rfl, cut]
    simp⟩

/-- The keys of component styles that have four parts are those of a kind, a variant and a
property. -/
theorem parts_iff_styleKey {key first kind variant property : String}
    (styled : IsComponentKey key) :
    (keyParts key.toList).map String.ofList = [first, kind, variant, property] ↔
      first = componentKey ∧ key = styleKey kind variant property ∧
        NoPoint [kind, variant, property] := by
  obtain ⟨parts, begun⟩ := parts_of_isComponentKey styled
  rw [styleKey_eq, ← noPoint_componentKey, ← parts_iff (List.cons_ne_nil _ _), begun]
  constructor
  · intro same
    obtain ⟨rfl, -⟩ := List.cons.inj same
    exact ⟨rfl, same⟩
  · rintro ⟨rfl, same⟩
    exact same

/-- The key of a kind, a variant and a property stands at their place alone. -/
theorem eq_of_styleKey {place : List String} {kind variant property : String}
    (clear : NoPoint place) (free : NoPoint [kind, variant, property])
    (same : spell componentKey place = styleKey kind variant property) :
    place = [kind, variant, property] := by
  have parts := parts_spell clear
  rw [same, (parts_iff (List.cons_ne_nil _ _)).mpr
    ⟨styleKey_eq kind variant property, noPoint_componentKey.mpr free⟩] at parts
  exact (List.cons.inj parts).2.symm

/-! ## The index of some keys -/

/-- The key that an index has for a property of a kind and a variant. -/
def indexed? (components : Table (String × String) Variables) (kind variant property : String) :
    Option String :=
  (components.get? (kind, variant)).bind fun properties => properties.get? property

/-- An index of keys: it holds nothing but keys that are there, each under its parts, and all that
have four parts. -/
structure Indexed (components : Table (String × String) Variables) (keys : List String) :
    Prop where
  filled : ∀ style ∈ components, style.2 ≠ []
  entry : ∀ style ∈ components, ∀ e ∈ style.2, e.2 ∈ keys ∧
    e.2 = styleKey style.1.1 style.1.2 e.1 ∧ NoPoint [style.1.1, style.1.2, e.1]
  found : ∀ kind variant property, NoPoint [kind, variant, property] →
    styleKey kind variant property ∈ keys →
    indexed? components kind variant property = some (styleKey kind variant property)

theorem indexed?_put (components : Table (String × String) Variables)
    (kind variant property key : String) (k v p : String) :
    indexed? (components.alter (kind, variant) [] fun found => found.put property key) k v p =
      if (k, v, p) = (kind, variant, property) then some key else indexed? components k v p := by
  rw [indexed?, Table.alter, Table.get?_put]
  by_cases style : (k, v) = (kind, variant)
  · obtain ⟨rfl, rfl⟩ := Prod.mk.inj style
    rw [if_pos (beq_self_eq_true _), Option.bind_some, Table.get?_put]
    by_cases same : p = property
    · subst same
      simp
    · rw [if_neg (by simpa using same), if_neg (by simpa using same), indexed?]
      cases components.get? (k, v) <;> rfl
  · rw [if_neg (by simpa using style), if_neg fun same => style ?_, indexed?]
    cases same
    rfl

theorem indexed_index {components : Table (String × String) Variables} {keys : List String}
    (indexed : Indexed components keys) {key : String} (styled : IsComponentKey key) :
    Indexed (index components key) (keys ++ [key]) := by
  have entries : ∀ style ∈ components, ∀ e ∈ style.2, e.2 ∈ keys ++ [key] ∧
      e.2 = styleKey style.1.1 style.1.2 e.1 ∧ NoPoint [style.1.1, style.1.2, e.1] :=
    fun style member e listed =>
      (indexed.entry style member e listed).imp_left (List.mem_append_left [key])
  unfold index
  split
  · rename_i first kind variant property parts
    obtain ⟨-, named, free⟩ := (parts_iff_styleKey styled).mp parts
    refine ⟨fun style member => ?_, fun style member e listed => ?_,
      fun k v p whole member => ?_⟩
    · rcases Table.mem_put member with rfl | before
      · exact Table.put_ne_nil _ _ _
      · exact indexed.filled style before
    · rcases Table.mem_put member with rfl | before
      · rcases Table.mem_put listed with rfl | earlier
        · exact ⟨List.mem_append_right _ List.mem_cons_self, named, free⟩
        · cases held : components.get? (kind, variant) with
          | none =>
              rw [held] at earlier
              cases earlier
          | some properties =>
              rw [held] at earlier
              exact entries _ (Table.mem_of_get? held) e earlier
      · exact entries style before e listed
    · rw [indexed?_put]
      split
      · rename_i same
        cases same
        rw [named]
      · rename_i other
        refine indexed.found k v p whole ?_
        rcases List.mem_append.mp member with before | last
        · exact before
        · have joined := (parts_iff_styleKey styled).mpr
            ⟨rfl, (List.mem_singleton.mp last).symm, whole⟩
          rw [joined] at parts
          cases parts
          exact absurd rfl other
  · rename_i short
    refine ⟨indexed.filled, entries, fun k v p whole member => indexed.found k v p whole ?_⟩
    rcases List.mem_append.mp member with before | last
    · exact before
    · exact absurd ((parts_iff_styleKey styled).mpr
        ⟨rfl, (List.mem_singleton.mp last).symm, whole⟩) (short _ _ _ _)

theorem indexed_foldl {keys : List String} (styled : ∀ key ∈ keys, IsComponentKey key) :
    Indexed (keys.foldl index []) keys := by
  induction keys using List.reverseRecOn with
  | nil => exact ⟨nofun, nofun, nofun⟩
  | append_singleton keys key ih =>
      rw [List.forall_mem_append] at styled
      rw [List.foldl_append]
      exact indexed_index (ih styled.1) (styled.2 key List.mem_cons_self)

/-! ## The index of a theme -/

/-- A theme is at one with its component styles: each key in its index is that of its kind, its
variant and its property, and a variable with the value that the styles give it; and each key of the
styles that has four parts is in the index. No kind and variant stands there without properties. -/
structure Resolved.Coheres (theme : Resolved) (styles : Variables) : Prop where
  filled : ∀ style ∈ theme.components, style.2 ≠ []
  entry : ∀ style ∈ theme.components, ∀ e ∈ style.2,
    e.2 = styleKey style.1.1 style.1.2 e.1 ∧ NoPoint [style.1.1, style.1.2, e.1] ∧
      ∃ value, styles.get? e.2 = some value ∧ theme.get? e.2 = some value
  indexed : ∀ kind variant property, NoPoint [kind, variant, property] →
    styleKey kind variant property ∈ styles.keys →
    indexed? theme.components kind variant property = some (styleKey kind variant property)

theorem keys_flatten (above : String) (tree : Tree) :
    (flatten above tree).keys = (leaves above tree).keys.eraseDups := by
  rw [flatten_eq_putAll, keys_putAll_nil]

/-- A theme is at one with the component styles that come of loading. -/
theorem Resolved.coheres {base : Base} {loaded : Except Failure UserTheme} {theme : Resolved}
    (applied : ofUser base loaded = .ok theme) :
    theme.Coheres (flatten componentKey (base.stylesOf loaded)) := by
  have made := eq_resolve applied
  have below : ∀ key ∈ (flatten componentKey (base.stylesOf loaded)).keys,
      key ∈ (leaves componentKey (base.stylesOf loaded)).keys := by
    intro key member
    rwa [keys_flatten, List.mem_eraseDups] at member
  have indexed := indexed_foldl fun key member => leaves_below (by decide) _ key (below key member)
  have components : theme.components =
      (flatten componentKey (base.stylesOf loaded)).keys.foldl index [] := by
    rw [made]
    rfl
  rw [← components] at indexed
  refine ⟨indexed.filled, fun style member e listed => ?_, indexed.found⟩
  obtain ⟨inside, named, free⟩ := indexed.entry style member e listed
  obtain ⟨value, last⟩ := Table.exists_lastValue? (below _ inside)
  refine ⟨named, free, value, ?_, ?_⟩
  · rw [get?_flatten, last]
  · rw [Resolved.get?, made, variables_resolve, Table.get?_putAll, allLeaves,
      Table.lastValue?_append, Option.getD_some, last]
    rfl

end Wireframe.Theme
