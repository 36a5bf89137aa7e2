import Wireframe.Proofs.Theme.Layers

/-! # Component styles among the variables

The keys of component styles all begin with `component.`. Where no token has such a key,
the component styles can be told from the variables alone, and with them the index that
says which variables style which components (`Wireframe.Theme.components_of_variables`). A
token with such a key is a variable like one of a component style, but it is not in the
index.
-/

namespace Wireframe.Theme

/-- A key below the key of component styles. -/
def IsComponentKey (key : String) : Prop := (componentKey ++ ".").toList <+: key.toList

instance (key : String) : Decidable (IsComponentKey key) :=
  inferInstanceAs (Decidable (_ <+: _))

/-- Tokens none of which has the key of a component style. -/
def Apart (tokens : Tree) : Prop := ∀ key ∈ Table.keys (leaves "" tokens), ¬ IsComponentKey key

theorem joinKey_of_ne {above : String} (named : above ≠ "") (name : Value) :
    joinKey above name = above ++ "." ++ name.toText := by
  rw [joinKey, if_neg]
  simpa using named

/-- The key of a name below a key begins with that key and a point, and so it is not empty. -/
theorem joinKey_below {above : String} (named : above ≠ "") (name : Value) :
    (above ++ ".").toList <+: (joinKey above name).toList ∧ joinKey above name ≠ "" := by
  have joined : (joinKey above name).toList = (above ++ ".").toList ++ name.toText.toList := by
    rw [joinKey_of_ne named, String.toList_append]
  refine ⟨⟨_, joined.symm⟩, fun empty => ?_⟩
  rw [empty, String.toList_append] at joined
  simp at joined

mutual

/-- The keys of the leaves below a key begin with that key and a point. -/
theorem leaves_below {above : String} (named : above ≠ "") (tree : Tree) :
    ∀ key ∈ Table.keys (leaves above tree), (above ++ ".").toList <+: key.toList := by
  match tree with
  | [] => nofun
  | (name, v) :: rest =>
      intro key member
      rw [leaves, Table.keys_append] at member
      rcases List.mem_append.mp member with here | behind
      · obtain ⟨first, filled⟩ := joinKey_below named name
        exact first.trans (leavesAt_below filled v key here)
      · exact leaves_below named rest key behind

/-- The keys of the leaves of a value begin with the key of the value. -/
theorem leavesAt_below {above : String} (named : above ≠ "") (v : Value) :
    ∀ key ∈ Table.keys (leavesAt above v), above.toList <+: key.toList := by
  have alone {text : String} : ∀ key ∈ Table.keys [(above, text)], above.toList <+: key.toList := by
    intro key member
    obtain rfl := List.mem_singleton.mp member
    exact List.prefix_rfl
  match v with
  | .map entries =>
      rw [leavesAt]
      cases held : Value.field? leafName entries with
      | none =>
          intro key member
          have below := leaves_below named entries key member
          rw [String.toList_append] at below
          exact (List.prefix_append _ _).trans below
      | some leaf =>
          cases leaf <;> first | exact alone | exact nofun
  | .null => exact nofun
  | .bool _ | .int _ | .float _ | .text _ | .halved _ | .bytes _ | .date _ | .dateTime _ | .time _
  | .list _ | .tuple _ | .set _ => exact alone

end

theorem keys_putAll_nil (entries : Variables) :
    (Table.putAll [] entries).keys = (Table.keys entries).eraseDups :=
  Table.keys_putAll (show (Table.keys ([] : Variables)).Nodup from List.nodup_nil) entries

/-- Among different keys, those of component styles are found again if the keys before them are of
no component styles. -/
theorem filter_isComponentKey {tokens component : List String}
    (other : ∀ key ∈ tokens, ¬ IsComponentKey key) (own : ∀ key ∈ component, IsComponentKey key) :
    (tokens ++ component).eraseDups.filter (fun key => IsComponentKey key) =
      component.eraseDups := by
  have none : tokens.filter (fun key => IsComponentKey key) = [] := by
    rw [List.filter_eq_nil_iff]
    intro key member
    simpa using other key member
  have all : component.filter (fun key => IsComponentKey key) = component := by
    rw [List.filter_eq_self]
    intro key member
    simpa using own key member
  rw [Table.filter_eraseDups, List.filter_append, none, all, List.nil_append]

/-- The index has the keys of component styles, which are those among the variables that begin as
such keys do. -/
theorem components_resolve {defaults : Tree} {user : Option Tree} (base : Apart defaults)
    (above : ∀ tokens ∈ user, Apart tokens) (styles : Option Tree) (diagnostics : List Refusal) :
    let theme := resolve defaults user styles diagnostics
    theme.components =
      (theme.«variables».keys.filter fun key => IsComponentKey key).foldl index [] := by
  intro theme
  have tokens : ∀ key ∈ Table.keys (leaves "" defaults ++ leaves "" (user.getD [])),
      ¬ IsComponentKey key := by
    intro key member
    rw [Table.keys_append] at member
    rcases List.mem_append.mp member with low | high
    · exact base key low
    · cases user with
      | none => cases high
      | some tokens => exact above tokens rfl key high
  have component : ∀ key ∈ Table.keys (leaves componentKey (styles.getD [])),
      IsComponentKey key := leaves_below (by decide) (styles.getD [])
  have chosen : theme.«variables».keys.filter (fun key => IsComponentKey key) =
      (Table.keys (leaves componentKey (styles.getD []))).eraseDups := by
    rw [variables_resolve, keys_putAll_nil, allLeaves, Table.keys_append]
    exact filter_isComponentKey tokens component
  have indexed : theme.components =
      (Table.keys (leaves componentKey (styles.getD []))).eraseDups.foldl index [] := by
    cases styles with
    | none => rfl
    | some styles =>
        have flat : (flatten componentKey styles).keys =
            (Table.keys (leaves componentKey styles)).eraseDups := by
          rw [flatten_eq_putAll, keys_putAll_nil]
        rw [Option.getD_some, ← flat]
        rfl
  rw [chosen, indexed]

/-- Two themes without tokens among their component styles have the same index if they have the same
variables. -/
theorem components_of_variables {defaults : Tree} {user other : Option Tree} (base : Apart defaults)
    (above : ∀ tokens ∈ user, Apart tokens) (also : ∀ tokens ∈ other, Apart tokens)
    {styles others : Option Tree} {diagnostics more : List Refusal}
    (same : (resolve defaults user styles diagnostics).«variables» =
      (resolve defaults other others more).«variables») :
    (resolve defaults user styles diagnostics).components =
      (resolve defaults other others more).components := by
  rw [components_resolve base above, components_resolve base also, same]

end Wireframe.Theme
