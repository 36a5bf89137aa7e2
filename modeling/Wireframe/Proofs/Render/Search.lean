import Mathlib.Data.Prod.Lex
import Mathlib.Logic.Relation
import Mathlib.Order.Bounds.Basic
import Mathlib.Tactic.SplitIfs
import Wireframe.Proofs.Render.Reached
import Wireframe.Proofs.Theme.Declarations

/-! # Searches along references

A search takes a pending name, whichever it is, and passes over it or finds it; the names
that the value of a found name refers to become pending. No order is laid down in which
pending names are taken. Every search ends, because it finds no name twice
(`Wireframe.Render.Search.wellFounded_step`), and what it has found in the end is the least
set that takes in the roots and is closed under references
(`Wireframe.Render.Search.Tracks.isLeast`).

The variables that a document depends on are those that such a search finds
(`Wireframe.Render.variables_isLeast`), whatever refers to what, in cycles or into the void.
-/

namespace Wireframe.Render

open Relation (ReflTransGen)

/-! ## Steps -/

/-- A search under way: the names found, and those that are still to be looked at. -/
structure Search where
  found : List String
  pending : List String

/-- Names of a table that are closed under the references of their values and take in the roots, as
far as these are in the table. -/
structure Closed (table : Table String String) (roots : List String) (names : Set String) :
    Prop where
  defined : ∀ name ∈ names, name ∈ table.keys
  root : ∀ name ∈ roots, name ∈ table.keys → name ∈ names
  through : ∀ name ∈ names, ∀ value, table.get? name = some value →
    ∀ other ∈ references value, other ∈ table.keys → other ∈ names

namespace Search

/-- A search takes a pending name. It passes over one that it has found before or that has no value,
else it finds the name and puts what the value refers to among the pending names. -/
inductive Step (table : Table String String) : Search → Search → Prop
  | pass {found pending rest : List String} {name : String}
    (taken : pending.Perm (name :: rest)) (idle : name ∈ found ∨ table.get? name = none) :
    Step table ⟨found, pending⟩ ⟨found, rest⟩
  | find {found pending rest grown : List String} {name value : String}
    (taken : pending.Perm (name :: rest)) (fresh : name ∉ found)
    (given : table.get? name = some value) (added : grown.Perm (references value ++ rest)) :
    Step table ⟨found, pending⟩ ⟨name :: found, grown⟩

/-- The names of a table that a search has not found. -/
def unseen (table : Table String String) (s : Search) : List String :=
  table.keys.filter (· ∉ s.found)

variable {table : Table String String} {s t : Search}

/-- A step leaves fewer names unseen, or as many of them and fewer pending names. -/
theorem step_decreases (step : Step table s t) :
    toLex ((t.unseen table).length, t.pending.length) <
      toLex ((s.unseen table).length, s.pending.length) := by
  rw [Prod.Lex.toLex_lt_toLex]
  cases step with
  | pass taken idle =>
      refine .inr ⟨rfl, ?_⟩
      have longer := taken.length_eq
      rw [List.length_cons] at longer
      exact longer ▸ Nat.lt_succ_self _
  | @find found pending rest grown name value taken fresh given added =>
      refine .inl ?_
      have here : name ∈ unseen table ⟨found, pending⟩ := by
        have known : name ∈ table.keys := List.mem_map_of_mem (Table.mem_of_get? given)
        exact List.mem_filter.mpr ⟨known, by simpa using fresh⟩
      have fewer : unseen table ⟨name :: found, grown⟩ =
          (unseen table ⟨found, pending⟩).filter (· != name) := by
        rw [unseen, unseen, List.filter_filter]
        refine List.filter_congr fun other _ => ?_
        by_cases same : other = name <;> simp [same]
      rw [fewer]
      exact List.length_filter_lt_length_iff_exists.mpr ⟨name, here, by simp⟩

/-- **Searches end.** There is no endless sequence of steps. -/
theorem wellFounded_step (table : Table String String) :
    WellFounded fun later earlier => Step table earlier later :=
  Subrelation.wf step_decreases
    (InvImage.wf (fun s => toLex ((unseen table s).length, s.pending.length)) wellFounded_lt)

/-- A search goes on as long as names are pending. -/
theorem exists_step_iff : (∃ t, Step table s t) ↔ s.pending ≠ [] := by
  obtain ⟨found, pending⟩ := s
  constructor
  · rintro ⟨t, step⟩ nothing
    obtain rfl : pending = [] := nothing
    cases step with
    | pass taken => exact absurd taken.length_eq (by simp)
    | find taken => exact absurd taken.length_eq (by simp)
  · intro more
    obtain ⟨name, rest, rfl⟩ := List.exists_cons_of_ne_nil more
    by_cases seen : name ∈ found
    · exact ⟨_, .pass (List.Perm.refl _) (.inl seen)⟩
    · cases given : table.get? name with
      | none => exact ⟨_, .pass (List.Perm.refl _) (.inr given)⟩
      | some value => exact ⟨_, .find (List.Perm.refl _) seen given (List.Perm.refl _)⟩

/-! ## What a search finds -/

/-- A search from some roots has lost none of them, and no reference of what it has found, and it
has found nothing that is not in every closed set. -/
structure Tracks (table : Table String String) (roots : List String) (s : Search) : Prop where
  known : ∀ name ∈ s.found, name ∈ table.keys
  root : ∀ name ∈ roots, name ∈ table.keys → name ∈ s.found ∨ name ∈ s.pending
  through : ∀ name ∈ s.found, ∀ value, table.get? name = some value →
    ∀ other ∈ references value, other ∈ table.keys → other ∈ s.found ∨ other ∈ s.pending
  least : ∀ names, Closed table roots names → (∀ name ∈ s.found, name ∈ names) ∧
    ∀ name ∈ s.pending, name ∈ table.keys → name ∈ names

variable {roots : List String}

theorem tracks_start (table : Table String String) (roots : List String) :
    Tracks table roots ⟨[], roots⟩ :=
  ⟨nofun, fun _ member _ => .inr member, nofun, fun _ closed => ⟨nofun, closed.root⟩⟩

theorem Tracks.pass {found pending rest : List String} {name : String}
    (tracks : Tracks table roots ⟨found, pending⟩) (taken : pending.Perm (name :: rest))
    (idle : name ∈ found ∨ table.get? name = none) : Tracks table roots ⟨found, rest⟩ := by
  have still {other : String} (known : other ∈ table.keys)
      (before : other ∈ found ∨ other ∈ pending) : other ∈ found ∨ other ∈ rest := by
    rcases before with seen | waits
    · exact .inl seen
    · rcases List.mem_cons.mp (taken.mem_iff.mp waits) with rfl | later
      · exact idle.imp_right fun missing => absurd known (Table.not_mem_keys missing)
      · exact .inr later
  refine ⟨tracks.known, fun other member known => still known (tracks.root other member known),
    fun other seen value given next refers known =>
      still known (tracks.through other seen value given next refers known),
    fun names closed => ?_⟩
  obtain ⟨inside, waiting⟩ := tracks.least names closed
  exact ⟨inside, fun other later =>
    waiting other (taken.mem_iff.mpr (List.mem_cons_of_mem name later))⟩

theorem Tracks.find {found pending rest grown : List String} {name value : String}
    (tracks : Tracks table roots ⟨found, pending⟩) (taken : pending.Perm (name :: rest))
    (given : table.get? name = some value) (added : grown.Perm (references value ++ rest)) :
    Tracks table roots ⟨name :: found, grown⟩ := by
  have known : name ∈ table.keys := List.mem_map_of_mem (Table.mem_of_get? given)
  have still {other : String} (before : other ∈ found ∨ other ∈ pending) :
      other ∈ name :: found ∨ other ∈ grown := by
    rcases before with seen | waits
    · exact .inl (List.mem_cons_of_mem name seen)
    · rcases List.mem_cons.mp (taken.mem_iff.mp waits) with rfl | later
      · exact .inl List.mem_cons_self
      · exact .inr (added.mem_iff.mpr (List.mem_append_right _ later))
  refine ⟨List.forall_mem_cons.mpr ⟨known, tracks.known⟩,
    fun other member defined => still (tracks.root other member defined), ?_,
    fun names closed => ?_⟩
  · intro other seen held holds next refers defined
    rcases List.mem_cons.mp seen with rfl | before
    · obtain rfl := Option.some.inj (given.symm.trans holds)
      exact .inr (added.mem_iff.mpr (List.mem_append_left rest refers))
    · exact still (tracks.through other before held holds next refers defined)
  · obtain ⟨inside, waiting⟩ := tracks.least names closed
    have here : name ∈ names := waiting name (taken.mem_iff.mpr List.mem_cons_self) known
    refine ⟨List.forall_mem_cons.mpr ⟨here, inside⟩, fun other later defined => ?_⟩
    rcases List.mem_append.mp (added.mem_iff.mp later) with refers | before
    · exact closed.through name here value given other refers defined
    · exact waiting other (taken.mem_iff.mpr (List.mem_cons_of_mem name before)) defined

/-- A step keeps track. -/
theorem Tracks.step (tracks : Tracks table roots s) (step : Step table s t) :
    Tracks table roots t := by
  cases step with
  | pass taken idle => exact tracks.pass taken idle
  | find taken _ given added => exact tracks.find taken given added

/-- A search keeps track. -/
theorem Tracks.run (tracks : Tracks table roots s) (run : ReflTransGen (Step table) s t) :
    Tracks table roots t := by
  induction run with
  | refl => exact tracks
  | tail _ step ih => exact ih.step step

/-- When nothing is pending any more, what has been found is the least closed set. -/
theorem Tracks.isLeast (tracks : Tracks table roots s) (ended : s.pending = []) :
    IsLeast {names | Closed table roots names} {name | name ∈ s.found} := by
  have settled {name : String} (member : name ∈ s.found ∨ name ∈ s.pending) : name ∈ s.found :=
    member.resolve_right (ended ▸ List.not_mem_nil)
  refine ⟨⟨tracks.known, fun name member known => settled (tracks.root name member known), ?_⟩,
    fun names closed => (tracks.least names closed).1⟩
  intro name seen value given other refers known
  exact settled (tracks.through name seen value given other refers known)

end Search

/-! ## The search of a document -/

/-- A table without the names found is the same as looking names up in the table and leaving out
those found. -/
theorem get?_erase_found {table left : Table String String} {found : List String} {name : String}
    (rest : ∀ other, left.get? other = if other ∈ found then none else table.get? other)
    (other : String) :
    (left.erase name).get? other = if other ∈ name :: found then none else table.get? other := by
  rw [Table.get?_erase, rest]
  by_cases same : other = name <;> simp [same]

/-- Following references is a search: what is not reached is what the search has not found. -/
theorem exists_search {table left : Table String String} {found pending : List String}
    (rest : ∀ other, left.get? other = if other ∈ found then none else table.get? other) :
    ∃ last, ReflTransGen (Search.Step table) ⟨found, pending⟩ ⟨last, []⟩ ∧
      ∀ other, (unreached left pending).get? other =
        if other ∈ last then none else table.get? other := by
  fun_induction unreached left pending generalizing found with
  | case1 left => exact ⟨found, .refl, rest⟩
  | case2 left name pending unknown ih =>
      obtain ⟨last, run, reaches⟩ := ih rest
      have idle : name ∈ found ∨ table.get? name = none := by
        rw [rest] at unknown
        by_cases seen : name ∈ found
        · exact .inl seen
        · exact .inr (by rwa [if_neg seen] at unknown)
      exact ⟨last, .head (.pass (List.Perm.refl _) idle) run, reaches⟩
  | case3 left name pending value known _ ih =>
      obtain ⟨last, run, reaches⟩ := ih (get?_erase_found rest)
      rw [rest] at known
      split_ifs at known with seen
      exact ⟨last, .head (.find (List.Perm.refl _) seen known (List.Perm.refl _)) run, reaches⟩

/-- The classes of the nodes of a document. -/
def usedClasses (d : Document) : List String :=
  (styled d).flatMap fun (kind, variant) => classes kind variant

/-- The kinds, in lower case, and the variants under which component styles are looked up for a
document. -/
def usedLooks (d : Document) : List (String × String) :=
  (styled d).filterMap fun (kind, variant) => variant.map fun v => (Text.lower kind.name, v)

/-- Names that a theme declares which take in what the structural rules of the classes in use read,
what the component styles of the looks in use read, and, with each name, what its value refers to.
Of several declarations of a name the last one gives the value. -/
structure Supports (d : Document) (theme : Theme.Resolved) (names : Set String) : Prop where
  declared : ∀ name ∈ names, name ∈ theme.declarations.keys
  structural : ∀ class_ ∈ usedClasses d, ∀ name ∈ classReferences class_,
    name ∈ theme.declarations.keys → name ∈ names
  component : ∀ look ∈ usedLooks d, ∀ properties, theme.components.get? look = some properties →
    ∀ e ∈ properties, Theme.variableName e.2 ∈ theme.declarations.keys →
      Theme.variableName e.2 ∈ names
  through : ∀ name ∈ names, ∀ value, theme.declarations.lastValue? name = some value →
    ∀ other ∈ references value, other ∈ theme.declarations.keys → other ∈ names

section

variable (d : Document) (theme : Theme.Resolved)

theorem keys_named : (named theme).keys = theme.declarations.keys.eraseDups :=
  Theme.keys_putAll_nil theme.declarations

theorem mem_keys_named_iff {name : String} :
    name ∈ (named theme).keys ↔ name ∈ theme.declarations.keys := by
  rw [keys_named, List.mem_eraseDups]

theorem get?_named (name : String) :
    (named theme).get? name = theme.declarations.lastValue? name := by
  have set := Table.get?_putAll [] theme.declarations name
  exact set.trans Option.or_none

/-- What the classes of a document refer to: what the structural rules of the classes in use read,
and what the component styles of the looks in use read. -/
theorem mem_referred_iff {name : String} :
    name ∈ referred d theme ↔ (∃ class_ ∈ usedClasses d, name ∈ classReferences class_) ∨
      ∃ look ∈ usedLooks d, ∃ properties, theme.components.get? look = some properties ∧
        ∃ e ∈ properties, Theme.variableName e.2 = name := by
  constructor
  · intro member
    obtain ⟨⟨kind, variant⟩, styled, refers⟩ := List.mem_flatMap.mp member
    rcases List.mem_append.mp refers with structural | component
    · obtain ⟨class_, own, reads⟩ := List.mem_flatMap.mp structural
      exact .inl ⟨class_, List.mem_flatMap.mpr ⟨_, styled, own⟩, reads⟩
    · cases variant with
      | none => cases component
      | some v =>
          obtain ⟨e, listed, rfl⟩ := List.mem_map.mp component
          cases found : theme.components.get? (Text.lower kind.name, v) with
          | none =>
              rw [found] at listed
              cases listed
          | some properties =>
              rw [found] at listed
              exact .inr ⟨_, List.mem_filterMap.mpr ⟨_, styled, rfl⟩, properties, found, e, listed,
                rfl⟩
  · rintro (⟨class_, used, reads⟩ | ⟨look, used, properties, found, e, listed, rfl⟩)
    · obtain ⟨⟨kind, variant⟩, styled, own⟩ := List.mem_flatMap.mp used
      exact List.mem_flatMap.mpr ⟨_, styled,
        List.mem_append_left _ (List.mem_flatMap.mpr ⟨class_, own, reads⟩)⟩
    · obtain ⟨⟨kind, variant⟩, styled, same⟩ := List.mem_filterMap.mp used
      obtain ⟨v, rfl, rfl⟩ := Option.map_eq_some_iff.mp same
      refine List.mem_flatMap.mpr ⟨_, styled, List.mem_append_right _ ?_⟩
      dsimp only
      rw [found]
      exact List.mem_map_of_mem listed

/-- The names that support a document are those that are closed and take in what its classes refer
to. -/
theorem closed_iff_supports {names : Set String} :
    Closed (named theme) (referred d theme) names ↔ Supports d theme names := by
  constructor
  · intro closed
    refine ⟨fun name member => (mem_keys_named_iff theme).mp (closed.defined name member),
      fun class_ used name reads declared => ?_,
      fun look used properties found e listed declared => ?_,
      fun name member value last other refers declared => ?_⟩
    · exact closed.root name ((mem_referred_iff d theme).mpr (.inl ⟨class_, used, reads⟩))
        ((mem_keys_named_iff theme).mpr declared)
    · exact closed.root _
        ((mem_referred_iff d theme).mpr (.inr ⟨look, used, properties, found, e, listed, rfl⟩))
        ((mem_keys_named_iff theme).mpr declared)
    · exact closed.through name member value ((get?_named theme name).trans last) other refers
        ((mem_keys_named_iff theme).mpr declared)
  · intro supports
    refine ⟨fun name member => (mem_keys_named_iff theme).mpr (supports.declared name member),
      fun name member declared => ?_, fun name member value found other refers declared => ?_⟩
    · rw [mem_keys_named_iff] at declared
      rcases (mem_referred_iff d theme).mp member with
        ⟨class_, used, reads⟩ | ⟨look, used, properties, found, e, listed, rfl⟩
      · exact supports.structural class_ used name reads declared
      · exact supports.component look used properties found e listed declared
    · exact supports.through name member value ((get?_named theme name).symm.trans found) other
        refers ((mem_keys_named_iff theme).mp declared)

/-- The variables that a document depends on are those that a search from its classes finds. -/
theorem exists_search_variables :
    ∃ last, ReflTransGen (Search.Step (named theme)) ⟨[], referred d theme⟩ ⟨last, []⟩ ∧
      Render.variables d theme = (named theme).keys.filter (· ∈ last) := by
  have rest (other : String) : (named theme).get? other =
      if other ∈ ([] : List String) then none else (named theme).get? other :=
    (if_neg List.not_mem_nil).symm
  obtain ⟨last, run, reaches⟩ := exists_search rest
  refine ⟨last, run, List.filter_congr fun name member => ?_⟩
  change ((unreached (named theme) (referred d theme)).get? name).isNone = _
  rw [reaches name]
  by_cases found : name ∈ last
  · simp [found]
  · have known : (named theme).get? name ≠ none := fun missing =>
      Table.not_mem_keys missing member
    simpa [found, Option.isSome_iff_ne_none] using known

/-- **Variables of a document.** The variables that a document depends on under a theme are listed
once each in the order of the theme, and they are the least set of declared names that supports the
document. Any search from the names that its classes refer to, in whatever order it takes them,
comes to an end and finds exactly these. -/
theorem variables_isLeast :
    let names := Render.variables d theme
    let start : Search := ⟨[], referred d theme⟩
    names.Nodup ∧ names.Sublist theme.declarations.keys.eraseDups ∧
    IsLeast {names | Supports d theme names} {name | name ∈ names} ∧
    (WellFounded fun later earlier => Search.Step (named theme) earlier later) ∧
    ∀ last, ReflTransGen (Search.Step (named theme)) start last →
      ((¬ ∃ next, Search.Step (named theme) last next) ↔ last.pending = []) ∧
      (last.pending = [] → ∀ name, name ∈ last.found ↔ name ∈ names) := by
  intro names start
  obtain ⟨last, run, chosen⟩ := exists_search_variables d theme
  have least {last : Search} (run : ReflTransGen (Search.Step (named theme)) start last)
      (ended : last.pending = []) :
      IsLeast {names | Supports d theme names} {name | name ∈ last.found} := by
    have tracks := (Search.tracks_start (named theme) (referred d theme)).run run
    simpa only [closed_iff_supports] using tracks.isLeast ended
  have mine : {name | name ∈ last} = {name | name ∈ names} := by
    have tracks := (Search.tracks_start (named theme) (referred d theme)).run run
    ext name
    rw [Set.mem_ofPred_eq, Set.mem_ofPred_eq, show names = _ from chosen, List.mem_filter,
      decide_eq_true_eq]
    exact ⟨fun found => ⟨tracks.known name found, found⟩, And.right⟩
  have distinct : (named theme).keys.Nodup :=
    Table.nodup_putAll (show (Table.keys ([] : Table String String)).Nodup from List.nodup_nil) _
  refine ⟨?_, ?_, mine ▸ least run rfl, Search.wellFounded_step _, fun other ran => ⟨?_, ?_⟩⟩
  · rw [show names = _ from chosen]
    exact distinct.filter _
  · rw [show names = _ from chosen, ← keys_named]
    exact List.filter_sublist
  · rw [Search.exists_step_iff, not_not]
  · intro ended name
    have same := (least ran ended).unique (mine ▸ least run rfl)
    exact Set.ext_iff.mp same name

end

end Wireframe.Render
