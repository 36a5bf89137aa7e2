import Mathlib.Tactic.SplitIfs
import Wireframe.Proofs.Document.Contract
import Wireframe.Theme.Tokens

/-! # Entries of token trees

What is found under a name in a tree of tokens after an entry is set, and what becomes of a
value that is laid over another one.
-/

namespace Wireframe.Theme

open Document.Contract (sameKey_text_iff)

theorem find?_cons_of_same {key name : Value} (same : name.sameKey key = true) (v : Value)
    (rest : Tree) : find? key ((name, v) :: rest) = some v := by
  rw [find?, List.find?_cons_of_pos]
  · rfl
  · exact same

theorem find?_cons_of_other {key name : Value} (other : ¬ name.sameKey key = true) (v : Value)
    (rest : Tree) : find? key ((name, v) :: rest) = find? key rest := by
  rw [find?, find?, List.find?_cons_of_neg]
  exact other

theorem field?_cons_of_ne {name : String} {key v : Value} {rest : Tree} (named : key ≠ .text name) :
    Value.field? name ((key, v) :: rest) = Value.field? name rest :=
  find?_cons_of_other (fun same => named (sameKey_text_iff.mp same)) v rest

theorem field?_cons_self (name : String) (v : Value) (rest : Tree) :
    Value.field? name ((.text name, v) :: rest) = some v :=
  find?_cons_of_same (sameKey_text_iff.mpr rfl) v rest

/-- Setting an entry keeps the names, or its name comes last. -/
theorem names_put (key v : Value) (tree : Tree) :
    (Value.put key v tree).map Prod.fst = tree.map Prod.fst ∨
      ((∀ name ∈ tree.map Prod.fst, ¬ name.sameKey key = true) ∧
        (Value.put key v tree).map Prod.fst = tree.map Prod.fst ++ [key]) := by
  induction tree with
  | nil => exact .inr ⟨nofun, rfl⟩
  | cons e rest ih =>
      obtain ⟨name, w⟩ := e
      rw [Value.put]
      split_ifs with found
      · exact .inl rfl
      · rcases ih with same | ⟨missing, longer⟩
        · exact .inl (by rw [List.map_cons, same, List.map_cons])
        · refine .inr ⟨?_, by rw [List.map_cons, longer, List.map_cons, List.cons_append]⟩
          rw [List.map_cons, List.forall_mem_cons]
          exact ⟨found, missing⟩

/-- A name that is a text, be it one that holds halves of surrogate pairs. -/
def IsTitle : Value → Prop
  | .text _ | .halved _ => True
  | _ => False

theorem isTitle_text (name : String) : IsTitle (.text name) := trivial

theorem sameKey_title_iff {key title : Value} (titled : IsTitle title) :
    key.sameKey title = true ↔ key = title := by
  cases title with
  | text name => exact sameKey_text_iff
  | halved codes => cases key <;> simp [Value.sameKey, Value.number?]
  | _ => exact titled.elim

theorem sameKey_of_title {key title : Value} (titled : IsTitle title) :
    title.sameKey key = true ↔ key = title := by
  cases title with
  | text name =>
      cases key with
      | text other => rw [Value.sameKey, beq_iff_eq, eq_comm, Value.text.injEq]
      | _ => simp [Value.sameKey, Value.number?]
  | halved codes =>
      cases key with
      | halved others => rw [Value.sameKey, beq_iff_eq, eq_comm, Value.halved.injEq]
      | _ => simp [Value.sameKey, Value.number?]
  | _ => exact titled.elim

theorem find?_put_self {title : Value} (titled : IsTitle title) (v : Value) (tree : Tree) :
    find? title (Value.put title v tree) = some v := by
  have own := (sameKey_title_iff titled).mpr rfl
  induction tree with
  | nil => exact find?_cons_of_same own v []
  | cons e rest ih =>
      obtain ⟨key, w⟩ := e
      rw [Value.put]
      split_ifs with found
      · exact find?_cons_of_same found v rest
      · exact (find?_cons_of_other found w _).trans ih

theorem find?_put_of_ne {key title : Value} (titled : IsTitle title) (differs : key ≠ title)
    (v : Value) (tree : Tree) : find? title (Value.put key v tree) = find? title tree := by
  induction tree with
  | nil => exact find?_cons_of_other (mt (sameKey_title_iff titled).mp differs) v []
  | cons e rest ih =>
      obtain ⟨other, w⟩ := e
      rw [Value.put]
      split_ifs with found
      · have beside : ¬ other.sameKey title = true := by
          intro same
          obtain rfl := (sameKey_title_iff titled).mp same
          exact differs ((sameKey_of_title titled).mp found)
        exact (find?_cons_of_other beside _ _).trans (find?_cons_of_other beside _ _).symm
      · by_cases same : other.sameKey title = true
        · exact (find?_cons_of_same same w _).trans (find?_cons_of_same same w rest).symm
        · exact (find?_cons_of_other same _ _).trans (ih.trans (find?_cons_of_other same _ _).symm)

/-- A value that is no mapping takes the place of what it is laid over. -/
theorem overlayValue_of_single {v : Value} (single : ∀ entries, v ≠ .map entries)
    (below : Option Value) : overlayValue below v = v := by
  cases v with
  | map entries => exact absurd rfl (single entries)
  | _ =>
      rw [overlayValue]
      nofun

/-- A mapping is laid over another mapping entry by entry, and takes the place of anything else. -/
theorem overlayValue_cases (below : Option Value) :
    (∃ under, ∀ entries, overlayValue below (.map entries) = .map (overlay under entries)) ∨
      ∀ v, overlayValue below v = v := by
  by_cases grouped : ∃ under, below = some (.map under)
  · obtain ⟨under, rfl⟩ := grouped
    exact .inl ⟨under, fun entries => by rw [overlayValue]⟩
  · refine .inr fun v => ?_
    have apart (under : Tree) : below ≠ some (.map under) := fun same => grouped ⟨under, same⟩
    by_cases mapping : ∃ entries, v = .map entries
    · obtain ⟨entries, rfl⟩ := mapping
      rw [overlayValue]
      exact apart
    · exact overlayValue_of_single (fun entries same => mapping ⟨entries, same⟩) below

theorem overlayValue_none (v : Value) : overlayValue none v = v := by
  cases v <;> rw [overlayValue] <;> nofun

/-! ## Plain values -/

mutual

/-- Whether a value is another one, where both are made of texts, nulls and mappings alone. -/
def isPlain : Value → Value → Bool
  | .null, .null => true
  | .text s, .text t => s == t
  | .map entries, .map others => arePlain entries others
  | _, _ => false

def arePlain : Tree → Tree → Bool
  | [], [] => true
  | (key, v) :: rest, (also, w) :: others => isPlain key also && isPlain v w && arePlain rest others
  | _, _ => false

end

mutual

theorem eq_of_isPlain {v w : Value} (plain : isPlain v w = true) : v = w := by
  match v, w with
  | .null, .null => rfl
  | .text s, .text t => exact congrArg Value.text (eq_of_beq plain)
  | .map entries, .map others => exact congrArg Value.map (eq_of_arePlain plain)

theorem eq_of_arePlain {tree other : Tree} (plain : arePlain tree other = true) :
    tree = other := by
  match tree, other with
  | [], [] => rfl
  | (key, v) :: rest, (also, w) :: others =>
      rw [arePlain, Bool.and_eq_true, Bool.and_eq_true] at plain
      rw [eq_of_isPlain plain.1.1, eq_of_isPlain plain.1.2, eq_of_arePlain plain.2]

end

end Wireframe.Theme
