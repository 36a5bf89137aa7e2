import Wireframe.Cache
import Wireframe.Proofs.Table

/-! # What caches hold

Whatever holds of all values that are ever made holds of all values that a cache gives back
(`Wireframe.Cache.fetch_holds`): a cache makes up nothing.
-/

namespace Wireframe

namespace Cache

variable {κ α : Type} [BEq κ] [LawfulBEq κ]

/-- A property of keys with their values that holds throughout a cache. -/
def Holds (cache : Cache κ α) (property : κ → α → Prop) : Prop :=
  ∀ e ∈ cache.entries, property e.1 e.2

omit [BEq κ] [LawfulBEq κ] in
theorem holds_empty (size : Int) (property : κ → α → Prop) : (empty size).Holds property := by
  intro e member
  cases member

omit [BEq κ] [LawfulBEq κ] in
theorem mem_of_mem_trim {size : Int} {entries : Table κ α} {e : κ × α}
    (member : e ∈ trim size entries) : e ∈ entries := by
  unfold trim at member
  split at member
  · exact List.mem_of_mem_drop member
  · exact member

/-- **A cache makes up nothing.** If a property holds throughout a cache and of the value that would
be made for a key, it holds of the value that is fetched, and throughout the cache after that. -/
theorem fetch_holds {cache : Cache κ α} {key : κ} {property : κ → α → Prop} (make : Unit → α)
    (holds : cache.Holds property) (made : property key (make ())) :
    property key (cache.fetch key make).1 ∧ (cache.fetch key make).2.Holds property := by
  unfold fetch
  cases found : cache.entries.get? key with
  | some value =>
      have kept := holds _ (Table.mem_of_get? found)
      refine ⟨kept, fun e member => ?_⟩
      rcases List.mem_append.mp member with old | new
      · exact holds e (List.mem_filter.mp old).1
      · obtain rfl := List.mem_singleton.mp new
        exact kept
  | none =>
      refine ⟨made, fun e member => ?_⟩
      rcases List.mem_append.mp (mem_of_mem_trim member) with old | new
      · exact holds e old
      · obtain rfl := List.mem_singleton.mp new
        exact made

end Cache

end Wireframe
