import Wireframe.Table

/-! # Caches of bounded size

A cache keeps the values of the keys that were used last, at most as many as its size
admits. A value is made when its key is not there; the value whose key has not been used
for longest then gives way. A size below one admits no value at all.
-/

namespace Wireframe

/-- Values under keys, the key used last at the end, with the number of times a value was found. -/
structure Cache (κ α : Type) where
  size : Int
  entries : Table κ α
  hits : Nat

namespace Cache

variable {κ α : Type} [BEq κ]

/-- A cache without values. -/
def empty (size : Int) : Cache κ α := ⟨size, [], 0⟩

/-- The entries without the oldest one, if there are more than the size admits. -/
def trim (size : Int) (entries : Table κ α) : Table κ α :=
  if size < entries.length then entries.drop 1 else entries

/-- The value under a key, made if it is not there, and the cache after that. -/
def fetch (cache : Cache κ α) (key : κ) (make : Unit → α) : α × Cache κ α :=
  match cache.entries.get? key with
  | some value =>
    (value, { cache with
      entries := cache.entries.erase key ++ [(key, value)], hits := cache.hits + 1 })
  | none =>
    let value := make ()
    (value, { cache with entries := trim cache.size (cache.entries ++ [(key, value)]) })

end Cache

end Wireframe
