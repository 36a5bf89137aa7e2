import Mathlib.Data.List.Induction
import Wireframe.Proofs.Cache
import Wireframe.Proofs.Table

/-! # Which values a cache keeps

The keys in a cache are those that were used last, as many as its size admits, in the order
of their last uses (`Wireframe.Cache.Follows`). So whether a use finds its key is known from
the uses before it alone, and with that what each key holds: the value that was made at the
last use that did not find the key.
-/

namespace Wireframe

namespace Cache

/-! ## Uses -/

section

variable {κ α : Type} [BEq κ]

/-- The distinct keys among some uses, the one used last in front. -/
def byLastUse (used : List κ) : List κ := used.reverse.eraseDups

/-- The keys that were used last, as many of them as a size admits, in the order of their last
uses. -/
def recent (size : Int) (used : List κ) : List κ := ((byLastUse used).take size.toNat).reverse

/-- Whether the use at a place finds its key among those that were used last before it. -/
def finds (size : Int) (used : List κ) (i : Nat) : Bool :=
  used[i]?.any (recent size (used.take i)).contains

/-- How many uses find their key. -/
def findCount (size : Int) (used : List κ) : Nat :=
  (List.range used.length).countP (finds size used)

/-- The uses that do not find their key, with the values that are made for them. -/
def insertions (size : Int) (uses : Table κ α) : Table κ α :=
  (List.range uses.length).filterMap fun i => if finds size uses.keys i then none else uses[i]?

/-- Uses a cache several times, with a value that can be made at each use. -/
def fetchAll (cache : Cache κ α) (uses : Table κ α) : Cache κ α :=
  uses.foldl (fun c use => (c.fetch use.1 fun _ => use.2).2) cache

theorem fetchAll_concat (cache : Cache κ α) (uses : Table κ α) (use : κ × α) :
    cache.fetchAll (uses ++ [use]) = ((cache.fetchAll uses).fetch use.1 fun _ => use.2).2 :=
  List.foldl_append ..

/-- What comes after a use does not matter to whether it finds its key. -/
theorem finds_append (size : Int) {used more : List κ} {i : Nat} (inside : i < used.length) :
    finds size (used ++ more) i = finds size used i := by
  rw [finds, finds, List.getElem?_append_left inside,
    List.take_append_of_le_length (Nat.le_of_lt inside)]

theorem finds_last (size : Int) (used : List κ) (key : κ) :
    finds size (used ++ [key]) used.length = (recent size used).contains key := by
  rw [finds, List.getElem?_concat_length, List.take_left, Option.any_some]

theorem findCount_concat (size : Int) (used : List κ) (key : κ) :
    findCount size (used ++ [key]) =
      findCount size used + if (recent size used).contains key then 1 else 0 := by
  have before : (List.range used.length).countP (finds size (used ++ [key])) =
      findCount size used := by
    apply List.countP_congr
    intro i member
    rw [finds_append size (List.mem_range.mp member)]
  rw [findCount, List.length_append, List.length_singleton, List.range_succ, List.countP_append,
    before, List.countP_singleton, finds_last]

theorem insertions_concat (size : Int) (uses : Table κ α) (key : κ) (value : α) :
    insertions size (uses ++ [(key, value)]) = insertions size uses ++
      if (recent size uses.keys).contains key then [] else [(key, value)] := by
  have length : uses.keys.length = uses.length := List.length_map _
  have keys : Table.keys (uses ++ [(key, value)]) = uses.keys ++ [key] := Table.keys_append ..
  have last := finds_last size uses.keys key
  rw [length] at last
  rw [insertions, List.length_append, List.length_singleton, List.range_succ,
    List.filterMap_append, keys]
  congr 1
  · apply List.filterMap_congr
    intro i member
    have inside := List.mem_range.mp member
    rw [finds_append size (length ▸ inside), List.getElem?_append_left inside]
  · rw [List.filterMap_cons, List.getElem?_concat_length, last]
    split_ifs <;> rfl

end

/-! ## Keys by their last use -/

section

variable {κ α : Type} [BEq κ] [LawfulBEq κ]

theorem nodup_eraseDups (items : List κ) : items.eraseDups.Nodup := by
  induction items using List.reverseRecOn with
  | nil => exact List.nodup_nil
  | append_singleton items item ih =>
      rw [Table.eraseDups_concat]
      by_cases member : item ∈ items
      · simpa [member] using ih
      · have fresh : items.eraseDups.Disjoint [item] := by simpa using member
        simpa [member] using ih.append (List.nodup_singleton item) fresh

/-- A key that is used comes to the front. -/
theorem byLastUse_concat (used : List κ) (key : κ) :
    byLastUse (used ++ [key]) = key :: (byLastUse used).filter fun other => !other == key := by
  rw [byLastUse, List.reverse_append, List.reverse_singleton, List.singleton_append,
    List.eraseDups_cons, ← Table.filter_eraseDups]
  rfl

theorem filter_of_not_mem {items : List κ} {item : κ} (missing : item ∉ items) :
    items.filter (fun other => !other == item) = items := by
  rw [List.filter_eq_self]
  intro other member
  have differs : other ≠ item := fun same => missing (same ▸ member)
  simpa using differs

/-- An item that is not among the first ones can be left out before they are taken. -/
theorem take_filter_of_not_mem {items : List κ} {item : κ} {n : Nat}
    (missing : item ∉ items.take n) :
    (items.filter fun other => !other == item).take n = items.take n := by
  induction items generalizing n with
  | nil => rfl
  | cons first items ih =>
      cases n with
      | zero => rw [List.take_zero, List.take_zero]
      | succ n =>
          rw [List.take_succ_cons, List.mem_cons, not_or] at missing
          have other : (!first == item) = true := by simpa using Ne.symm missing.1
          rw [List.filter_cons, if_pos other, List.take_succ_cons, List.take_succ_cons,
            ih missing.2]

/-- Leaving out an item that is among the first ones makes room for the one behind them. -/
theorem take_filter_of_mem {items : List κ} (distinct : items.Nodup) {item : κ} {n : Nat}
    (member : item ∈ items.take (n + 1)) :
    (items.filter fun other => !other == item).take n =
      (items.take (n + 1)).filter fun other => !other == item := by
  induction items generalizing n with
  | nil => cases member
  | cons first items ih =>
      obtain ⟨missing, others⟩ := List.nodup_cons.mp distinct
      by_cases same : first = item
      · subst same
        have out : ¬ (!first == first) = true := by simp
        rw [List.take_succ_cons, List.filter_cons, if_neg out, List.filter_cons, if_neg out,
          filter_of_not_mem missing,
          filter_of_not_mem fun inside => missing (List.mem_of_mem_take inside)]
      · have other : (!first == item) = true := by simpa using same
        rw [List.take_succ_cons, List.mem_cons] at member
        have behind : item ∈ items.take n := member.resolve_left (Ne.symm same)
        cases n with
        | zero => cases behind
        | succ n =>
            rw [List.take_succ_cons, List.filter_cons, if_pos other, List.take_succ_cons,
              ih others behind, List.filter_cons, if_pos other]

/-- A key that was found is used last, and no other key gives way. -/
theorem recent_of_mem {size : Int} {used : List κ} {key : κ} (member : key ∈ recent size used) :
    recent size (used ++ [key]) =
      (recent size used).filter (fun other => !other == key) ++ [key] := by
  have distinct : (byLastUse used).Nodup := nodup_eraseDups _
  rw [recent, List.mem_reverse] at member
  rw [recent, recent, byLastUse_concat, List.filter_reverse, ← List.reverse_cons]
  cases room : size.toNat with
  | zero =>
      rw [room] at member
      cases member
  | succ n =>
      rw [room] at member
      rw [List.take_succ_cons, take_filter_of_mem distinct member]

/-- A key that was not found is used last, and if there is no room for it, the one that was used
before all others gives way. -/
theorem recent_of_not_mem {size : Int} {used : List κ} {key : κ}
    (missing : key ∉ recent size used) :
    recent size (used ++ [key]) =
      (recent size used ++ [key]).drop ((recent size used).length + 1 - size.toNat) := by
  have front : key ∉ (byLastUse used).take size.toNat := fun member =>
    missing (List.mem_reverse.mpr member)
  have without := take_filter_of_not_mem front
  have bounded := List.length_take_le size.toNat (byLastUse used)
  have cut (items : List κ) (n : Nat) : (key :: items).take n = (key :: items.take n).take n := by
    cases n with
    | zero => rfl
    | succ n =>
        rw [List.take_succ_cons, List.take_succ_cons, List.take_take,
          Nat.min_eq_left (Nat.le_succ n)]
  rw [recent, recent, byLastUse_concat, cut, without, List.length_reverse, ← List.reverse_cons,
    List.drop_reverse, List.take_eq_take_iff.mpr]
  rw [List.length_cons]
  omega

omit [LawfulBEq κ] in
theorem length_recent_le (size : Int) (used : List κ) : (recent size used).length ≤ size.toNat := by
  rw [recent, List.length_reverse]
  exact List.length_take_le _ _

/-! ## The cache -/

omit [BEq κ] [LawfulBEq κ] in
/-- Where there is no room for one more entry, the oldest one gives way. -/
theorem trim_concat {size : Int} {entries : Table κ α} (bounded : entries.length ≤ size.toNat)
    (e : κ × α) :
    trim size (entries ++ [e]) = (entries ++ [e]).drop (entries.length + 1 - size.toNat) := by
  have length : (entries ++ [e]).length = entries.length + 1 := List.length_append
  unfold trim
  rw [length]
  split_ifs with full
  · congr 1
    omega
  · have none : entries.length + 1 - size.toNat = 0 := by omega
    rw [none, List.drop_zero]

/-- A cache of a size that was empty at first and has been used several times. -/
structure Follows (cache : Cache κ α) (room : Int) (uses : Table κ α) : Prop where
  size : cache.size = room
  keys : cache.entries.keys = recent room uses.keys
  values : cache.Holds fun key value => (insertions room uses).lastValue? key = some value
  hits : cache.hits = findCount room uses.keys

variable {cache : Cache κ α} {room : Int} {uses : Table κ α}

omit [LawfulBEq κ] in
theorem follows_empty (size : Int) : (empty size : Cache κ α).Follows size [] := by
  refine ⟨rfl, ?_, holds_empty size _, rfl⟩
  rw [recent]
  simp [byLastUse, empty, Table.keys]

omit [LawfulBEq κ] in
theorem fetch_of_some {key : κ} {value : α} (found : cache.entries.get? key = some value)
    (make : Unit → α) :
    (cache.fetch key make).2 =
      { cache with
        entries := cache.entries.erase key ++ [(key, value)], hits := cache.hits + 1 } := by
  rw [fetch, found]

omit [LawfulBEq κ] in
theorem fetch_of_none {key : κ} (missed : cache.entries.get? key = none) (make : Unit → α) :
    (cache.fetch key make).2 =
      { cache with entries := trim cache.size (cache.entries ++ [(key, make ())]) } := by
  rw [fetch, missed]

theorem keys_erase (table : Table κ α) (key : κ) :
    (table.erase key).keys = table.keys.filter fun other => !other == key := by
  rw [Table.erase, Table.keys, Table.keys, List.filter_map]
  congr 2
  funext e
  rw [Function.comp_apply, BEq.comm]

theorem not_mem_of_get? {table : Table κ α} {key : κ} (missed : table.get? key = none) :
    key ∉ table.keys := by
  intro member
  obtain ⟨e, inside, rfl⟩ := List.mem_map.mp member
  have differs := List.lookup_eq_none_iff.mp missed e inside
  simp at differs

/-- A use that finds its key. -/
theorem Follows.found (follows : cache.Follows room uses) {key : κ} {value : α} (made : α)
    (found : cache.entries.get? key = some value) :
    (cache.fetch key fun _ => made).2.Follows room (uses ++ [(key, made)]) := by
  have held : (key, value) ∈ cache.entries := Table.mem_of_get? found
  have member : key ∈ recent room uses.keys := follows.keys ▸ List.mem_map_of_mem held
  have listed : (recent room uses.keys).contains key = true := by simpa using member
  have keys : Table.keys (uses ++ [(key, made)]) = uses.keys ++ [key] := Table.keys_append ..
  have inserted := insertions_concat room uses key made
  rw [if_pos listed, List.append_nil] at inserted
  rw [fetch_of_some found]
  refine ⟨follows.size, ?_, ?_, ?_⟩
  · rw [keys, recent_of_mem member, ← follows.keys, Table.keys_append, keys_erase]
    rfl
  · rw [inserted]
    intro e kept
    rcases List.mem_append.mp kept with old | last
    · exact follows.values e (List.mem_filter.mp old).1
    · obtain rfl := List.mem_singleton.mp last
      exact follows.values _ held
  · rw [keys, findCount_concat, if_pos listed, ← follows.hits]

/-- A use that does not find its key. -/
theorem Follows.missed (follows : cache.Follows room uses) {key : κ} (made : α)
    (missed : cache.entries.get? key = none) :
    (cache.fetch key fun _ => made).2.Follows room (uses ++ [(key, made)]) := by
  have absent : key ∉ cache.entries.keys := not_mem_of_get? missed
  have missing : key ∉ recent room uses.keys := follows.keys ▸ absent
  have unlisted : ¬ (recent room uses.keys).contains key = true := by simpa using missing
  have keys : Table.keys (uses ++ [(key, made)]) = uses.keys ++ [key] := Table.keys_append ..
  have inserted := insertions_concat room uses key made
  rw [if_neg unlisted] at inserted
  have length : cache.entries.length = (recent room uses.keys).length := by
    rw [← follows.keys, Table.keys, List.length_map]
  have bounded : cache.entries.length ≤ room.toNat := length ▸ length_recent_le room uses.keys
  rw [fetch_of_none missed, follows.size]
  refine ⟨rfl, ?_, ?_, ?_⟩
  · rw [keys, recent_of_not_mem missing, ← length, ← follows.keys, trim_concat bounded,
      Table.keys, List.map_drop, List.map_append]
    rfl
  · intro e kept
    rw [inserted, Table.lastValue?_append, Table.lastValue?_singleton]
    rcases List.mem_append.mp (mem_of_mem_trim kept) with old | last
    · have other : ¬ (e.1 == key) = true := by
        rw [beq_iff_eq]
        rintro rfl
        exact absent (List.mem_map_of_mem old)
      rw [if_neg other]
      exact follows.values e old
    · obtain rfl := List.mem_singleton.mp last
      rw [if_pos (beq_self_eq_true key), Option.some_or]
  · rw [keys, findCount_concat, if_neg unlisted, Nat.add_zero]
    exact follows.hits

theorem Follows.fetch (follows : cache.Follows room uses) (key : κ) (made : α) :
    (cache.fetch key fun _ => made).2.Follows room (uses ++ [(key, made)]) := by
  cases found : cache.entries.get? key with
  | some value => exact follows.found made found
  | none => exact follows.missed made found

/-- **The last uses.** Whatever the uses are, a cache keeps the keys that were used last, in that
order, each with the value that was made when it was last put in, and counts the uses that found
their key. -/
theorem follows_fetchAll (size : Int) (uses : Table κ α) :
    ((empty size : Cache κ α).fetchAll uses).Follows size uses := by
  induction uses using List.reverseRecOn with
  | nil => exact follows_empty size
  | append_singleton uses use ih =>
      rw [fetchAll_concat]
      exact ih.fetch use.1 use.2

end

end Cache

end Wireframe
