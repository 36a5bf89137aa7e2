import Mathlib.Data.List.Induction
import Mathlib.Data.List.Nodup
import Wireframe.Table

/-! # Tables that are set entry by entry

Setting many entries of a table one after the other obeys one law: a key has the value that
was set last (`Wireframe.Table.get?_putAll`), and it stands where it was set first
(`Wireframe.Table.keys_putAll`). A table without repeated keys is known by its keys and
their values, so setting the entries of a table that was itself set from a list is the same
as setting the list (`Wireframe.Table.putAll_putAll`).
-/

namespace Wireframe.Table

/-! ## First occurrences -/

section

variable {κ : Type} [BEq κ] [LawfulBEq κ]

/-- An item at the end is a first occurrence unless it occurs before. -/
theorem eraseDups_concat (items : List κ) (item : κ) :
    (items ++ [item]).eraseDups =
      if items.contains item then items.eraseDups else items.eraseDups ++ [item] := by
  rw [List.eraseDups_append, List.removeAll]
  by_cases member : item ∈ items <;> simp [member, List.eraseDups_cons]

/-- Items that do not recur are all first occurrences. -/
theorem eraseDups_of_nodup {items : List κ} (distinct : items.Nodup) :
    items.eraseDups = items := by
  induction items with
  | nil => rfl
  | cons item items ih =>
      obtain ⟨missing, others⟩ := List.nodup_cons.mp distinct
      have kept : items.filter (fun other => !other == item) = items := by
        rw [List.filter_eq_self]
        intro other member
        have differs : other ≠ item := fun same => missing (same ▸ member)
        simpa using differs
      rw [List.eraseDups_cons, kept, ih others]

/-- Repetitions at the end of a list do not matter to its first occurrences. -/
theorem eraseDups_append_eraseDups (left right : List κ) :
    (left ++ right.eraseDups).eraseDups = (left ++ right).eraseDups := by
  induction right using List.reverseRecOn with
  | nil => rfl
  | append_singleton right item ih =>
      rw [eraseDups_concat right item, ← List.append_assoc, eraseDups_concat (left ++ right) item]
      by_cases member : item ∈ right
      · simp [member, ih]
      · simp only [List.contains_eq_mem, member, decide_false, Bool.false_eq_true, ↓reduceIte]
        rw [← List.append_assoc, eraseDups_concat, ih]
        simp

/-- The first occurrences among some items are found before or after the items are chosen. -/
theorem filter_eraseDups (p : κ → Bool) (items : List κ) :
    items.eraseDups.filter p = (items.filter p).eraseDups := by
  induction items using List.reverseRecOn with
  | nil => rfl
  | append_singleton items item ih =>
      by_cases chosen : p item = true
      · by_cases member : item ∈ items <;> simp [eraseDups_concat, chosen, member, ih]
      · by_cases member : item ∈ items <;> simp [eraseDups_concat, chosen, member, ih]

end

variable {κ α : Type}

theorem keys_cons (key : κ) (value : α) (rest : Table κ α) :
    keys ((key, value) :: rest) = key :: rest.keys := rfl

theorem keys_append (left right : Table κ α) :
    keys (left ++ right) = left.keys ++ right.keys := List.map_append

section

variable [BEq κ]

/-- The last value that some entries set a key to. -/
def lastValue? (entries : Table κ α) (key : κ) : Option α := get? entries.reverse key

theorem get?_cons (key k : κ) (value : α) (rest : Table κ α) :
    get? ((k, value) :: rest) key = if key == k then some value else get? rest key := by
  rw [get?, List.lookup_cons]
  cases key == k <;> rfl

theorem lastValue?_append (left right : Table κ α) (key : κ) :
    lastValue? (left ++ right) key = (lastValue? right key).or (lastValue? left key) := by
  rw [lastValue?, List.reverse_append]
  exact List.lookup_append

theorem lastValue?_singleton (e : κ × α) (key : κ) :
    lastValue? [e] key = if key == e.1 then some e.2 else none := get?_cons key e.1 e.2 []

theorem putAll_append (table left right : Table κ α) :
    putAll table (left ++ right) = putAll (putAll table left) right := List.foldl_append ..

theorem putAll_concat (table entries : Table κ α) (e : κ × α) :
    putAll table (entries ++ [e]) = put (putAll table entries) e.1 e.2 := List.foldl_append ..

end

variable [BEq κ] [LawfulBEq κ]

theorem mem_of_get? {table : Table κ α} {key : κ} {value : α}
    (found : table.get? key = some value) : (key, value) ∈ table := by
  obtain ⟨before, after, rfl, _⟩ := List.lookup_eq_some_iff.mp found
  exact List.mem_append_right before List.mem_cons_self

theorem get?_eq_none {table : Table κ α} {key : κ} (missing : key ∉ table.keys) :
    table.get? key = none := by
  rw [get?, List.lookup_eq_none_iff]
  intro e member
  rw [bne_iff_ne]
  rintro rfl
  exact missing (List.mem_map_of_mem member)

theorem lastValue?_eq_none {entries : Table κ α} {key : κ} (missing : key ∉ entries.keys) :
    entries.lastValue? key = none := by
  refine get?_eq_none fun member => missing ?_
  rw [keys, List.map_reverse] at member
  exact List.mem_reverse.mp member

theorem mem_of_lastValue? {entries : Table κ α} {key : κ} {value : α}
    (found : entries.lastValue? key = some value) : (key, value) ∈ entries :=
  List.mem_reverse.mp (mem_of_get? found)

/-- A key that some entries set has a last value. -/
theorem exists_lastValue? {entries : Table κ α} {key : κ} (member : key ∈ entries.keys) :
    ∃ value, entries.lastValue? key = some value := by
  obtain ⟨e, inside, rfl⟩ := List.mem_map.mp member
  rw [← Option.ne_none_iff_exists', lastValue?, get?, ne_eq, List.lookup_eq_none_iff]
  intro differs
  have other := differs e (List.mem_reverse.mpr inside)
  simp at other

/-- Leaving out entries by their keys leaves the values of the other keys. -/
theorem lastValue?_filter (p : κ → Bool) (entries : Table κ α) (key : κ) :
    lastValue? (entries.filter fun e => p e.1) key =
      if p key then lastValue? entries key else none := by
  have empty : lastValue? ([] : Table κ α) key = none := rfl
  induction entries using List.reverseRecOn with
  | nil => rw [List.filter_nil, empty, ite_self]
  | append_singleton entries e ih =>
      rw [List.filter_append, lastValue?_append, lastValue?_append, ih, List.filter_cons,
        List.filter_nil]
      by_cases chosen : p e.1 = true
      · rw [if_pos chosen, lastValue?_singleton]
        by_cases same : key = e.1 <;> simp [same, chosen]
      · rw [if_neg chosen, lastValue?_singleton, empty]
        by_cases same : key = e.1 <;> simp [same, chosen]

/-- Where no key recurs, each entry holds the value of its key. -/
theorem get?_of_mem {table : Table κ α} (distinct : table.keys.Nodup) {key : κ} {value : α}
    (member : (key, value) ∈ table) : table.get? key = some value := by
  induction table with
  | nil => cases member
  | cons e rest ih =>
      obtain ⟨missing, others⟩ := List.nodup_cons.mp distinct
      rcases List.mem_cons.mp member with rfl | behind
      · rw [get?_cons, if_pos (beq_self_eq_true key)]
      · rw [get?_cons, if_neg, ih others behind]
        have inside : key ∈ keys rest := List.mem_map_of_mem behind
        rw [beq_iff_eq]
        rintro rfl
        exact missing inside

/-- Where no key recurs, the last value of a key is its only one. -/
theorem lastValue?_of_nodup {table : Table κ α} (distinct : table.keys.Nodup) (key : κ) :
    table.lastValue? key = table.get? key := by
  induction table with
  | nil => rfl
  | cons e rest ih =>
      obtain ⟨missing, others⟩ := List.nodup_cons.mp distinct
      rw [← List.singleton_append, lastValue?_append, lastValue?_singleton, List.singleton_append,
        get?_cons, ih others]
      by_cases same : key = e.1
      · subst same
        rw [get?_eq_none missing]
        simp
      · simp [same]

/-! ## One entry -/

theorem keys_put (table : Table κ α) (key : κ) (value : α) :
    (table.put key value).keys =
      if table.keys.contains key then table.keys else table.keys ++ [key] := by
  induction table with
  | nil => rfl
  | cons e rest ih =>
      obtain ⟨first, held⟩ := e
      unfold put
      rw [keys_cons]
      by_cases same : key = first
      · simp [same, keys_cons]
      · by_cases member : key ∈ keys rest <;> simp [same, member, ih, keys_cons]

theorem get?_put (table : Table κ α) (key other : κ) (value : α) :
    (table.put key value).get? other = if other == key then some value else table.get? other := by
  induction table with
  | nil => exact get?_cons other key value []
  | cons e rest ih =>
      obtain ⟨first, held⟩ := e
      unfold put
      rw [get?_cons]
      by_cases same : key = first
      · by_cases found : other = first <;> simp [same, found, get?_cons]
      · by_cases found : other = first
        · subst found
          simp [same, Ne.symm same, get?_cons]
        · simp [same, found, ih, get?_cons]

theorem mem_put {table : Table κ α} {key : κ} {value : α} {e : κ × α}
    (member : e ∈ table.put key value) : e = (key, value) ∨ e ∈ table := by
  induction table with
  | nil => exact .inl (List.mem_singleton.mp member)
  | cons first rest ih =>
      unfold put at member
      split at member
      · rename_i same
        rw [beq_iff_eq.mp same]
        exact (List.mem_cons.mp member).imp_right (List.mem_cons_of_mem first)
      · rcases List.mem_cons.mp member with rfl | later
        · exact .inr List.mem_cons_self
        · exact (ih later).imp_right (List.mem_cons_of_mem first)

omit [LawfulBEq κ] in
theorem put_ne_nil (table : Table κ α) (key : κ) (value : α) : table.put key value ≠ [] := by
  unfold put
  split
  · exact List.cons_ne_nil _ _
  · split <;> exact List.cons_ne_nil _ _

theorem nodup_put {table : Table κ α} (distinct : table.keys.Nodup) (key : κ) (value : α) :
    (table.put key value).keys.Nodup := by
  rw [keys_put]
  by_cases member : key ∈ table.keys
  · simpa [member] using distinct
  · have fresh : table.keys.Disjoint [key] := by simpa using member
    simpa [member] using distinct.append (List.nodup_singleton key) fresh

/-! ## Many entries -/

theorem nodup_putAll {table : Table κ α} (distinct : table.keys.Nodup) (entries : Table κ α) :
    (table.putAll entries).keys.Nodup := by
  induction entries using List.reverseRecOn with
  | nil => exact distinct
  | append_singleton entries e ih =>
      rw [putAll_concat]
      exact nodup_put ih e.1 e.2

/-- **Where a key stands.** The keys that are set stand in the order in which they occur first. -/
theorem keys_putAll {table : Table κ α} (distinct : table.keys.Nodup) (entries : Table κ α) :
    (table.putAll entries).keys = (table.keys ++ entries.keys).eraseDups := by
  induction entries using List.reverseRecOn with
  | nil =>
      have still : table.keys ++ keys ([] : Table κ α) = table.keys := List.append_nil _
      rw [still, eraseDups_of_nodup distinct]
      rfl
  | append_singleton entries e ih =>
      have last : keys (entries ++ [e]) = keys entries ++ [e.1] := keys_append entries [e]
      rw [putAll_concat, keys_put, ih, last, ← List.append_assoc, eraseDups_concat]
      simp only [List.contains_eq_mem, List.mem_eraseDups]

/-- **What value a key has.** A key that is set has the value it is set to last. -/
theorem get?_putAll (table entries : Table κ α) (key : κ) :
    (table.putAll entries).get? key = (entries.lastValue? key).or (table.get? key) := by
  induction entries using List.reverseRecOn with
  | nil => rfl
  | append_singleton entries e ih =>
      rw [putAll_concat, get?_put, ih, lastValue?_append, lastValue?_singleton]
      cases key == e.1 <;> rfl

/-- A table without repeated keys is known by its keys and their values. -/
theorem ext_of_nodup {s t : Table κ α} (distinct : s.keys.Nodup) (same : s.keys = t.keys)
    (values : ∀ key, s.get? key = t.get? key) : s = t := by
  induction s generalizing t with
  | nil => exact (List.map_eq_nil_iff.mp same.symm).symm
  | cons e s ih =>
      cases t with
      | nil => cases same
      | cons f t =>
          obtain ⟨k, v⟩ := e
          obtain ⟨l, w⟩ := f
          rw [keys_cons, keys_cons] at same
          rw [keys_cons] at distinct
          obtain ⟨rfl, rest⟩ := List.cons.inj same
          obtain ⟨missing, others⟩ := List.nodup_cons.mp distinct
          have first := values k
          simp only [get?_cons, beq_self_eq_true, ↓reduceIte, Option.some.injEq] at first
          subst first
          refine congrArg ((k, v) :: ·) (ih others rest fun key => ?_)
          have agrees := values key
          by_cases found : key = k
          · -- The first key does not recur, so neither rest has a value for it.
            subst found
            rw [get?_eq_none missing, get?_eq_none (rest ▸ missing)]
          · simpa [get?_cons, found] using agrees

/-- Setting the entries of a table that was set from a list is setting the list. -/
theorem putAll_putAll {table : Table κ α} (distinct : table.keys.Nodup) (entries : Table κ α) :
    table.putAll (putAll [] entries) = table.putAll entries := by
  have fresh : (keys ([] : Table κ α)).Nodup := List.nodup_nil
  refine ext_of_nodup (nodup_putAll distinct _) ?_ fun key => ?_
  · rw [keys_putAll distinct, keys_putAll fresh, keys_putAll distinct]
    exact eraseDups_append_eraseDups table.keys entries.keys
  · rw [get?_putAll, get?_putAll table entries, lastValue?_of_nodup (nodup_putAll fresh entries),
      get?_putAll]
    cases entries.lastValue? key <;> rfl

end Wireframe.Table
