import Wireframe.Proofs.Document.Acceptance
import Wireframe.Proofs.Yaml.Values

/-! # Values that read alike

Two values of sources may differ in keys that count for nothing and in the order of keys. Which
keys count depends on what a value stands for: in the mapping of a source it is the page alone, in
the body of a node the fields and the lists of its kind, in a choice its label and its value.

Values that are alike have alike values under each key that counts
(`Wireframe.Document.Alike.field?`). For some fields the values may be required to be the same.
-/

namespace Wireframe.Document

open Contract

/-! ## What a value stands for -/

/-- What a value of a source stands for. A value of no other role is plain. -/
inductive Role where
  | source
  | body (kind : Kind)
  | entries
  | entry
  | choices
  | choice
  | plain
deriving DecidableEq, Repr

/-- The keys that count in the body of a node: the names of its fields and of its lists, and the
two keys that are refused where no list is. -/
def bodyKeys (kind : Kind) : List String :=
  (rules kind).map Rule.name ++ (lists kind).map Prod.fst ++ ["components", "children"]

namespace Role

/-- The keys that count in a mapping, unless all do. -/
def keys? : Role → Option (List String)
  | source => some ["page"]
  | body kind => some (bodyKeys kind)
  | choice => some ["label", "value"]
  | _ => none

/-- Whether a key counts. -/
def counts (role : Role) (key : Value) : Bool :=
  role.keys?.all fun names => names.any fun name => key.sameKey (.text name)

/-- The entries of a mapping whose keys count. -/
def counted (role : Role) (entries : Fields) : Fields := entries.filter fun e => role.counts e.1

/-- What the value under a key stands for. -/
def under : Role → Value → Role
  | source, .text name => if name = "page" then body .page else plain
  | body kind, .text name =>
    if name ∈ (lists kind).map Prod.fst then entries
    else if name = "options" then choices
    else plain
  | entry, key =>
    match Kind.ofKey? key with
    | some kind => body kind
    | none => plain
  | _, _ => plain

/-- What an item of a sequence stands for. -/
def item : Role → Role
  | entries => entry
  | choices => choice
  | _ => plain

/-- Whether the value under a key is one of those that are kept. -/
def Keeps (keeps : Kind → String → Prop) : Role → Value → Prop
  | body kind, .text name => keeps kind name
  | _, _ => False

end Role

/-! ## Alike values -/

section

variable (keeps : Kind → String → Prop)

mutual

/-- Values that differ in keys that count for nothing and in the order of keys, except that the
values of some fields are the same. -/
inductive Alike : Role → Value → Value → Prop where
  | same (role : Role) (v : Value) : Alike role v v
  | list {role : Role} {items others : List Value} (each : AlikeItems role.item items others) :
    Alike role (.list items) (.list others)
  | tuple {role : Role} {items others : List Value} (each : AlikeItems role.item items others) :
    Alike role (.tuple items) (.tuple others)
  -- The entries that count are alike one by one, and then they are put in another order.
  | map {role : Role} {entries middle others : Fields}
    (each : AlikeEntries role (role.counted entries) middle)
    (order : middle.Perm (role.counted others)) : Alike role (.map entries) (.map others)

/-- Values that are alike, one by one. -/
inductive AlikeItems : Role → List Value → List Value → Prop where
  | nil (role : Role) : AlikeItems role [] []
  | cons {role : Role} {v w : Value} {items others : List Value} (first : Alike role v w)
    (rest : AlikeItems role items others) : AlikeItems role (v :: items) (w :: others)

/-- Entries of the same keys with values that are alike, one by one. -/
inductive AlikeEntries : Role → Fields → Fields → Prop where
  | nil (role : Role) : AlikeEntries role [] []
  | cons {role : Role} {key v w : Value} {entries others : Fields}
    (value : Alike (role.under key) v w) (kept : role.Keeps keeps key → v = w)
    (rest : AlikeEntries role entries others) :
    AlikeEntries role ((key, v) :: entries) ((key, w) :: others)

end

end

section

variable {keeps : Kind → String → Prop} {role : Role}

theorem AlikeItems.same (items : List Value) : AlikeItems keeps role items items := by
  induction items with
  | nil => exact .nil role
  | cons v items ih => exact .cons (.same role v) ih

theorem AlikeEntries.same (entries : Fields) : AlikeEntries keeps role entries entries := by
  induction entries with
  | nil => exact .nil role
  | cons e entries ih => exact .cons (.same _ e.2) (fun _ => rfl) ih

/-- The order of keys does not count, and neither do keys that are left out. -/
theorem Alike.of_perm {entries others : Fields}
    (order : (role.counted entries).Perm (role.counted others)) :
    Alike keeps role (.map entries) (.map others) := .map (.same _) order

/-- A mapping is alike with an alike value in the place of one that is not kept. -/
theorem Alike.of_value {key v w : Value} (alike : Alike keeps (role.under key) v w)
    (free : ¬role.Keeps keeps key) (before after : Fields) :
    Alike keeps role (.map (before ++ (key, v) :: after)) (.map (before ++ (key, w) :: after)) := by
  have each (counted : Fields) : AlikeEntries keeps role (counted ++ role.counted [(key, v)] ++
      role.counted after) (counted ++ role.counted [(key, w)] ++ role.counted after) := by
    induction counted with
    | nil =>
        simp only [Role.counted, List.filter_cons, List.filter_nil, List.nil_append]
        split
        · exact .cons alike (fun kept => absurd kept free) (.same _)
        · exact .same _
    | cons e counted ih => exact .cons (.same _ e.2) (fun _ => rfl) ih
  have parts (u : Value) : role.counted (before ++ (key, u) :: after) =
      role.counted before ++ role.counted [(key, u)] ++ role.counted after := by
    simp only [Role.counted, ← List.filter_append, List.append_assoc, List.singleton_append]
  have entries : AlikeEntries keeps role (role.counted (before ++ (key, v) :: after))
      (role.counted (before ++ (key, w) :: after)) := by
    rw [parts, parts]
    exact each _
  exact .map entries (.refl _)

end

/-! ## Looking up -/

section

variable {keeps : Kind → String → Prop} {role : Role}

theorem field?_eq_head? (name : String) (entries : Fields) :
    Value.field? name entries =
      ((entries.filter fun e => e.1.sameKey (.text name)).head?).map Prod.snd := by
  rw [Value.field?, List.head?_filter]

/-- Leaving out entries whose keys do not count leaves those under keys that do. -/
theorem field?_role_counted {name : String} (counts : role.counts (.text name) = true)
    (entries : Fields) : Value.field? name (role.counted entries) = Value.field? name entries := by
  unfold Value.field? Role.counted
  rw [List.find?_filter]
  congr 2
  funext e
  cases same : e.1.sameKey (.text name) with
  | false => simp
  | true =>
      rw [sameKey_text_iff.mp same]
      simp [counts]

/-- Of entries with different keys at most one has a given name. -/
theorem short_of_distinct {entries : Fields} (distinct : Value.Distinct entries) (name : String) :
    (entries.filter fun e => e.1.sameKey (.text name)).length ≤ 1 := by
  have apart := distinct.filter fun e => e.1.sameKey (.text name)
  have named : ∀ e ∈ entries.filter fun e => e.1.sameKey (.text name), e.1 = .text name :=
    fun e member => sameKey_text_iff.mp (List.mem_filter.mp member).2
  generalize entries.filter (fun e => e.1.sameKey (.text name)) = found at apart named ⊢
  -- Two entries of one name would have the same key.
  match found, apart, named with
  | [], _, _ | [_], _, _ => simp
  | e :: f :: rest, apart, named =>
      have differ := (List.pairwise_cons.mp apart).1 f List.mem_cons_self
      rw [named e (by simp), named f (by simp), Bool.eq_false_iff] at differ
      exact absurd (sameKey_text_iff.mpr rfl) differ

/-- The order of entries with different keys does not matter to what is under a key. -/
theorem field?_perm {entries others : Fields} (order : entries.Perm others)
    (distinct : Value.Distinct entries) (name : String) :
    Value.field? name entries = Value.field? name others := by
  have short := short_of_distinct distinct name
  have reordered := order.filter fun e => e.1.sameKey (.text name)
  rw [field?_eq_head?, field?_eq_head?]
  generalize entries.filter (fun e => e.1.sameKey (.text name)) = found at short reordered ⊢
  match found, short, reordered with
  | [], _, reordered => rw [reordered.nil_eq]
  | [e], _, reordered => rw [List.singleton_perm.mp reordered]

/-- Two values of a field: they are alike, and the same if they are to be kept. -/
structure FieldAlike (keeps : Kind → String → Prop) (role : Role) (name : String)
    (v w : Value) : Prop where
  alike : Alike keeps (role.under (.text name)) v w
  kept : role.Keeps keeps (.text name) → v = w

theorem field?_of_alikeEntries {entries others : Fields}
    (each : AlikeEntries keeps role entries others) (name : String) :
    Option.Rel (FieldAlike keeps role name) (Value.field? name entries)
      (Value.field? name others) := by
  match entries, others, each with
  | [], [], .nil _ => exact .none
  | (key, v) :: entries, (_, w) :: others, .cons value kept rest =>
      simp only [Value.field?, List.find?_cons]
      cases same : key.sameKey (.text name) with
      | true =>
          obtain rfl := sameKey_text_iff.mp same
          exact .some ⟨value, kept⟩
      | false => exact field?_of_alikeEntries rest name

theorem keys_of_alikeEntries {entries others : Fields}
    (each : AlikeEntries keeps role entries others) :
    others.map Prod.fst = entries.map Prod.fst := by
  match entries, others, each with
  | [], [], .nil _ => rfl
  | (key, _) :: _, _ :: _, .cons _ _ rest => exact congrArg (key :: ·) (keys_of_alikeEntries rest)

theorem distinct_of_alikeEntries {entries others : Fields}
    (each : AlikeEntries keeps role entries others) (distinct : Value.Distinct entries) :
    Value.Distinct others := by
  have apart : (entries.map Prod.fst).Pairwise fun k l => k.sameKey l = false :=
    List.pairwise_map.mpr distinct
  rw [← keys_of_alikeEntries each] at apart
  exact List.pairwise_map.mp apart

/-- **Alike mappings.** Under a key that counts, alike mappings have no values both, or values that
are alike. -/
theorem Alike.field? {entries others : Fields}
    (alike : Alike keeps role (.map entries) (.map others)) (distinct : Value.Distinct entries)
    {name : String} (counts : role.counts (.text name) = true) :
    Value.field? name entries = none ∧ Value.field? name others = none ∨
      ∃ v w, Value.field? name entries = some v ∧ Value.field? name others = some w ∧
        FieldAlike keeps role name v w := by
  have related : Option.Rel (FieldAlike keeps role name) (Value.field? name entries)
      (Value.field? name others) := by
    cases alike with
    | same =>
        cases Value.field? name entries with
        | none => exact .none
        | some v => exact .some ⟨.same _ v, fun _ => rfl⟩
    | @map _ _ middle _ each order =>
        have apart := distinct_of_alikeEntries each (distinct.filter _)
        have found := field?_of_alikeEntries each name
        rwa [field?_perm order apart name, field?_role_counted counts,
          field?_role_counted counts] at found
  generalize Value.field? name entries = first at related ⊢
  generalize Value.field? name others = second at related ⊢
  cases related with
  | none => exact .inl ⟨rfl, rfl⟩
  | @some v w values => exact .inr ⟨v, w, rfl, rfl, values⟩

/-- Values that are alike are the same, or they are collections of one kind. -/
theorem Alike.cases {v w : Value} (alike : Alike keeps role v w) :
    v = w ∨ v.isScalar = false ∧ w.isScalar = false ∧ v.describe = w.describe := by
  cases alike with
  | same => exact .inl rfl
  | _ => exact .inr ⟨rfl, rfl, rfl⟩

end

end Wireframe.Document
