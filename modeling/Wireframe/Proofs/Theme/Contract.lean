import Mathlib.Data.List.Forall2
import Wireframe.Proofs.Overlong
import Wireframe.Proofs.Theme.Entries
import Wireframe.Theme.Load

/-! # What a theme may hold

The rules for the tokens and the component styles of a theme, said without checking them:
where scalars have to stand, how deep component styles are, and which names have to be
texts. The checks accept what follows the rules and refuse what does not
(`Wireframe.Theme.Load.checked_tree`, `Wireframe.Theme.Load.checked_kinds`), unless they break
off at a name that is a number too long to be written. What they accept is kept as it is, its
names turned into texts (`Wireframe.Theme.Load.withTextNames_eq`).
-/

namespace Wireframe.Theme

/-! ## Trees -/

/-- A value that is neither a list nor a mapping. -/
def IsScalar : Value → Prop
  | .list _ | .map _ => False
  | _ => True

/-- A value in a token tree: a scalar, a mapping that holds a scalar as its `value`, or a mapping
of such values. -/
inductive InTree : Value → Prop where
  | scalar {v : Value} (scalar : IsScalar v) : InTree v
  | leaf {entries : Tree} {leaf : Value} (held : Value.field? leafName entries = some leaf)
    (scalar : IsScalar leaf) : InTree (.map entries)
  | group {entries : Tree} (bare : Value.field? leafName entries = none)
    (each : ∀ e ∈ entries, InTree e.2) : InTree (.map entries)

/-- A tree whose leaves are scalars. -/
def IsTokens (tree : Tree) : Prop := ∀ e ∈ tree, InTree e.2

/-- A tree of kinds, their variants, and the properties of these. -/
def IsStyles (tree : Tree) : Prop :=
  ∀ e ∈ tree, ∃ variants, e.2 = .map variants ∧
    ∀ f ∈ variants, ∃ properties, f.2 = .map properties ∧ IsTokens properties

/-! ## Names -/

/-- The text, as a name, that a name stands for where names have to be texts. -/
def MeansName : Value → Value → Prop
  | .text s, name => name = .text s
  | .halved codes, name => name = .halved codes
  | .bytes b, name => ∃ chars, Text.Utf8.decode b = .ok chars ∧ name = .text (String.ofList chars)
  | _, _ => False

theorem MeansName.isTitle {v name : Value} (means : MeansName v name) : IsTitle name := by
  cases v with
  | text | halved =>
      cases means
      trivial
  | bytes =>
      obtain ⟨_, _, rfl⟩ := means
      trivial
  | _ => exact means.elim

/-- A name that stands for no text. -/
def IsNameless (v : Value) : Prop := ∀ name, ¬ MeansName v name

/-- An entry of component styles with a kind or a variant whose name is no text. -/
def LacksName (e : Value × Value) : Prop :=
  IsNameless e.1 ∨ ∃ variants, e.2 = .map variants ∧ ∃ f ∈ variants, IsNameless f.1

/-- An entry whose name has been turned into a text; its values are related in some way. -/
def Retitles (related : Value → Value → Prop) (e f : Value × Value) : Prop :=
  MeansName e.1 f.1 ∧ related e.2 f.2

/-- A tree whose names have been turned into texts. Of entries whose names stand for one text the
last value counts. -/
def Retitled (related : Value → Value → Prop) (tree titled : Tree) : Prop :=
  ∃ entries, List.Forall₂ (Retitles related) tree entries ∧ titled = Value.putAll entries []

/-- Tokens, the names of whose categories have been turned into texts. -/
def RetitledTokens : Tree → Tree → Prop := Retitled (· = ·)

/-- The variants of a kind, with names that have been turned into texts. -/
def TitlesVariants (v w : Value) : Prop :=
  ∃ variants titled, v = .map variants ∧ w = .map titled ∧ RetitledTokens variants titled

/-- Component styles, the names of whose kinds and variants have been turned into texts. -/
def RetitledStyles : Tree → Tree → Prop := Retitled TitlesVariants

namespace Load

/-! ## Checks -/

/-- What a check comes to: what is checked is right, or it is wrong and the check tells a reason, or
the check breaks off at a name that cannot be written. -/
inductive Checked (right overlong : Prop) : Except Objection Unit → Prop where
  | passed (held : right) : Checked right overlong (.ok ())
  | refused {reason : Reason} (wrong : ¬ right) : Checked right overlong (.error (.reason reason))
  | stopped (met : overlong) : Checked right overlong (.error .overlong)

theorem Checked.imp {right right' overlong overlong' : Prop} {result : Except Objection Unit}
    (checked : Checked right overlong result) (same : right ↔ right')
    (more : overlong → overlong') : Checked right' overlong' result := by
  cases checked with
  | passed held => exact .passed (same.mp held)
  | refused wrong => exact .refused (mt same.mpr wrong)
  | stopped met => exact .stopped (more met)

/-- A check goes on with the one behind it. -/
theorem Checked.seq {right right' overlong overlong' : Prop} {result next : Except Objection Unit}
    (first : Checked right overlong result) (second : Checked right' overlong' next) :
    Checked (right ∧ right') (overlong ∨ overlong') (result >>= fun _ => next) := by
  cases first with
  | passed held => exact second.imp (and_iff_right held).symm .inr
  | refused wrong => exact .refused fun both => wrong both.1
  | stopped met => exact .stopped (.inl met)

/-- A check of what stands below a name goes on where the name can be written. -/
theorem checked_below {right overlong : Prop} {path : String} {name : Value}
    {next : String → Except Objection Unit} (goes : ∀ here, Checked right overlong (next here)) :
    Checked right (name.isOverlong = true ∨ overlong) (below path name >>= next) := by
  rw [below]
  split
  · exact .stopped (.inl ‹_›)
  · exact (goes _).imp .rfl .inr

theorem checked_scalar (path : String) (v : Value) :
    Checked (IsScalar v) (v.isOverlong = true) (checkScalar path v) := by
  cases v with
  | list | map => exact .refused id
  | _ => exact .passed trivial

mutual

theorem checked_tree (path : String) (tree : Tree) :
    Checked (IsTokens tree) (Value.anyOverlongEntry tree = true) (checkTree path tree) := by
  match tree with
  | [] => exact .passed nofun
  | (name, v) :: rest =>
      rw [checkTree]
      refine (checked_below fun here => (checked_node here v).seq (checked_tree path rest)).imp
        ?_ Value.anyOverlongEntry_cons.mpr
      have split := List.forall_mem_cons (p := fun e : Value × Value => InTree e.2)
        (a := (name, v)) (l := rest)
      exact split.symm

theorem checked_node (path : String) (v : Value) :
    Checked (InTree v) (v.isOverlong = true) (checkNode path v) := by
  match v with
  | .map entries =>
      rw [checkNode]
      cases held : Value.field? leafName entries with
      | some leaf =>
          refine (checked_scalar _ leaf).imp ⟨.leaf held, fun inTree => ?_⟩
            (Value.isOverlong_of_field? held)
          cases inTree with
          | scalar scalar => exact scalar.elim
          | leaf found scalar => exact Option.some.inj (held.symm.trans found) ▸ scalar
          | group bare => cases held.symm.trans bare
      | none =>
          refine (checked_tree path entries).imp ⟨.group held, fun inTree => ?_⟩ id
          cases inTree with
          | scalar scalar => exact scalar.elim
          | leaf found => cases held.symm.trans found
          | group bare each => exact each
  | .list items =>
      refine .refused fun inTree => ?_
      cases inTree with
      | scalar scalar => exact scalar.elim
  | .null | .bool _ | .int _ | .float _ | .text _ | .halved _ | .bytes _ | .date _ | .dateTime _
  | .time _ | .tuple _ | .set _ => exact .passed (.scalar trivial)

end

/-- A variant holds a mapping of properties. -/
def IsVariant (v : Value) : Prop := ∃ properties, v = .map properties ∧ IsTokens properties

theorem checked_variant (path : String) (v : Value) :
    Checked (IsVariant v) (v.isOverlong = true) (checkVariant path v) := by
  cases v with
  | map properties =>
      refine (checked_tree path properties).imp ⟨fun held => ⟨properties, rfl, held⟩, ?_⟩ id
      rintro ⟨_, ⟨⟩, held⟩
      exact held
  | _ =>
      refine .refused ?_
      rintro ⟨_, ⟨⟩, -⟩

theorem checked_variants (kind : Value) (variants : Tree) :
    Checked (∀ f ∈ variants, IsVariant f.2)
      (kind.isOverlong = true ∨ Value.anyOverlongEntry variants = true)
      (checkVariants kind variants) := by
  induction variants with
  | nil => exact .passed nofun
  | cons f rest ih =>
      obtain ⟨variant, v⟩ := f
      rw [checkVariants]
      refine (checked_below fun here => checked_below fun there =>
        (checked_variant there v).seq ih).imp ?_ ?_
      · have split := List.forall_mem_cons (p := fun e : Value × Value => IsVariant e.2)
          (a := (variant, v)) (l := rest)
        exact split.symm
      · rw [Value.anyOverlongEntry_cons]
        tauto

theorem checked_kinds (styles : Tree) :
    Checked (IsStyles styles) (Value.anyOverlongEntry styles = true) (checkKinds styles) := by
  induction styles with
  | nil => exact .passed nofun
  | cons e rest ih =>
      obtain ⟨kind, v⟩ := e
      cases v with
      | map variants =>
          rw [checkKinds]
          refine ((checked_variants kind variants).seq ih).imp ?_ ?_
          · simp [IsStyles, IsVariant]
          · rw [Value.anyOverlongEntry_cons, Value.isOverlong, or_assoc]
            exact id
      | _ =>
          rw [checkKinds]
          · split
            · exact .stopped (Value.anyOverlongEntry_cons.mpr (.inl ‹_›))
            · refine .refused fun styles => ?_
              obtain ⟨_, ⟨⟩, -⟩ := styles _ List.mem_cons_self
          · nofun

/-! ## Names -/

theorem textName?_eq_some {v name : Value} : textName? v = some name ↔ MeansName v name := by
  cases v with
  | text s => simp [textName?, MeansName, eq_comm]
  | halved codes => simp [textName?, MeansName, eq_comm]
  | bytes b =>
      rw [textName?]
      cases decoded : Text.Utf8.decode b <;> simp [MeansName, decoded, eq_comm]
  | _ => simp [textName?, MeansName]

theorem textName?_eq_none {v : Value} : textName? v = none ↔ IsNameless v := by
  rw [Option.eq_none_iff_forall_ne_some]
  simp only [ne_eq, textName?_eq_some]
  rfl

/-- Putting entries into a mapping one after the other, each with its name turned into a text, goes
through to the end, or it stops at an entry that it is stuck at. -/
theorem foldlM_put {f : Tree → Value × Value → Except Breakdown Tree}
    (turns : Value × Value → Value × Value → Prop) (stuck : Value × Value → Prop) {tree : Tree}
    (each : ∀ e ∈ tree, ∀ found,
      (∃ t, turns e t ∧ f found e = .ok (Value.put t.1 t.2 found)) ∨
        stuck e ∧ f found e = .error .nameNotText)
    (found : Tree) :
    (∃ entries, List.Forall₂ turns tree entries ∧
      tree.foldlM f found = .ok (Value.putAll entries found)) ∨
    (∃ e ∈ tree, stuck e) ∧ tree.foldlM f found = .error .nameNotText := by
  induction tree generalizing found with
  | nil => exact .inl ⟨[], .nil, rfl⟩
  | cons e rest ih =>
      obtain ⟨here, others⟩ := List.forall_mem_cons.mp each
      rw [List.foldlM_cons]
      obtain ⟨t, turned, step⟩ | ⟨stopped, step⟩ := here found
      · rw [step]
        obtain ⟨entries, all, done⟩ | ⟨⟨other, member, stopped⟩, done⟩ :=
          ih others (Value.put t.1 t.2 found)
        · exact .inl ⟨t :: entries, .cons turned all, done⟩
        · exact .inr ⟨⟨other, List.mem_cons_of_mem e member, stopped⟩, done⟩
      · rw [step]
        exact .inr ⟨⟨e, List.mem_cons_self, stopped⟩, rfl⟩

/-- The names of categories are all turned into texts, unless one of them is no text. -/
theorem withTextNames_eq (tree : Tree) :
    (∃ titled, RetitledTokens tree titled ∧ withTextNames tree = .ok titled) ∨
      (∃ e ∈ tree, IsNameless e.1) ∧ withTextNames tree = .error .nameNotText := by
  rw [withTextNames]
  refine (foldlM_put (Retitles (· = ·)) (fun e => IsNameless e.1) (fun e _ found => ?_)
    []).imp_left ?_
  · cases named : textName? e.1 with
    | none => exact .inr ⟨textName?_eq_none.mp named, rfl⟩
    | some name => exact .inl ⟨(name, e.2), ⟨textName?_eq_some.mp named, rfl⟩, rfl⟩
  · rintro ⟨entries, turned, done⟩
    exact ⟨_, ⟨entries, turned, rfl⟩, done⟩

/-- The names of kinds and variants are all turned into texts, unless one of them is no text. -/
theorem stylesWithTextNames_eq {tree : Tree} (styles : IsStyles tree) :
    (∃ titled, RetitledStyles tree titled ∧ stylesWithTextNames tree = .ok titled) ∨
      (∃ e ∈ tree, LacksName e) ∧ stylesWithTextNames tree = .error .nameNotText := by
  rw [stylesWithTextNames]
  refine (foldlM_put (Retitles TitlesVariants) LacksName (fun e member found => ?_)
    []).imp_left ?_
  · obtain ⟨variants, below, -⟩ := styles e member
    rw [below]
    cases named : textName? e.1 with
    | none => exact .inr ⟨.inl (textName?_eq_none.mp named), rfl⟩
    | some name =>
        dsimp only
        obtain ⟨titled, retitled, done⟩ | ⟨nameless, done⟩ := withTextNames_eq variants
        · rw [done]
          exact .inl ⟨(name, .map titled),
            ⟨textName?_eq_some.mp named, variants, titled, below, rfl, retitled⟩, rfl⟩
        · rw [done]
          exact .inr ⟨.inr ⟨variants, below, nameless⟩, rfl⟩
  · rintro ⟨entries, turned, done⟩
    exact ⟨_, ⟨entries, turned, rfl⟩, done⟩

end Load

end Wireframe.Theme
