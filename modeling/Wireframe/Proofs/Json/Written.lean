import Wireframe.Json.Basic
import Wireframe.Proofs.Text.Quoted

/-! # Written values tell themselves apart

The written form of a JSON value without numbers shows where it ends, so it determines the
value, in any style that begins the gap between two items with a comma and keeps
characters as they are (`Wireframe.Json.write_inj`). Numbers are left out because an
integer and a fraction can have the same written form.
-/

namespace Wireframe.Json

/-! ## Values without numbers -/

mutual

/-- A value without numbers in it. -/
def Plain : Json → Prop
  | .int _ | .float _ => False
  | .null | .bool _ | .text _ => True
  | .list items => AllPlain items
  | .object members => MembersPlain members

/-- Items that are all without numbers. -/
def AllPlain : List Json → Prop
  | [] => True
  | item :: rest => item.Plain ∧ AllPlain rest

/-- Members whose values are all without numbers. -/
def MembersPlain : List (String × Json) → Prop
  | [] => True
  | m :: rest => m.2.Plain ∧ MembersPlain rest

end

theorem allPlain_iff {items : List Json} : AllPlain items ↔ ∀ item ∈ items, item.Plain := by
  induction items with
  | nil => simp [AllPlain]
  | cons item items ih => simp [AllPlain, ih]

theorem plain_ofText? (s : Option String) : (ofText? s).Plain := by
  cases s <;> trivial

theorem ofText?_eq_iff {s t : Option String} : ofText? s = ofText? t ↔ s = t := by
  cases s <;> cases t <;> simp [ofText?]

/-! ## Written forms -/

namespace Style

/-- A style that begins the gap between two items with a comma and keeps characters as they are. -/
def Telling (style : Style) : Prop :=
  style.asciiOnly = false ∧ style.comma.toList.head? = some ','

theorem telling_compact : compact.Telling := ⟨rfl, rfl⟩

theorem telling_spaced : spaced.Telling := ⟨rfl, rfl⟩

end Style

variable {style : Style}

/-- The items behind the first one of a list, each behind a gap, and the end of the list. -/
def itemsBehind (style : Style) : List Json → List Char
  | [] => [']']
  | item :: rest => style.comma.toList ++ ((item.write style).toList ++ itemsBehind style rest)

/-- A list behind its opening bracket. -/
def itemsText (style : Style) : List Json → List Char
  | [] => [']']
  | item :: rest => (item.write style).toList ++ itemsBehind style rest

/-- The members behind the first one of an object, each behind a gap, and the end of the object. -/
def membersBehind (style : Style) : List (String × Json) → List Char
  | [] => ['\x7d']
  | m :: rest =>
    style.comma.toList ++ ((style.quote m.1).toList ++
      (style.colon.toList ++ ((m.2.write style).toList ++ membersBehind style rest)))

/-- An object behind its opening brace. -/
def membersText (style : Style) : List (String × Json) → List Char
  | [] => ['\x7d']
  | m :: rest =>
    (style.quote m.1).toList ++
      (style.colon.toList ++ ((m.2.write style).toList ++ membersBehind style rest))

theorem toList_write_list (items : List Json) :
    (write style (.list items)).toList = '[' :: itemsText style items := by
  have written : ∀ (item : Json) (items : List Json),
      (style.comma.intercalate (writeItems style (item :: items))).toList ++ [']'] =
        (item.write style).toList ++ itemsBehind style items := by
    intro item items
    induction items generalizing item with
    | nil => simp [writeItems, itemsBehind]
    | cons next items ih =>
        rw [writeItems, writeItems, String.intercalate_cons_cons, ← writeItems,
          String.toList_append, String.toList_append, List.append_assoc, List.append_assoc, ih next,
          itemsBehind]
  rw [write]
  cases items with
  | nil => simp [writeItems, itemsText]
  | cons item items =>
      have text := written item items
      simpa [itemsText] using text

theorem toList_write_object (members : List (String × Json)) :
    (write style (.object members)).toList = '\x7b' :: membersText style members := by
  have written : ∀ (m : String × Json) (members : List (String × Json)),
      (style.comma.intercalate (writeMembers style (m :: members))).toList ++ ['\x7d'] =
        (style.quote m.1).toList ++
          (style.colon.toList ++ ((m.2.write style).toList ++ membersBehind style members)) := by
    intro m members
    induction members generalizing m with
    | nil => simp [writeMembers, membersBehind]
    | cons next members ih =>
        rw [writeMembers, writeMembers, String.intercalate_cons_cons, ← writeMembers,
          String.toList_append, String.toList_append, List.append_assoc, List.append_assoc, ih next,
          membersBehind]
        simp
  rw [write]
  cases members with
  | nil => simp [writeMembers, membersText]
  | cons m members =>
      have text := written m members
      simpa [membersText] using text

/-! ## What a written form begins with -/

/-- The sort of a value: what it is, apart from what is in it. -/
def sort : Json → Nat
  | .null => 0
  | .bool _ => 1
  | .text _ => 2
  | .list _ => 3
  | .object _ => 4
  | .int _ | .float _ => 5

/-- The sort of the value that begins with a character. -/
def sortAt (chars : List Char) : Nat :=
  match chars with
  | 'n' :: _ => 0
  | 't' :: _ | 'f' :: _ => 1
  | '"' :: _ => 2
  | '[' :: _ => 3
  | '\x7b' :: _ => 4
  | _ => 5

theorem toList_quote (telling : style.Telling) (s : String) :
    (style.quote s).toList = Text.Quoted.encode s.toList := by
  rw [Style.quote, telling.1]
  simp [Text.quoted]

/-- The first character tells the sort of a value. -/
theorem sortAt_write (telling : style.Telling) {v : Json} (plain : v.Plain) (rest : List Char) :
    sortAt ((v.write style).toList ++ rest) = v.sort := by
  cases v with
  | null => simp [write, sortAt, sort]
  | bool b => cases b <;> simp [write, sortAt, sort]
  | int n => exact plain.elim
  | float x => exact plain.elim
  | text s =>
      rw [write, toList_quote telling]
      rfl
  | list items => simp [write, sortAt, sort]
  | object members => simp [write, sortAt, sort]

/-- A value does not begin as a list ends. -/
theorem ne_write_append (telling : style.Telling) {v : Json} (plain : v.Plain)
    (rest more : List Char) : ']' :: rest ≠ (v.write style).toList ++ more := by
  intro same
  have sorts := congrArg sortAt same
  rw [sortAt_write telling plain] at sorts
  cases v with
  | int n => exact plain.elim
  | float x => exact plain.elim
  | _ => simp [sortAt, sort] at sorts

/-! ## Written forms end where they end -/

theorem sizeOf_value_lt (m : String × Json) (members : List (String × Json)) :
    sizeOf m.2 < sizeOf (m :: members) := by
  obtain ⟨name, v⟩ := m
  simp only [List.cons.sizeOf_spec, Prod.mk.sizeOf_spec]
  omega

/-- A member ends where its value does. -/
theorem member_append_inj (telling : style.Telling) {m n : String × Json} {rest more : List Char}
    (values : ∀ {rest more : List Char},
      (m.2.write style).toList ++ rest = (n.2.write style).toList ++ more →
        m.2 = n.2 ∧ rest = more)
    (same : (style.quote m.1).toList ++ (style.colon.toList ++ ((m.2.write style).toList ++ rest)) =
      (style.quote n.1).toList ++ (style.colon.toList ++ ((n.2.write style).toList ++ more))) :
    m = n ∧ rest = more := by
  rw [toList_quote telling, toList_quote telling] at same
  obtain ⟨chars, value⟩ := Text.Quoted.encode_append_inj same
  obtain ⟨held, behind⟩ := values (List.append_cancel_left value)
  exact ⟨Prod.ext (String.toList_inj.mp chars) held, behind⟩

mutual

/-- Two written values with something behind them are the same only if the values are and what is
behind them is. -/
theorem write_append_inj (telling : style.Telling) {v w : Json} (plain : v.Plain)
    (other : w.Plain) {rest more : List Char}
    (same : (v.write style).toList ++ rest = (w.write style).toList ++ more) :
    v = w ∧ rest = more := by
  have sorts : v.sort = w.sort := by
    rw [← sortAt_write telling plain rest, same, sortAt_write telling other more]
  cases v with
  | null =>
      cases w with
      | null => exact ⟨rfl, List.append_cancel_left same⟩
      | _ => simp [sort] at sorts
  | bool b =>
      cases w with
      | bool c =>
          cases b <;> cases c <;> simp [write] at same
          · exact ⟨rfl, same⟩
          · exact ⟨rfl, same⟩
      | _ => simp [sort] at sorts
  | int n => exact plain.elim
  | float x => exact plain.elim
  | text s =>
      cases w with
      | text t =>
          rw [write, write, toList_quote telling, toList_quote telling] at same
          obtain ⟨chars, behind⟩ := Text.Quoted.encode_append_inj same
          exact ⟨congrArg text (String.toList_inj.mp chars), behind⟩
      | _ => simp [sort] at sorts
  | list items =>
      cases w with
      | list others =>
          rw [toList_write_list, toList_write_list] at same
          obtain ⟨rfl, behind⟩ :=
            itemsText_append_inj telling plain other (List.tail_eq_of_cons_eq same)
          exact ⟨rfl, behind⟩
      | _ => simp [sort] at sorts
  | object members =>
      cases w with
      | object others =>
          rw [toList_write_object, toList_write_object] at same
          obtain ⟨rfl, behind⟩ :=
            membersText_append_inj telling plain other (List.tail_eq_of_cons_eq same)
          exact ⟨rfl, behind⟩
      | _ => simp [sort] at sorts
termination_by sizeOf v

theorem itemsText_append_inj (telling : style.Telling) {items others : List Json}
    (plain : AllPlain items) (other : AllPlain others) {rest more : List Char}
    (same : itemsText style items ++ rest = itemsText style others ++ more) :
    items = others ∧ rest = more := by
  cases items with
  | nil =>
      cases others with
      | nil => exact ⟨rfl, List.tail_eq_of_cons_eq same⟩
      | cons d others =>
          rw [itemsText, itemsText, List.append_assoc] at same
          exact absurd same (ne_write_append telling other.1 _ _)
  | cons c items =>
      cases others with
      | nil =>
          rw [itemsText, itemsText, List.append_assoc] at same
          exact absurd same.symm (ne_write_append telling plain.1 _ _)
      | cons d others =>
          simp only [itemsText, List.append_assoc] at same
          obtain ⟨rfl, others⟩ := write_append_inj telling plain.1 other.1 same
          obtain ⟨rfl, behind⟩ := itemsBehind_append_inj telling plain.2 other.2 others
          exact ⟨rfl, behind⟩
termination_by sizeOf items

theorem itemsBehind_append_inj (telling : style.Telling) {items others : List Json}
    (plain : AllPlain items) (other : AllPlain others) {rest more : List Char}
    (same : itemsBehind style items ++ rest = itemsBehind style others ++ more) :
    items = others ∧ rest = more := by
  obtain ⟨blanks, comma⟩ := List.head?_eq_some_iff.mp telling.2
  cases items with
  | nil =>
      cases others with
      | nil => exact ⟨rfl, List.tail_eq_of_cons_eq same⟩
      | cons d others => simp [itemsBehind, comma] at same
  | cons c items =>
      cases others with
      | nil => simp [itemsBehind, comma] at same
      | cons d others =>
          simp only [itemsBehind, List.append_assoc] at same
          obtain ⟨rfl, others⟩ :=
            write_append_inj telling plain.1 other.1 (List.append_cancel_left same)
          obtain ⟨rfl, behind⟩ := itemsBehind_append_inj telling plain.2 other.2 others
          exact ⟨rfl, behind⟩
termination_by sizeOf items

theorem membersText_append_inj (telling : style.Telling) {members others : List (String × Json)}
    (plain : MembersPlain members) (other : MembersPlain others) {rest more : List Char}
    (same : membersText style members ++ rest = membersText style others ++ more) :
    members = others ∧ rest = more := by
  cases members with
  | nil =>
      cases others with
      | nil => exact ⟨rfl, List.tail_eq_of_cons_eq same⟩
      | cons n others => simp [membersText, toList_quote telling, Text.Quoted.encode] at same
  | cons m members =>
      have smaller := sizeOf_value_lt m members
      cases others with
      | nil => simp [membersText, toList_quote telling, Text.Quoted.encode] at same
      | cons n others =>
          simp only [membersText, List.append_assoc] at same
          obtain ⟨rfl, others⟩ :=
            member_append_inj telling (write_append_inj telling plain.1 other.1) same
          obtain ⟨rfl, behind⟩ := membersBehind_append_inj telling plain.2 other.2 others
          exact ⟨rfl, behind⟩
termination_by sizeOf members

theorem membersBehind_append_inj (telling : style.Telling) {members others : List (String × Json)}
    (plain : MembersPlain members) (other : MembersPlain others) {rest more : List Char}
    (same : membersBehind style members ++ rest = membersBehind style others ++ more) :
    members = others ∧ rest = more := by
  obtain ⟨blanks, comma⟩ := List.head?_eq_some_iff.mp telling.2
  cases members with
  | nil =>
      cases others with
      | nil => exact ⟨rfl, List.tail_eq_of_cons_eq same⟩
      | cons n others => simp [membersBehind, comma] at same
  | cons m members =>
      have smaller := sizeOf_value_lt m members
      cases others with
      | nil => simp [membersBehind, comma] at same
      | cons n others =>
          simp only [membersBehind, List.append_assoc] at same
          obtain ⟨rfl, others⟩ :=
            member_append_inj telling (write_append_inj telling plain.1 other.1)
              (List.append_cancel_left same)
          obtain ⟨rfl, behind⟩ := membersBehind_append_inj telling plain.2 other.2 others
          exact ⟨rfl, behind⟩
termination_by sizeOf members

end

/-- **Written values tell themselves apart.** Two values without numbers that have the same written
form are the same. -/
theorem write_inj (telling : style.Telling) {v w : Json} (plain : v.Plain) (other : w.Plain)
    (same : v.write style = w.write style) : v = w := by
  have chars : (v.write style).toList ++ [] = (w.write style).toList ++ [] := by rw [same]
  exact (write_append_inj telling plain other chars).1

end Wireframe.Json
