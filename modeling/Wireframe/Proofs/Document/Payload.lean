import Wireframe.Document.Payload
import Wireframe.Proofs.Json.Written
import Wireframe.Proofs.Named

/-! # Documents as JSON tell themselves apart

The JSON of a document has every field of every node in it, and each node names its kind,
so it determines the document (`Wireframe.Document.toJson_inj`). There are no numbers in
it (`Wireframe.Document.plain_toJson`), so its written form determines it in turn
(`Wireframe.Document.payload_inj`).
-/

namespace Wireframe.Document

open Json

/-! ## Equal JSON, equal documents -/

theorem Choice.toJson_inj {c d : Choice} (same : c.toJson = d.toJson) : c = d := by
  cases c
  cases d
  simpa [Choice.toJson] using same

theorem choices_eq_iff {cs ds : List Choice} :
    cs.map Choice.toJson = ds.map Choice.toJson ↔ cs = ds :=
  List.map_inj_right fun _ _ => Choice.toJson_inj

theorem Button.toJson_inj {c d : Button} (same : c.toJson = d.toJson) : c = d := by
  cases c
  cases d
  simpa [Button.toJson, ofText?_eq_iff, Named.name_eq_iff] using same

/-- The kind of a control stands in its JSON. -/
theorem Control.kind_of_toJson {c d : Control} (same : c.toJson = d.toJson) : c.kind = d.kind := by
  cases c <;> cases d <;> simp [Control.toJson, kindMember, Kind.name] at same <;> rfl

theorem Control.toJson_inj {c d : Control} (same : c.toJson = d.toJson) : c = d := by
  have kinds := Control.kind_of_toJson same
  cases c with
  | input c =>
      cases d with
      | input d =>
          cases c
          cases d
          simpa [Control.toJson, ofText?_eq_iff, Named.name_eq_iff] using same
      | _ => simp [Control.kind] at kinds
  | checkbox c =>
      cases d with
      | checkbox d =>
          cases c
          cases d
          simpa [Control.toJson, ofText?_eq_iff] using same
      | _ => simp [Control.kind] at kinds
  | radio c =>
      cases d with
      | radio d =>
          cases c
          cases d
          simpa [Control.toJson, ofText?_eq_iff, choices_eq_iff] using same
      | _ => simp [Control.kind] at kinds
  | select c =>
      cases d with
      | select d =>
          cases c
          cases d
          simpa [Control.toJson, ofText?_eq_iff, choices_eq_iff] using same
      | _ => simp [Control.kind] at kinds

/-- The kind of a component stands in its JSON. -/
theorem Component.kind_of_toJson {c d : Component} (same : c.toJson = d.toJson) :
    c.kind = d.kind := by
  have kindIn (c : Component) : ∃ id fields,
      c.toJson = .object (id :: kindMember c.kind :: fields) := by
    cases c with
    | control c => cases c <;> exact ⟨_, _, by rw [Component.toJson, Control.toJson]; rfl⟩
    | button c => exact ⟨_, _, by rw [Component.toJson, Button.toJson]; rfl⟩
    | _ => exact ⟨_, _, by rw [Component.toJson]; rfl⟩
  obtain ⟨_, _, first⟩ := kindIn c
  obtain ⟨_, _, second⟩ := kindIn d
  rw [first, second] at same
  have members := List.tail_eq_of_cons_eq (object.inj same)
  have kinds := (List.cons.inj members).1
  exact Kind.name_inj (Json.text.inj (Prod.mk.inj kinds).2)

mutual

/-- A component is determined by its JSON, at any depth. -/
theorem Component.toJson_inj (c d : Component) (same : c.toJson = d.toJson) : c = d := by
  have kinds := Component.kind_of_toJson same
  cases c with
  | text c =>
      cases d with
      | text d =>
          cases c
          cases d
          simpa [Component.toJson, ofText?_eq_iff, Named.name_eq_iff] using same
      | control d => cases d <;> simp [Component.kind, Control.kind] at kinds
      | _ => simp [Component.kind] at kinds
  | button c =>
      cases d with
      | button d => exact congrArg Component.button (Button.toJson_inj same)
      | control d => cases d <;> simp [Component.kind, Control.kind] at kinds
      | _ => simp [Component.kind] at kinds
  | control c =>
      cases d with
      | control d => exact congrArg Component.control (Control.toJson_inj same)
      | _ => cases c <;> simp [Component.kind, Control.kind] at kinds
  | divider c =>
      cases d with
      | divider d =>
          cases c
          cases d
          simpa [Component.toJson, ofText?_eq_iff, Named.name_eq_iff] using same
      | control d => cases d <;> simp [Component.kind, Control.kind] at kinds
      | _ => simp [Component.kind] at kinds
  | alert c =>
      cases d with
      | alert d =>
          cases c
          cases d
          simpa [Component.toJson, ofText?_eq_iff, Named.name_eq_iff] using same
      | control d => cases d <;> simp [Component.kind, Control.kind] at kinds
      | _ => simp [Component.kind] at kinds
  | form c =>
      cases d with
      | form d =>
          cases c
          cases d
          simp only [Component.toJson, object.injEq, List.cons.injEq, Prod.mk.injEq, true_and,
            Json.text.injEq, list.injEq, and_true] at same
          obtain ⟨rfl, fields, actions⟩ := same
          obtain rfl := (List.map_inj_right fun _ _ => Control.toJson_inj).mp fields
          obtain rfl := (List.map_inj_right fun _ _ => Button.toJson_inj).mp actions
          rfl
      | control d => cases d <;> simp [Component.kind, Control.kind] at kinds
      | _ => simp [Component.kind] at kinds
  | container id layout items =>
      cases d with
      | container id' layout' others =>
          simp only [Component.toJson, object.injEq, List.cons.injEq, Prod.mk.injEq, true_and,
            ofText?_eq_iff, Json.text.injEq, Named.name_eq_iff, list.injEq, and_true] at same
          obtain ⟨rfl, rfl, items'⟩ := same
          rw [componentsToJson_inj items others items']
      | control d => cases d <;> simp [Component.kind, Control.kind] at kinds
      | _ => simp [Component.kind] at kinds

theorem componentsToJson_inj (cs ds : List Component)
    (same : componentsToJson cs = componentsToJson ds) : cs = ds := by
  cases cs with
  | nil =>
      cases ds with
      | nil => rfl
      | cons d ds => simp [componentsToJson] at same
  | cons c cs =>
      cases ds with
      | nil => simp [componentsToJson] at same
      | cons d ds =>
          obtain ⟨first, others⟩ := List.cons.inj same
          rw [Component.toJson_inj c d first, componentsToJson_inj cs ds others]

end

/-- **Documents as JSON tell themselves apart.** Two documents with the same JSON are the same. -/
theorem toJson_inj {d e : Document} (same : d.toJson = e.toJson) : d = e := by
  obtain ⟨⟨id, title, layout, items⟩⟩ := d
  obtain ⟨⟨id', title', layout', others⟩⟩ := e
  simp only [toJson, Page.toJson, object.injEq, List.cons.injEq, Prod.mk.injEq, true_and,
    ofText?_eq_iff, Json.text.injEq, Named.name_eq_iff, list.injEq, and_true] at same
  obtain ⟨rfl, rfl, rfl, items'⟩ := same
  rw [componentsToJson_inj items others items']

/-! ## No numbers -/

theorem Control.plain_toJson (c : Control) : c.toJson.Plain := by
  cases c <;>
    simp [Control.toJson, kindMember, Plain, MembersPlain, plain_ofText?, allPlain_iff,
      Choice.toJson]

theorem Button.plain_toJson (c : Button) : c.toJson.Plain := by
  simp [Button.toJson, kindMember, Plain, MembersPlain, plain_ofText?]

mutual

theorem Component.plain_toJson (c : Component) : c.toJson.Plain := by
  cases c with
  | button c => exact c.plain_toJson
  | control c => exact c.plain_toJson
  | form c =>
      simp [Component.toJson, kindMember, Plain, MembersPlain, allPlain_iff, Control.plain_toJson,
        Button.plain_toJson]
  | container id layout items =>
      simp [Component.toJson, kindMember, Plain, MembersPlain, plain_ofText?,
        plain_componentsToJson items]
  | _ => simp [Component.toJson, kindMember, Plain, MembersPlain, plain_ofText?]

theorem plain_componentsToJson (cs : List Component) : AllPlain (componentsToJson cs) := by
  cases cs with
  | nil => trivial
  | cons c cs => exact ⟨c.plain_toJson, plain_componentsToJson cs⟩

end

/-- There are no numbers in the JSON of a document. -/
theorem plain_toJson (d : Document) : d.toJson.Plain := by
  simp [toJson, Page.toJson, kindMember, Plain, MembersPlain, plain_ofText?,
    plain_componentsToJson d.page.items]

/-- **Payloads tell documents apart.** Two documents with the same payload are the same. -/
theorem payload_inj {d e : Document} (same : d.payload = e.payload) : d = e :=
  toJson_inj (write_inj Style.telling_compact d.plain_toJson e.plain_toJson same)

end Wireframe.Document
