import Wireframe.Digest.Sha256
import Wireframe.Document.Basic
import Wireframe.Json.Basic

/-! # The content of a document as JSON

A document as one JSON object in which every field of every node appears, in a fixed
order, whether the source wrote it or not. The digest of that text stands for the content
of the document. Only so many objects can be written that stand in each other, and a page that
holds more has no digest.
-/

namespace Wireframe.Document

/-- The member that tells the kind of a node. -/
def kindMember (kind : Kind) : String × Json := ("component", .text kind.name)

/-- A choice as JSON. -/
def Choice.toJson (c : Choice) : Json :=
  .object [("label", .text c.label), ("value", .text c.value)]

/-- A button as JSON. -/
def Button.toJson (c : Button) : Json :=
  .object
    [("id", .ofText? c.id), kindMember .button, ("kind", .text (Named.name c.kind)),
      ("label", .text c.label), ("submit", .bool c.submit), ("disabled", .bool c.disabled)]

/-- A control as JSON. -/
def Control.toJson : Control → Json
  | .input c =>
    .object
      [("id", .ofText? c.id), kindMember .input, ("label", .text c.label), ("name", .text c.name),
        ("type", .text (Named.name c.type)), ("required", .bool c.required),
        ("placeholder", .ofText? c.placeholder), ("disabled", .bool c.disabled)]
  | .checkbox c =>
    .object
      [("id", .ofText? c.id), kindMember .checkbox, ("label", .text c.label),
        ("name", .text c.name), ("checked", .bool c.checked), ("disabled", .bool c.disabled)]
  | .radio c =>
    .object
      [("id", .ofText? c.id), kindMember .radio, ("label", .text c.label), ("name", .text c.name),
        ("options", .list (c.options.map Choice.toJson)), ("disabled", .bool c.disabled)]
  | .select c =>
    .object
      [("id", .ofText? c.id), kindMember .select, ("label", .text c.label), ("name", .text c.name),
        ("options", .list (c.options.map Choice.toJson)), ("placeholder", .ofText? c.placeholder),
        ("multiple", .bool c.multiple), ("disabled", .bool c.disabled)]

mutual

/-- A component as JSON. -/
def Component.toJson : Component → Json
  | .text c =>
    .object
      [("id", .ofText? c.id), kindMember .text, ("variant", .text (Named.name c.variant)),
        ("value", .text c.value)]
  | .button c => c.toJson
  | .control c => c.toJson
  | .divider c =>
    .object
      [("id", .ofText? c.id), kindMember .divider,
        ("orientation", .text (Named.name c.orientation))]
  | .alert c =>
    .object
      [("id", .ofText? c.id), kindMember .alert, ("variant", .text (Named.name c.variant)),
        ("message", .text c.message), ("title", .ofText? c.title)]
  | .form c =>
    .object
      [("id", .text c.id), kindMember .form, ("fields", .list (c.fields.map Control.toJson)),
        ("actions", .list (c.actions.map Button.toJson))]
  | .container id layout items =>
    .object
      [("id", .ofText? id), kindMember .container, ("layout", .text (Named.name layout)),
        ("items", .list (componentsToJson items))]

/-- The components of a list as JSON. -/
def componentsToJson : List Component → List Json
  | [] => []
  | c :: rest => c.toJson :: componentsToJson rest

end

/-- A page as JSON. -/
def Page.toJson (p : Page) : Json :=
  .object
    [("id", .ofText? p.id), kindMember .page, ("title", .ofText? p.title),
      ("layout", .text (Named.name p.layout)), ("items", .list (componentsToJson p.items))]

/-- A document as JSON. -/
def toJson (d : Document) : Json := .object [("page", d.page.toJson)]

/-- The content of a document as a text. -/
def payload (d : Document) : String := d.toJson.write .compact

/-- How many objects of a page can be written that stand in each other, the page among them. -/
def depthLimit : Nat := 128

/-- Whether more objects of a page stand in each other than can be written. -/
def isTooDeep (d : Document) : Bool := depthLimit < d.page.toJson.depth

/-- What stands for the content of a document. -/
def fingerprint (d : Document) : String := Digest.Sha256.hexDigest d.payload

end Wireframe.Document
