import Wireframe.Document.Outline
import Wireframe.Document.Payload
import Wireframe.Yaml.Load

/-! # Reading documents

From the text or the bytes of a source to its document, or to the first fault in it.

A document is accepted whose texts hold halves of surrogate pairs, but it is good for little:
no text that has to be encoded can be made of it. The same goes for a document that is nested too
deeply to be written.
-/

namespace Wireframe

/-- A source as it is handed over: a text, or the bytes of one. -/
inductive Source where
  | text (s : String)
  | bytes (b : List UInt8)
deriving DecidableEq, Repr

namespace Source

/-- The value that a source is written for. Bytes have to be UTF-8. -/
def load : Source → Except Document.Fault Value
  | .text s => (Yaml.load s).mapError .ofYaml
  | .bytes b =>
    match Text.Utf8.decode b with
    | .ok chars => (Yaml.load (String.ofList chars)).mapError .ofYaml
    | .error failure => .error (.malformed (.encoding failure.position))

/-- The value that a source is written for, if it is well-formed. -/
def value? (source : Source) : Option Value := source.load.toOption

end Source

namespace Document

/-- The document of a value, which has to be a mapping. -/
def ofValue : Value → Except Fault Document
  | .map entries => build entries
  | other => .error (.malformed (.notMapping other.describe))

/-- Reads a document from a source. -/
def ofSource (source : Source) : Except Fault Document := source.load >>= ofValue

/-- Why the content of a document cannot be written, where the document is that of a value. -/
def unwritten? (v : Value) (d : Document) : Option Yaml.ScalarFault :=
  if hasHalves v then some .halved else if d.isTooDeep then some .tooDeep else none

/-- Reads a document from a source to render it, for which its content has to be written. -/
def renderable (source : Source) : Except Fault Document := do
  let v ← source.load
  let d ← ofValue v
  match unwritten? v d with
  | some fault => throw (.scalar fault)
  | none => return d

end Document

end Wireframe
