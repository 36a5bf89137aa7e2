import Wireframe.Document.Read
import Wireframe.Export.Format
import Wireframe.Preview.Message
import Wireframe.Render.Fragment

/-! # Outcomes

What becomes of a source: a rendered document, or a failure that tells what is wrong with
the source. Each outcome is announced to a surface by a message of its own. A slot keeps
the last good outcome beside the failure that came after it, if one did; exports are
built from the good one.
-/

namespace Wireframe.Preview

/-- A document as it was rendered under a theme, with the style sheet of the theme. -/
structure Rendered where
  document : Document
  fragment : Render.Fragment
  styleSheet : String

/-- What is wrong with a source. -/
inductive SourceFailure where
  | malformed (m : Document.Malformed)
  | schema (fault : Document.SchemaFault)
deriving DecidableEq, Repr

/-- The failure in words. -/
def SourceFailure.message : SourceFailure → String
  | .malformed m => m.message
  | .schema fault => fault.message

/-- Whether the words for the failure have an encoding. -/
def SourceFailure.isWritable : SourceFailure → Bool
  | .malformed _ => true
  | .schema fault => fault.cause.isWritable

/-- What becomes of a source. -/
inductive Outcome where
  | rendered (r : Rendered)
  | failed (failure : SourceFailure)

/-- The kind of an outcome. -/
def Outcome.kind : Outcome → String
  | .rendered _ => "ok"
  | .failed (.malformed _) => "malformed"
  | .failed (.schema _) => "schema"

/-- The message that announces a rendered document. -/
def Rendered.toMessage (r : Rendered) : HostMessage := .update r.fragment.markup r.styleSheet

/-- The message that announces a failure. -/
def SourceFailure.toMessage : SourceFailure → HostMessage
  | .malformed m => .error m.message
  | .schema fault => .schemaError fault.reason (some fault.path.text)

/-- The message that announces an outcome. -/
def Outcome.toMessage : Outcome → HostMessage
  | .rendered r => r.toMessage
  | .failed failure => failure.toMessage

/-- The last good result, and the failure after it if there is one. -/
structure Slot (γ φ : Type) where
  good : Option γ
  failed : Option φ

namespace Slot

variable {γ φ : Type}

/-- A slot without results. -/
def empty : Slot γ φ := ⟨none, none⟩

/-- Records a result. A good one takes the place of all before it; a failure leaves the last good
one as it is. -/
def record (slot : Slot γ φ) : γ ⊕ φ → Slot γ φ
  | .inl good => ⟨some good, none⟩
  | .inr failure => { slot with failed := some failure }

/-- Puts another good result in the place of the last one; a failure stays. -/
def replaceGood (slot : Slot γ φ) (good : γ) : Slot γ φ := { slot with good := some good }

end Slot

/-- An outcome as a result for a slot. -/
def Outcome.toSum : Outcome → Rendered ⊕ SourceFailure
  | .rendered r => .inl r
  | .failed failure => .inr failure

/-- Why no export is built. -/
inductive ExportFault where
  /-- No document has been rendered; the failure of the last source, if there was one. -/
  | refused (last : Option SourceFailure)
  | markup (fault : Markup.Fault)
deriving DecidableEq, Repr

/-- The fault in words. -/
def ExportFault.message : ExportFault → String
  | .refused none => "no valid document to export yet"
  | .refused (some failure) => "no valid document to export; last error: " ++ failure.message
  | .markup fault => fault.message

/-- The title of a document, or a default where the document has none. -/
def titleOf (d : Document) (default : String) : String :=
  (d.page.title.filter (· != "")).getD default

/-- Builds an export of the last good document. -/
def Slot.exportText (slot : Slot Rendered SourceFailure) (defaultTitle : String)
    (format : Export.Format) : Except ExportFault String :=
  match slot.good with
  | none => .error (.refused slot.failed)
  | some r =>
    (Export.build format r.fragment.markup r.styleSheet
      (titleOf r.document defaultTitle)).mapError .markup

end Wireframe.Preview
