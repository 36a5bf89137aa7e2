import Wireframe.FilePath
import Wireframe.Preview.Pipeline

/-! # Sessions

The host's side of a preview. A session turns changes of the document and of the theme
into messages for a surface, and answers what the surface asks. A failure never changes
what is exported.

A step of a session tells which messages it sends, in order, and what it writes. Writing
itself is left to the caller, and so is what becomes of a message on its way: it may be
encoded, and then one about a failure whose words have no encoding does not get through.
-/

namespace Wireframe.Preview

/-- An export and the file it goes to. -/
structure Artefact where
  target : FilePath
  text : String
deriving DecidableEq, Repr

/-- A session: a pipeline, the results so far, and where exports go and what they look like. -/
structure Session where
  pipeline : Pipeline
  slot : Slot Rendered SourceFailure
  exportTarget : Option FilePath
  exportTitle : String
  exportFormat : Export.Format

/-- A step of a session: the session after it, the messages it sends, and what it yields. -/
structure Reaction (α : Type) where
  session : Session
  sent : List HostMessage
  result : α

namespace Session

/-- A session in which nothing has happened. -/
def start (pipeline : Pipeline) (target : Option FilePath) (title : String)
    (format : Export.Format) : Session :=
  ⟨pipeline, Slot.empty, target, title, format⟩

/-- The document has changed: its new source is rendered, and the outcome announced. -/
def documentChanged (s : Session) (source : Source) :
    Except Yaml.ScalarFault (Reaction Outcome) := do
  let (outcome, pipeline) ← s.pipeline.run source
  return ⟨{ s with pipeline := pipeline, slot := s.slot.record outcome.toSum },
    [outcome.toMessage], outcome⟩

/-- Shows the theme in force. The good document is rendered anew and sent, and a failure after it is
sent again, so that it stays in view; without a good document the style sheet alone is sent. -/
def refreshTheme (s : Session) : Reaction (List Theme.Refusal) :=
  let diagnostics := s.pipeline.diagnostics
  match s.slot.good with
  | none => ⟨s, [.themeVariables s.pipeline.styleSheet], diagnostics⟩
  | some good =>
    let (r, pipeline) := s.pipeline.renderDocument good.document
    ⟨{ s with pipeline := pipeline, slot := s.slot.replaceGood r },
      r.toMessage :: s.slot.failed.toList.map SourceFailure.toMessage, diagnostics⟩

/-- A pipeline has loaded a theme: it is shown, unless loading broke off. -/
def themeLoaded (s : Session) :
    Pipeline × Option Theme.Breakdown → Reaction (Except Theme.Breakdown (List Theme.Refusal))
  | (pipeline, none) =>
    let shown := { s with pipeline := pipeline }.refreshTheme
    ⟨shown.session, shown.sent, .ok shown.result⟩
  | (pipeline, some cause) => ⟨{ s with pipeline := pipeline }, [], .error cause⟩

/-- The theme has changed to that of a text, or to the defaults. -/
def themeChanged (s : Session) (content : Option String) (source : String) :
    Reaction (Except Theme.Breakdown (List Theme.Refusal)) :=
  s.themeLoaded (s.pipeline.loadTheme content source)

/-- The theme has changed to that of a file, or to the defaults. -/
def themeFileChanged (s : Session) (file : Option (Theme.Content × String)) :
    Reaction (Except Theme.Breakdown (List Theme.Refusal)) :=
  s.themeLoaded (s.pipeline.loadThemeFile file)

/-- The messages that bring a surface up to date. -/
def snapshot (s : Session) : List HostMessage :=
  (match s.slot.good with
    | some good => good.toMessage
    | none => .themeVariables s.pipeline.styleSheet) ::
    s.slot.failed.toList.map SourceFailure.toMessage

/-- Whether there is no failure that is told last, or its words have an encoding. -/
def canTell (s : Session) : Bool := s.slot.failed.all SourceFailure.isWritable

/-- Asks the surface to open its developer tools. -/
def openDevTools (s : Session) : Reaction Unit := ⟨s, [.openDevTools], ()⟩

/-- Builds an export in the format of the session. -/
def build (s : Session) (format : Export.Format) : Except ExportFault String :=
  s.slot.exportText s.exportTitle format

/-- Builds the export that a surface asks for. Where none is possible the surface is told so. -/
def exportRequested (s : Session) : Except Markup.Fault (Reaction (Option Artefact)) :=
  match s.exportTarget with
  | none => .ok ⟨s, [.error "export refused: no export location configured"], none⟩
  | some target =>
    match s.build s.exportFormat with
    | .ok text => .ok ⟨s, [], some ⟨target, text⟩⟩
    | .error (.refused last) =>
      .ok ⟨s, [.error ("export refused: " ++ (ExportFault.refused last).message)], none⟩
    | .error (.markup fault) => .error fault

/-- Answers a message of a surface. -/
def handle (s : Session) : SurfaceMessage → Except Markup.Fault (Reaction (Option Artefact))
  | .ready => .ok ⟨s, s.snapshot, none⟩
  | .exportRequest => s.exportRequested

/-- Whether the answers to a message all have an encoding. An answer without one tells of the last
failure, and comes last. -/
def canAnswer (s : Session) : SurfaceMessage → Bool
  | .ready => s.canTell
  | .exportRequest => s.exportTarget.isNone || s.slot.good.isSome || s.canTell

/-- Why the bytes of a message are not answered. -/
inductive ReceiveFault where
  | message (fault : MessageFault)
  | markup (fault : Markup.Fault)

/-- Decodes a message of a surface and answers it. -/
def receive (s : Session) (bytes : List UInt8) :
    Except ReceiveFault (Reaction (Option Artefact)) :=
  match decodeSurfaceMessage bytes with
  | .error fault => .error (.message fault)
  | .ok message => (s.handle message).mapError .markup

end Session

end Wireframe.Preview
