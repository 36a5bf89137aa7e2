import Wireframe.Command.Arguments
import Wireframe.Command.Console
import Wireframe.Document.Walk
import Wireframe.Log.Record
import Wireframe.Preview.Reload
import Wireframe.Settings.Load
import Wireframe.Version

/-! # Commands

The commands check a document, render it, print the style sheet of the theme, and write
an export. A command prints what it was asked for, reports what it does in records, and
tells of failures; all that happens in one order, in which the lines stand in the report.
-/

namespace Wireframe.Command

/-- What a command breaks off with when it does not tell of the failure itself. -/
inductive Breakage where
  | scalar (fault : Yaml.ScalarFault)
  | theme (cause : Theme.Breakdown)
  | settings (fault : Settings.Fault)
  | files (refusal : Files.Refusal)
deriving DecidableEq, Repr

/-- The breakage in words. -/
def Breakage.message : Breakage → String
  | .scalar fault | .theme (.scalar fault) => fault.message
  | .theme .nameNotText => "a name in a theme is no text"
  | .settings fault => fault.message
  | .files refusal => refusal.words

/-- Why a command ends early. -/
inductive Stop where
  /-- A failure that has been told. -/
  | told
  | broken (cause : Breakage)
deriving DecidableEq, Repr

/-- A record before it has a time. -/
structure Remark where
  level : Int
  logger : String
  message : String
deriving DecidableEq, Repr

/-- What happens while a command runs. -/
inductive Event where
  /-- A line that was asked for. -/
  | output (line : String)
  /-- A line about a failure. -/
  | failure (line : String)
  | remark (r : Remark)
deriving DecidableEq, Repr

/-- The state of a running command: the files, what has happened, and the level from which on records
are made. -/
structure State where
  files : Files
  events : List Event
  level : Int

/-- A step of a command. -/
abbrev Step (α : Type) := ExceptT Stop (StateM State) α

namespace Step

/-- Adds an event. -/
def happen (event : Event) : Step Unit := modify fun s => { s with events := s.events ++ [event] }

/-- Prints a text that was asked for. -/
def print (text : String) : Step Unit := happen (.output text)

/-- Prints a line in a style. -/
def printLine (style : String) (pieces : List (Bool × String)) : Step Unit :=
  print (Console.line style pieces)

/-- Tells of a failure. -/
def tell (pieces : List (Bool × String)) : Step Unit :=
  happen (.failure (Console.line "red" pieces))

/-- Tells of a failure of a file, and ends the command. -/
def fail {α : Type} (path : FilePath) (message : String) : Step α := do
  tell [(true, path.text), (false, ": "), (true, message)]
  throw .told

/-- Makes a record, if its level is reached. -/
def report (level : Int) (logger message : String) : Step Unit := do
  if (← get).level ≤ level then happen (.remark ⟨level, logger, message⟩)

/-- Breaks off. -/
def breakOff {α : Type} (cause : Breakage) : Step α := throw (.broken cause)

/-- The bytes of a document. -/
def readDocument (path : FilePath) : Step (List UInt8) := do
  match (← get).files.read path with
  | .ok bytes => return bytes
  | .error refusal => fail path ("cannot read file: " ++ refusal.words)

/-- Reads a document, and reports how many nodes it has. -/
def parse (bytes : List UInt8) : Step (Except Preview.SourceFailure Document) := do
  match Document.ofSource (.bytes bytes) with
  | .ok d =>
    report Log.debug "textui.core.parser"
      ("Parsed document with " ++ Nat.repr d.walk.length ++ " node(s)")
    return .ok d
  | .error (.malformed m) => return .error (.malformed m)
  | .error (.schema fault) => return .error (.schema fault)
  | .error (.scalar fault) => breakOff (.scalar fault)

/-- Reports what became of a theme. -/
def reportTheme : Except Theme.Failure Theme.UserTheme → Step Unit
  | .ok user =>
    report Log.debug "textui.themes.loader"
      ("Loaded theme " ++ user.source ++ " (" ++ user.name.getD "unnamed" ++ ")")
  | .error (.refused refusal) =>
    report Log.warning "textui.themes.resolver" (refusal.message ++ "; using default theme")
  | .error (.broken _) => pure ()

/-- The theme of a file. -/
def loadTheme (path : FilePath) : Step Theme.Resolved := do
  let loaded := Theme.UserTheme.ofFile ((← get).files.themeContent path) path.text
  reportTheme loaded
  match Theme.Resolved.ofUser .builtin loaded with
  | .ok theme =>
    if theme.hasHalves then breakOff (.theme (.scalar .halved))
    return theme
  | .error cause => breakOff (.theme cause)

/-- The theme in force: the one that was asked for, or else that of the project if it has one. -/
def theme (settings : Settings) (asked : Option FilePath) : Step Theme.Resolved := do
  match asked with
  | some path => loadTheme path
  | none =>
    if (← get).files.contains settings.themePath then loadTheme settings.themePath
    else return Theme.Resolved.defaults .builtin []

/-- Renders a document, or reports why it cannot be. -/
def rendered (theme : Theme.Resolved) (bytes : List UInt8) :
    Step (Except Preview.SourceFailure Preview.Rendered) := do
  match ← parse bytes with
  | .ok d =>
    if let some fault := (Source.bytes bytes).value?.bind (Document.unwritten? · d) then
      breakOff (.scalar fault)
    let fragment := Render.fragment d theme
    report Log.debug "textui.render.renderer"
      ("Rendered fragment (" ++ Nat.repr fragment.markup.length ++ " chars, " ++
        Nat.repr fragment.«variables».length ++ " variables)")
    return .ok ⟨d, fragment, theme.styleSheet⟩
  | .error failure =>
    let what :=
      match failure with
      | .malformed _ => "Malformed document: "
      | .schema _ => "Schema error: "
    report Log.debug "textui.runtime.pipeline" (what ++ failure.message)
    return .error failure

/-- Renders the document of a file, which has to be possible. -/
def renderedFile (theme : Theme.Resolved) (path : FilePath) : Step Preview.Rendered := do
  match ← rendered theme (← readDocument path) with
  | .ok r => return r
  | .error failure => fail path failure.message

/-- Writes an export. -/
def writeExport (path : FilePath) (text : String) : Step Unit := do
  let bytes := Text.Utf8.encode text
  match (← get).files.store path bytes with
  | .ok files => modify fun s => { s with files := files }
  | .error refusal => breakOff (.files refusal)
  report Log.info "textui.surfaces.export"
    ("Exported " ++ path.text ++ " (" ++ Nat.repr bytes.length ++ " bytes)")

/-- Checks a document. -/
def validate (document : FilePath) : Step Unit := do
  match ← parse (← readDocument document) with
  | .ok d =>
    printLine "green"
      [(true, document.text),
        (false, ": OK (" ++ Nat.repr (d.walk.length - 1) ++ " components)")]
  | .error failure => fail document failure.message

/-- Prints the style sheet of the theme, or the variables that a document uses. -/
def css (settings : Settings) (asked minimal : Option FilePath) : Step Unit := do
  let theme ← theme settings asked
  match minimal with
  | none => print theme.styleSheet
  | some path =>
    let r ← renderedFile theme path
    print (theme.rootRule (some r.fragment.«variables») 2)

/-- Writes an export of a document. -/
def exportDocument (settings : Settings) (document : FilePath)
    (output asked : Option FilePath) (title : Option String) (format : Option Export.Format) :
    Step Unit := do
  let format := format.getD settings.exportFormat
  let theme ← theme settings asked
  let slot : Preview.Slot Preview.Rendered Preview.SourceFailure :=
    match ← rendered theme (← readDocument document) with
    | .ok r => Preview.Slot.empty.record (.inl r)
    | .error failure => Preview.Slot.empty.record (.inr failure)
  let title := (title.filter (· != "")).getD settings.exportTitle
  let target := output.getD (settings.exportPath document (some format))
  match slot.exportText title format with
  | .ok text => writeExport target text
  | .error fault => fail document fault.message
  printLine "green" [(false, "Exported "), (true, target.text)]

/-- Does what is asked for. -/
def perform (settings : Settings) : Request → Step Unit
  | .validate document => validate document
  | .render document asked => do
    let r ← renderedFile (← theme settings asked) document
    print r.fragment.markup
  | .css asked minimal => css settings asked minimal
  | .export_ document output asked title format =>
    exportDocument settings document output asked title format

/-- Makes the file to which records go, if it is not there. -/
def openLog (path : FilePath) : Step Unit := do
  let files := (← get).files
  let opened : Except Files.Refusal Files := do
    let files ← files.makeDirectory path.parent
    match files.read path with
    | .ok _ => return files
    | .error .missing => files.write path []
    | .error refusal => throw refusal
  match opened with
  | .ok files => modify fun s => { s with files := files }
  | .error refusal => breakOff (.files refusal)

/-- Loads the settings of the project. -/
def loadSettings (project : FilePath) : Step Settings := do
  let files := (← get).files
  match Settings.load files (files.home.within project).settled with
  | .ok settings => return settings
  | .error (.tooManyDigits count) => breakOff (.settings (.tooManyDigits count))
  | .error fault =>
    tell [(false, "Error: "), (true, fault.message)]
    throw .told

end Step

/-- The paths that a request names, and the one to which an export goes without being told. -/
def Request.paths (settings : Settings) : Request → List FilePath
  | .validate document => [document]
  | .render document theme => document :: theme.toList
  | .css theme minimal => theme.toList ++ minimal.toList
  | .export_ document output theme _ format =>
    document :: output.getD (settings.exportPath document (some (format.getD settings.exportFormat)))
      :: theme.toList

/-- The paths at which a command line reads or writes, as far as some files tell: the theme and the
export are found through the settings. -/
def paths (files : Files) (words : List String) : List FilePath :=
  match Start.read words with
  | .request start =>
    let root := (files.home.within start.common.project).settled
    let found :=
      match Settings.load files root, start.task.read start.words with
      | .ok settings, .request request => settings.themePath :: request.paths settings
      | _, _ => []
    start.common.logFile.toList ++ Settings.path root :: found
  | _ => []

/-- How a command ends. -/
inductive End where
  | done
  | failed
  | broken (cause : Breakage)
  /-- The words of the command line ask for nothing that there is. -/
  | usage
deriving DecidableEq, Repr

/-- The status with which a program tells how a command ended. -/
def End.status : End → Nat
  | done => 0
  | failed => 1
  | broken _ => 1
  | usage => 2

/-- What a command did: what happened, the files after it, the file to which the records go, and how
it ended. -/
structure Report where
  events : List Event
  files : Files
  logFile : Option FilePath
  ending : End

/-- How to call the program. -/
def helpText : String :=
  "\n".intercalate
    ["Usage: textui [--verbose] [--log-file FILE] [--project DIR] COMMAND ...",
     "",
     "  validate DOCUMENT                 Check a document",
     "  render DOCUMENT [-t THEME]        Print the markup of a document",
     "  css [-t THEME] [--minimal DOC]    Print the style sheet of the theme",
     "  export DOCUMENT [-o FILE] [-t THEME] [--title TITLE] [-f html|react|pug]",
     "                                    Write an export of a document"]

/-- A report of something that is printed and nothing else. -/
def Report.ofText (files : Files) (text : String) : Report := ⟨[.output text], files, none, .done⟩

/-- Prepares a command and does what it is asked for. -/
def Start.steps (start : Start) : Step End := do
  match start.common.logFile with
  | some path => Step.openLog path
  | none => pure ()
  let settings ← Step.loadSettings start.common.project
  match start.task.read start.words with
  | .usage => return .usage
  | .help =>
    Step.print helpText
    return .done
  | .version => return .usage
  | .request request =>
    Step.perform settings request
    return .done

/-- Runs a command line. -/
def run (files : Files) (words : List String) : Report :=
  match Start.read words with
  | .usage => ⟨[], files, none, .usage⟩
  | .help => .ofText files helpText
  | .version => .ofText files (programName ++ " " ++ version)
  | .request start =>
    let level := if start.common.verbose then Log.debug else Log.info
    let (result, state) := start.steps.run.run ⟨files, [], level⟩
    let ending :=
      match result with
      | .ok ending => ending
      | .error .told => .failed
      | .error (.broken cause) => .broken cause
    ⟨state.events, state.files, start.common.logFile, ending⟩

/-- A remark as a record that is made at a moment. -/
def Remark.record (r : Remark) (created : Int) : Log.Record :=
  ⟨created, r.level, r.logger, r.message, ⟨"Wireframe/Command/Run.lean", 0, none⟩, none⟩

namespace Report

/-- What was asked for, line by line. -/
def output (report : Report) : String :=
  String.join (report.events.map fun
    | .output line => line ++ "\n"
    | _ => "")

/-- The failures and the records, line by line, with the time of day that a clock shows. -/
def messages (report : Report) (clock : String) : String :=
  String.join (report.events.map fun
    | .failure line => line ++ "\n"
    | .remark r => (r.record 0).textAt clock ++ "\n"
    | .output _ => "")

/-- The lines that the records add to their file. -/
def logLines (report : Report) (created : Int) : List String :=
  report.events.filterMap fun
    | .remark r => some (r.record created).line
    | _ => none

/-- The files after a command whose records are made at a moment: the records are in the file to
which they go. -/
def filesAt (report : Report) (created : Int) : Files :=
  let added := Text.Utf8.encode (String.join ((report.logLines created).map (· ++ "\n")))
  let logged : Option Files := do
    let path ← report.logFile
    let bytes ← (report.files.read path).toOption
    (report.files.write path (bytes ++ added)).toOption
  logged.getD report.files

end Report

end Wireframe.Command
