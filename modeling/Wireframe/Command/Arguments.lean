import Wireframe.Export.Format
import Wireframe.FilePath
import Wireframe.Table
import Wireframe.Text.Case

/-! # Arguments

What the words of a command line ask for. The switches for all commands stand before the
name of the command; those of the command stand behind it, in any order with its
operands, until a double dash ends all switches. A switch that is given several times
counts as it was given last.
-/

namespace Wireframe.Command

/-- The switches. -/
inductive Switch where
  | help | version | verbose | logFile | project | theme | minimal | output | title | format
deriving DecidableEq, Repr

namespace Switch

/-- The names of a switch: a long one behind two dashes, and for some a letter behind one. -/
def names : Switch → List String
  | help => ["--help"]
  | version => ["--version", "-v"]
  | verbose => ["--verbose"]
  | logFile => ["--log-file"]
  | project => ["--project", "-p"]
  | theme => ["--theme", "-t"]
  | minimal => ["--minimal"]
  | output => ["--output", "-o"]
  | title => ["--title"]
  | format => ["--format", "-f"]

/-- Whether a switch takes a value. -/
def takesValue : Switch → Bool
  | help | version | verbose => false
  | _ => true

/-- The switch among some that goes by a name. -/
def find? (among : List Switch) (name : String) : Option Switch :=
  among.find? fun s => s.names.contains name

end Switch

/-- What has been read: the switches with their values, the operands, and the switch whose value
comes next, if there is one. -/
structure Reading where
  given : Table Switch String
  operands : List String
  awaited : Option Switch

namespace Reading

/-- Nothing read yet. -/
def start : Reading := ⟨[], [], none⟩

/-- The value of a switch. -/
def value? (r : Reading) (s : Switch) : Option String := r.given.get? s

/-- Whether a switch was given. -/
def has (r : Reading) (s : Switch) : Bool := (r.value? s).isSome

/-- Takes a switch with its value. -/
def give (r : Reading) (s : Switch) (value : String) : Reading :=
  { r with given := r.given.put s value, awaited := none }

/-- Takes a switch by its long name, with the value that is joined to it by an equals sign. -/
def long? (r : Reading) (s : Switch) (joined : Option String) : Option Reading :=
  match s.takesValue, joined with
  | true, some value => some (r.give s value)
  | true, none => some { r with awaited := some s }
  | false, some _ => none
  | false, none => some (r.give s "")

/-- Takes switches by their letters. What stands behind the letter of one that takes a value is its
value. -/
def letters? (among : List Switch) (r : Reading) : List Char → Option Reading
  | [] => some r
  | c :: rest =>
    match Switch.find? among (String.ofList ['-', c]) with
    | none => none
    | some s =>
      if !s.takesValue then letters? among (r.give s "") rest
      else if rest.isEmpty then some { r with awaited := some s }
      else some (r.give s (String.ofList rest))

/-- Takes a word that begins with a dash. -/
def switch? (among : List Switch) (r : Reading) (word : String) : Option Reading :=
  let chars := word.toList
  let name := chars.takeWhile (· != '=')
  let joined :=
    match chars.drop name.length with
    | _ :: value => some (String.ofList value)
    | [] => none
  if ['-', '-'].isPrefixOf chars then
    (Switch.find? among (String.ofList name)).bind fun s => r.long? s joined
  else letters? among r chars.tail

/-- Whether a word is read as a switch: it begins with a dash and goes on. -/
def isSwitch (word : String) : Bool := word.startsWith "-" && word != "-"

/-- Reads words. Without `amid` the first operand ends the switches, and it is left with all words
behind it; a double dash ends them always. There is no result for a switch that is not among those
that may be given, nor for one without its value. -/
def words? (among : List Switch) (amid : Bool) (r : Reading) :
    List String → Option (Reading × List String)
  | [] => if r.awaited.isSome then none else some (r, [])
  | word :: rest =>
    match r.awaited with
    | some s => words? among amid (r.give s word) rest
    | none =>
      if word == "--" then some (r, rest)
      else if isSwitch word then
        match r.switch? among word with
        | some r => words? among amid r rest
        | none => none
      else if amid then words? among amid { r with operands := r.operands ++ [word] } rest
      else some (r, word :: rest)

end Reading

/-- The commands. -/
inductive Task where
  | validate | render | css | export_
deriving DecidableEq, Repr

instance : Named Task where
  all := [.validate, .render, .css, .export_]
  name
    | .validate => "validate"
    | .render => "render"
    | .css => "css"
    | .export_ => "export"

/-- The switches of a command. -/
def Task.switches : Task → List Switch
  | .validate => [.help]
  | .render => [.help, .theme]
  | .css => [.help, .theme, .minimal]
  | .export_ => [.help, .output, .theme, .title, .format]

/-- What a command is asked to do. -/
inductive Request where
  | validate (document : FilePath)
  | render (document : FilePath) (theme : Option FilePath)
  | css (theme minimal : Option FilePath)
  | export_ (document : FilePath) (output theme : Option FilePath) (title : Option String)
    (format : Option Export.Format)
deriving DecidableEq, Repr

/-- An answer of the words to what they ask for: `usage` stands for words that ask for nothing that
there is. -/
inductive Asked (α : Type) where
  | usage
  | help
  | version
  | request (what : α)

/-- The request that a command reads from its switches and its only operand, or without one. -/
def Task.request? (task : Task) (r : Reading) (operands : List String) : Option Request :=
  let path? (s : Switch) := (r.value? s).map FilePath.ofText
  match task, operands with
  | .validate, [document] => some (.validate (FilePath.ofText document))
  | .render, [document] => some (.render (FilePath.ofText document) (path? .theme))
  | .css, [] => some (.css (path? .theme) (path? .minimal))
  | .export_, [document] =>
    let request := Request.export_ (FilePath.ofText document) (path? .output) (path? .theme)
      (r.value? .title)
    match r.value? .format with
    | none => some (request none)
    | some word => (Named.ofName? (Text.lower word)).map fun format => request (some format)
  | _, _ => none

/-- What the words behind the name of a command ask for. -/
def Task.read (task : Task) (words : List String) : Asked Request :=
  match Reading.start.words? task.switches true words with
  | none => .usage
  | some (r, rest) =>
    if r.has .help then .help
    else
      match task.request? r (r.operands ++ rest) with
      | some request => .request request
      | none => .usage

/-- What holds for all commands: whether details are reported, the file to which records go, and the
directory of the project. -/
structure Common where
  verbose : Bool
  logFile : Option FilePath
  project : FilePath
deriving DecidableEq, Repr

/-- A command with what holds for all commands, and the words behind its name. -/
structure Start where
  common : Common
  task : Task
  words : List String

/-- The switches that stand before the name of a command. -/
def commonSwitches : List Switch := [.help, .version, .verbose, .logFile, .project]

/-- What the words of a command line ask for. -/
def Start.read (words : List String) : Asked Start :=
  match Reading.start.words? commonSwitches false words with
  | none => .usage
  | some (r, rest) =>
    if r.has .help then .help
    else if r.has .version then .version
    else
      match rest with
      | [] => .usage
      | name :: words =>
        match Named.ofName? name with
        | none => .usage
        | some task =>
          .request ⟨⟨r.has .verbose, (r.value? .logFile).map FilePath.ofText,
            FilePath.ofText ((r.value? .project).getD ".")⟩, task, words⟩

end Wireframe.Command
