import Wireframe.Files
import Wireframe.Settings.Basic
import Wireframe.Settings.Field
import Wireframe.Toml.Read

/-! # Loading settings

Settings stand in a file of the project, in the tables `preview`, `theme` and `export`. A
project without the file has the defaults. Where the file is broken, the first thing that
is wrong with it is told; fields are examined in the order in which they stand in the
defaults.
-/

namespace Wireframe.Settings

/-- What is wrong with the file of the settings. -/
inductive Problem where
  | unreadable (refusal : Files.Refusal)
  | notUtf8
  /-- A broken rule of the notation and the place where it shows, in words. -/
  | broken (flaw : Toml.Flaw) (place : String)
  | field (location : List String) (cause : FieldCause)
deriving DecidableEq, Repr

/-- Why there are no settings. -/
inductive Fault where
  | refused (path : FilePath) (problem : Problem)
  /-- A whole number of more digits than are read. -/
  | tooManyDigits (count : Nat)
deriving DecidableEq, Repr

/-- The problem of a file in words. -/
def Problem.message (path : FilePath) : Problem → String
  | .unreadable refusal => "cannot read file: " ++ refusal.message path.text
  | .notUtf8 => "not valid UTF-8"
  | .broken flaw place => "invalid TOML: " ++ flaw.message ++ " (at " ++ place ++ ")"
  | .field location cause => ".".intercalate location ++ ": " ++ cause.message

/-- The fault in words. -/
def Fault.message : Fault → String
  | .refused path problem => path.text ++ ": " ++ problem.message path
  | .tooManyDigits count => Number.tooManyDigitsText count

namespace Load

/-- The name of the file of the settings. -/
def fileName : String := "textui.toml"

/-- The entries of a table; a table that is not there is empty. -/
def table (entries : Toml.Entries) (name fullName : String) : Except Problem Toml.Entries :=
  match Value.field? name entries with
  | none => .ok []
  | some (.map found) => .ok found
  | some _ => .error (.field [name] (.notTable fullName))

/-- A setting of a table, or its default. -/
def setting {α : Type} (entries : Toml.Entries) (tableName name : String) (default : α)
    (read : Value → Except FieldCause α) : Except Problem α :=
  match Value.field? name entries with
  | none => .ok default
  | some v => (read v).mapError (.field [tableName, name])

/-- The settings that the entries of a file give. -/
def ofEntries (root : FilePath) (entries : Toml.Entries) : Except Problem Settings := do
  let d := defaults root
  let preview ← table entries "preview" "PreviewSettings"
  let host ← setting preview "preview" "host" d.host Field.text
  let port ← setting preview "preview" "port" d.port (Field.wholeBetween 0 65535)
  let pollInterval ← setting preview "preview" "poll_interval" d.pollInterval Field.positive
  let debounce ← setting preview "preview" "debounce" d.debounce Field.notNegative
  let theme ← table entries "theme" "ThemeSettings"
  let themeFile ← setting theme "theme" "file" d.themeFile Field.text
  let exports ← table entries "export" "ExportSettings"
  let exportTitle ← setting exports "export" "title" d.exportTitle Field.text
  let exportDirectory ← setting exports "export" "output_dir" d.exportDirectory Field.text
  let exportFormat ← setting exports "export" "format" d.exportFormat (Field.word Export.Format)
  return ⟨root, host, port, pollInterval, debounce, themeFile, exportTitle, exportDirectory,
    exportFormat⟩

/-- The settings that the bytes of a file give. -/
def ofBytes (root path : FilePath) (bytes : List UInt8) : Except Fault Settings :=
  match Text.Utf8.decode bytes with
  | .error _ => .error (.refused path .notUtf8)
  | .ok chars =>
    match Toml.read chars with
    | .error (.tooManyDigits count) => .error (.tooManyDigits count)
    | .error (.flawed flaw unread) =>
      .error (.refused path (.broken flaw (Toml.placeText chars unread)))
    | .ok entries => (ofEntries root entries).mapError (.refused path)

end Load

/-- The path of the file of the settings. -/
def path (root : FilePath) : FilePath := root.within (FilePath.ofText Load.fileName)

/-- Loads the settings of a project. -/
def load (files : Files) (root : FilePath) : Except Fault Settings :=
  let path := path root
  if files.contains path then
    match files.readLines path with
    | .ok bytes => Load.ofBytes root path bytes
    | .error refusal => .error (.refused path (.unreadable refusal))
  else .ok (defaults root)

end Wireframe.Settings
