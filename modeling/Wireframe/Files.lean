import Wireframe.FilePath
import Wireframe.Table
import Wireframe.Text.Spelled

/-! # Files

Files and directories below a root, and what reading and writing them does. A path leads
from directory to directory; every name on it but the last has to be a directory. Paths
that do not begin at the root are seen from one directory, the home.
-/

namespace Wireframe

namespace Files

/-- What stands under a name: the bytes of a file, or a directory. -/
inductive Entry where
  | file (bytes : List UInt8)
  | directory
deriving DecidableEq, Repr

/-- Why a path is refused. -/
inductive Refusal where
  | missing
  | occupied
  | notDirectory
  | isDirectory
deriving DecidableEq, Repr

/-- The number of a refusal. -/
def Refusal.number : Refusal → Nat
  | missing => 2
  | occupied => 17
  | notDirectory => 20
  | isDirectory => 21

/-- The refusal in words. -/
def Refusal.words : Refusal → String
  | missing => "No such file or directory"
  | occupied => "File exists"
  | notDirectory => "Not a directory"
  | isDirectory => "Is a directory"

/-- The refusal of a path in words, with its number and the path. -/
def Refusal.message (refusal : Refusal) (path : String) : String :=
  "[Errno " ++ Nat.repr refusal.number ++ "] " ++ refusal.words ++ ": " ++ Text.spelled path

end Files

/-- Files and directories, each under the names that lead to it from the root, with the directory
from which paths are seen. -/
structure Files where
  home : FilePath
  entries : Table (List String) Files.Entry

namespace Files

/-- The names that lead from the root to a path. A path from another root leads nowhere. -/
def namesOf (files : Files) (path : FilePath) : Option (List String) :=
  let path := files.home.within path
  if path.root == files.home.root then some path.names else none

/-- What stands under some names. -/
def entryAt (files : Files) (names : List String) : Option Entry :=
  if names.isEmpty then some .directory else files.entries.get? names

/-- Follows names from a directory on, up to the directory that holds the last one. -/
def follow (files : Files) (here : List String) : List String → Except Refusal (List String)
  | [] => .ok here
  | [name] => .ok (if name == ".." then here.dropLast else here ++ [name])
  | name :: rest =>
    if name == ".." then follow files here.dropLast rest
    else
      match files.entryAt (here ++ [name]) with
      | none => .error .missing
      | some (.file _) => .error .notDirectory
      | some .directory => follow files (here ++ [name]) rest

/-- The names that a path comes down to. -/
def resolve (files : Files) (path : FilePath) : Except Refusal (List String) :=
  match files.namesOf path with
  | none => .error .missing
  | some names => files.follow [] names

/-- What stands at a path. -/
def lookUp (files : Files) (path : FilePath) : Except Refusal Entry := do
  match files.entryAt (← files.resolve path) with
  | some entry => return entry
  | none => throw .missing

/-- Whether anything stands at a path. -/
def contains (files : Files) (path : FilePath) : Bool := (files.lookUp path).isOk

/-- The bytes of a file. -/
def read (files : Files) (path : FilePath) : Except Refusal (List UInt8) := do
  match ← files.lookUp path with
  | .file bytes => return bytes
  | .directory => throw .isDirectory

/-- Bytes in which every line ends in a line feed alone, where it ended in a carriage return or in
both before. -/
def unifyBreaks : List UInt8 → List UInt8
  | [] => []
  | b :: rest =>
    if b == 0x0D then
      0x0A :: (match rest with
        | 0x0A :: more => unifyBreaks more
        | more => unifyBreaks more)
    else b :: unifyBreaks rest

/-- The bytes of a file of text, in which every line ends in a line feed. -/
def readLines (files : Files) (path : FilePath) : Except Refusal (List UInt8) :=
  (files.read path).map unifyBreaks

/-- Writes the bytes of a file whose directory is there. -/
def write (files : Files) (path : FilePath) (bytes : List UInt8) : Except Refusal Files := do
  let names ← files.resolve path
  match files.entryAt names with
  | some .directory => throw .isDirectory
  | _ => return { files with entries := files.entries.put names (.file bytes) }

/-- Makes the directories on a way that are not there yet. -/
def makeOn (files : Files) (here : List String) : List String → Except Refusal Files
  | [] => .ok files
  | name :: rest =>
    if name == ".." then makeOn files here.dropLast rest
    else
      let next := here ++ [name]
      match files.entryAt next with
      | some .directory => makeOn files next rest
      | some (.file _) => .error (if rest.isEmpty then .occupied else .notDirectory)
      | none => makeOn { files with entries := files.entries.put next .directory } next rest

/-- Makes a directory, with those it stands in. -/
def makeDirectory (files : Files) (path : FilePath) : Except Refusal Files :=
  match files.namesOf path with
  | none => .ok files
  | some names => makeOn files [] names

/-- Takes a file or a directory away, with all that stands below it. -/
def remove (files : Files) (path : FilePath) : Except Refusal Files := do
  let names ← files.resolve path
  match files.entryAt names with
  | none => throw .missing
  | some _ => return { files with entries := files.entries.filter fun e => !names.isPrefixOf e.1 }

/-- Writes a file, with the directories it stands in. -/
def store (files : Files) (path : FilePath) (bytes : List UInt8) : Except Refusal Files := do
  (← files.makeDirectory path.parent).write path bytes

/-- The paths of all files, seen from the root and in the order of their texts. -/
def listing (files : Files) : List String :=
  (files.entries.filterMap fun e =>
    match e.2 with
    | .file _ => some ("/".intercalate e.1)
    | .directory => none).mergeSort fun a b => a ≤ b

/-- What stands in some files otherwise than it stood in others, in the order in which it was put
there. -/
def changesFrom (after before : Files) : Table (List String) Entry :=
  after.entries.filter fun e => before.entries.get? e.1 != some e.2

end Files

end Wireframe
