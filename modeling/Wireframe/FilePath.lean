/-! # Paths of files

A path as it is shown and compared: names set apart by slashes, without empty names and
without names that stand for the directory they are in. Two leading slashes differ from
one; more than two count as one.
-/

namespace Wireframe

/-- A path: the slashes it begins with, and its names. -/
structure FilePath where
  root : String
  names : List String
deriving DecidableEq, Repr

namespace FilePath

/-- The leading slashes of a path. -/
def rootOf (s : String) : String :=
  match (s.toList.takeWhile (· == '/')).length with
  | 0 => ""
  | 2 => "//"
  | _ => "/"

/-- The names in a path. -/
def namesOf (s : String) : List String :=
  (s.splitOn "/").filter fun name => name != "" && name != "."

/-- The path that a text denotes. -/
def ofText (s : String) : FilePath := ⟨rootOf s, namesOf s⟩

/-- The text of a path; the empty path is a dot. -/
def text (path : FilePath) : String :=
  if path.root == "" && path.names.isEmpty then "."
  else path.root ++ "/".intercalate path.names

/-- Whether a path begins at the root of all files. -/
def isAbsolute (path : FilePath) : Bool := path.root != ""

/-- A path seen from a directory; an absolute path stays as it is. -/
def within (directory path : FilePath) : FilePath :=
  if path.isAbsolute then path else ⟨directory.root, directory.names ++ path.names⟩

/-- The path without names that lead back to what holds a directory. -/
def settled (path : FilePath) : FilePath :=
  { path with names := path.names.foldl (fun way name =>
      if name == ".." then way.dropLast else way ++ [name]) [] }

/-- The path of what holds a path. -/
def parent (path : FilePath) : FilePath := { path with names := path.names.dropLast }

/-- The last name of a path. -/
def name (path : FilePath) : String := path.names.getLastD ""

/-- The last name without what follows its last point. A point at the beginning or at the end of a
name sets nothing apart. -/
def stem (path : FilePath) : String :=
  let chars := path.name.toList.reverse
  let ending := chars.takeWhile (· != '.')
  let stem := (chars.drop (ending.length + 1)).reverse
  if ending.isEmpty || stem.isEmpty || ending.length == chars.length then path.name
  else String.ofList stem

end FilePath

end Wireframe
