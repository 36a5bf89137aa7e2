/-! # Named sets

Finite sets whose members go by names. Each set lists its members in the order in which
messages show them.
-/

namespace Wireframe

/-- A finite set whose members sources write by name. -/
class Named (α : Type) where
  all : List α
  name : α → String

/-- The member of a set that goes by a name. -/
def Named.ofName? {α : Type} [Named α] (s : String) : Option α :=
  (Named.all (α := α)).find? fun a => Named.name a == s

/-- Some words between quotes, the last two joined by `or`. -/
def alternatives : List String → String
  | [] => ""
  | [a] => "'" ++ a ++ "'"
  | [a, b] => "'" ++ a ++ "' or '" ++ b ++ "'"
  | a :: rest => "'" ++ a ++ "', " ++ alternatives rest

end Wireframe
