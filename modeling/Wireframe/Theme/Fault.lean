import Wireframe.Yaml.Error

/-! # What is wrong with a theme

A source that is refused as a theme leaves the built-in theme in force, and the refusal
is kept as a diagnostic. A scalar that is no value of its type or that cannot be written, and
a name that is no text where names have to be texts, break loading off altogether.
-/

namespace Wireframe.Theme

/-- Why a source is refused as a theme. -/
inductive Reason where
  | fileNotFound
  | unreadable (message : String)
  | notUtf8
  | unprintable (found : Char) (position : Nat)
  | yaml (problem : Yaml.Problem) (mark : Yaml.Mark)
  | empty
  | noTheme
  | tokensNotMapping
  | reservedCategory (name : String)
  | componentsNotMapping
  | kindNotMapping (kind : String)
  | variantNotMapping (path : String)
  | notScalar (path : String)
deriving DecidableEq, Repr

/-- The reason in words. -/
def Reason.message : Reason → String
  | .fileNotFound => "file not found"
  | .unreadable message => "cannot read file: " ++ message
  | .notUtf8 => "not valid UTF-8"
  | .unprintable found position => "invalid YAML: " ++ Yaml.unprintableText found position
  | .yaml problem mark =>
    "invalid YAML at line " ++ Nat.repr (mark.line + 1) ++ ": " ++ problem.message
  | .empty => "theme file is empty"
  | .noTheme => "missing 'theme' mapping at the top level"
  | .tokensNotMapping => "'theme.tokens' must be a mapping"
  | .reservedCategory name => "token category '" ++ name ++ "' is reserved"
  | .componentsNotMapping => "'theme.components' must be a mapping"
  | .kindNotMapping kind => "'theme.components." ++ kind ++ "' must map variants to styles"
  | .variantNotMapping path => "'" ++ path ++ "' must map CSS properties to values"
  | .notScalar path => "'" ++ path ++ "' must be a scalar value"

/-- A source, by its label, that is refused as a theme. -/
structure Refusal where
  source : String
  reason : Reason
deriving DecidableEq, Repr

/-- The refusal in words. -/
def Refusal.message (refusal : Refusal) : String :=
  "theme '" ++ refusal.source ++ "' not applied: " ++ refusal.reason.message

/-- What breaks the loading of a theme off. -/
inductive Breakdown where
  | scalar (fault : Yaml.ScalarFault)
  | nameNotText
deriving DecidableEq, Repr

/-- Why a theme is not loaded. -/
inductive Failure where
  | refused (refusal : Refusal)
  | broken (cause : Breakdown)
deriving DecidableEq, Repr

end Wireframe.Theme
