import Wireframe.Theme.Builtin
import Wireframe.Theme.Load
import Wireframe.Digest.Sha256
import Wireframe.Json.Basic

/-! # Resolved themes

The variables of a theme come in layers: the default tokens, a user's tokens over them,
and component styles after both, under keys of their own. A layer above wins leaf by
leaf, and a key keeps the place it first had.

A user's theme that is refused never blocks resolution: the defaults hold, and the
refusal is kept as a diagnostic. Resolution breaks off at a leaf that cannot be written.
-/

namespace Wireframe.Theme

/-- The variables of a theme after all layers, an index of those that style components, and the
refusals on the way. -/
structure Resolved where
  «variables» : Variables
  /-- Properties by kind and variant, each with the key of its variable. -/
  components : Table (String × String) Variables
  diagnostics : List Refusal
  /-- Whether a key or a text among the variables holds half of a surrogate pair, so that it has no
  encoding. Keys and texts are then as they can be shown. -/
  hasHalves : Bool
deriving DecidableEq, Repr

/-- The key above all component styles. -/
def componentKey : String := "component"

/-- The leaves of all layers, each with the names that lead to its key. -/
def layeredPaths (defaults : Tree) (user styles : Option Tree) : List (List Value × Value) :=
  leafPaths [] defaults ++ (user.map (leafPaths [])).getD [] ++
    (styles.map (leafPaths [.text componentKey])).getD []

/-- The layers that hold without a user's theme. All that they hold can be written, and their keys
and texts have an encoding. -/
structure Base where
  tokens : Tree
  styles : Tree
  writable : (Value.anyOverlongEntry tokens || Value.anyOverlongEntry styles ||
    haveHalves (layeredPaths tokens none (some styles))) = false

/-- Layers that hold nothing. -/
def Base.bare : Base := ⟨[], [], rfl⟩

/-- The built-in layers. -/
def Base.builtin : Base := ⟨Builtin.tokens, Builtin.styles, by decide +kernel⟩

/-- The parts of a key between its points. -/
def keyParts : List Char → List (List Char)
  | [] => [[]]
  | '.' :: rest => [] :: keyParts rest
  | c :: rest =>
    match keyParts rest with
    | [] => [[c]]
    | part :: parts => (c :: part) :: parts

/-- The index with a key in it. Only keys of four parts style a component; the parts after the first
are its kind, its variant and the property. -/
def index (components : Table (String × String) Variables) (key : String) :
    Table (String × String) Variables :=
  match (keyParts key.toList).map String.ofList with
  | [_, kind, variant, property] =>
    components.alter (kind, variant) [] fun found => found.put property key
  | _ => components

/-- Whether the leaves of a user's theme over the base can be written. -/
def Base.writes (base : Base) (user : UserTheme) : Bool :=
  (layeredPaths [] (user.tokens.map (·.tokens))
    (some (overlay base.styles (user.components.getD [])))).all (!·.2.isOverlong)

/-- The theme of some tokens, a user's tokens and component styles. -/
def resolve (defaults : Tree) (user styles : Option Tree) (diagnostics : List Refusal) :
    Resolved :=
  let tokens := (flatten "" defaults).putAll ((user.map (flatten "")).getD [])
  let component := (styles.map (flatten componentKey)).getD []
  ⟨tokens.putAll component, component.keys.foldl index [], diagnostics,
    haveHalves (layeredPaths defaults user styles)⟩

namespace Resolved

/-- The value of a variable. -/
def get? (theme : Resolved) (key : String) : Option String := theme.«variables».get? key

/-- The variables as JSON pairs. -/
def toJson (theme : Resolved) : Json :=
  .list (theme.«variables».map fun e => .list [.text e.1, .text e.2])

/-- What stands for the content of a theme. -/
def fingerprint (theme : Resolved) : String :=
  Digest.Sha256.hexDigest (theme.toJson.write .spaced)

/-- The theme that holds without a user's theme. -/
def defaults (base : Base) (diagnostics : List Refusal) : Resolved :=
  resolve base.tokens none (some base.styles) diagnostics

/-- The theme with a user's theme over the base, or the base alone when loading was refused. -/
def ofUser (base : Base) : Except Failure UserTheme → Except Breakdown Resolved
  | .ok user =>
    if base.writes user then
      .ok (resolve base.tokens (user.tokens.map (·.tokens))
        (some (overlay base.styles (user.components.getD []))) [])
    else .error (.scalar .overlong)
  | .error (.refused refusal) => .ok (defaults base [refusal])
  | .error (.broken cause) => .error cause

/-- The theme with that of a text over the base; without a text the base alone. -/
def ofText (base : Base) (content : Option String) (source : String) :
    Except Breakdown Resolved :=
  match content with
  | none => .ok (defaults base [])
  | some text => ofUser base (UserTheme.ofText text source)

/-- The theme with that of a file over the base; without a file the base alone. -/
def ofFile (base : Base) (file : Option (Content × String)) : Except Breakdown Resolved :=
  match file with
  | none => .ok (defaults base [])
  | some (content, source) => ofUser base (UserTheme.ofFile content source)

end Resolved

end Wireframe.Theme
