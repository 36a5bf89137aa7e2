import Wireframe.Markup.Basic
import Wireframe.Preview.Message

/-! # Surfaces

What shows a preview. A surface applies the messages of its host one at a time, in the
order in which they arrive. An update carries all that there is to show; an error leaves
the last fragment in place and puts a banner above it, with its text escaped.
-/

namespace Wireframe.Preview

/-- The states of a surface. -/
inductive SurfaceState where
  | uninitialized | ready | updating | error
deriving DecidableEq, Repr

/-- The name of a state. -/
def SurfaceState.name : SurfaceState → String
  | uninitialized => "uninitialized"
  | ready => "ready"
  | updating => "updating"
  | error => "error"

/-- An error as a surface shows it: what kind of error it is, and its text. -/
structure Banner where
  label : String
  text : String
deriving DecidableEq, Repr

/-- A surface: its state, what it shows, and the moves from state to state it has made. -/
structure Surface where
  state : SurfaceState
  fragment : String
  cssVariables : String
  banner : Option Banner
  moves : List (SurfaceState × SurfaceState)
  /-- How often the host has asked for the developer tools. -/
  devTools : Nat
deriving DecidableEq, Repr

namespace Surface

/-- A surface before anything has happened. -/
def fresh : Surface := ⟨.uninitialized, "", "", none, [], 0⟩

/-- Goes over to a state; staying in one is no move. -/
def move (s : Surface) (target : SurfaceState) : Surface :=
  if target = s.state then s
  else { s with state := target, moves := s.moves ++ [(s.state, target)] }

/-- Makes a surface ready that is not even initialized. -/
def start (s : Surface) : Surface :=
  if s.state = .uninitialized then s.move .ready else s

/-- The surface after loading, when it tells its host that it is ready. -/
def load (s : Surface) : Surface × SurfaceMessage := (s.start, .ready)

/-- The surface after its export control has been used, when it asks its host for an export. -/
def requestExport (s : Surface) : Surface × SurfaceMessage := (s, .exportRequest)

/-- Shows an error. -/
def showError (s : Surface) (label text : String) : Surface :=
  { s.start with banner := some ⟨label, text⟩ }.move .error

/-- The label of a broken rule, with the place where it is broken if that is known. -/
def schemaLabel (path : Option String) : String :=
  match path.filter (· != "") with
  | some p => "Schema error at " ++ p
  | none => "Schema error"

/-- Applies a message. -/
def apply (s : Surface) : HostMessage → Surface
  | .update fragment css =>
    { s.start.move .updating with
      fragment := fragment, cssVariables := css, banner := none }.move .ready
  | .error message => s.showError "Error" message
  | .schemaError message path => s.showError (schemaLabel path) message
  | .themeVariables css => { s with cssVariables := css }
  | .openDevTools => { s with devTools := s.devTools + 1 }

/-- Applies several messages one after the other. -/
def applyAll (s : Surface) (messages : List HostMessage) : Surface := messages.foldl apply s

/-- Decodes a message and applies it. What is no message changes nothing. -/
def receive (s : Surface) (bytes : List UInt8) : Except MessageFault Surface :=
  (decodeHostMessage bytes).map s.apply

/-- The element of a banner. -/
def bannerElement (b : Banner) : Markup :=
  .element "div" [("class", some "textui-error-banner"), ("role", some "alert")]
    [.element "strong" [] [.text b.label], .text " ", .text b.text]

/-- The markup that a surface shows: the banner, if there is one, above the fragment. -/
def view (s : Surface) : String :=
  match s.banner with
  | none => s.fragment
  | some b => (bannerElement b).write ++ s.fragment

/-- The text of the banner as it stands in the markup. -/
def bannerText (s : Surface) : Option String := s.banner.map fun b => Markup.escape b.text

end Surface

end Wireframe.Preview
