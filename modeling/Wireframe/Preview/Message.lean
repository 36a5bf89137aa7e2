import Wireframe.Json.Read
import Wireframe.Value

/-! # Messages

What a host and a preview surface tell each other. The host sends the state to show; the
surface asks for that state, or for an export. On the wire each message is a JSON object
whose member `type` names its kind.
-/

namespace Wireframe.Preview

/-- What a host tells a surface. -/
inductive HostMessage where
  /-- All that is shown: the markup and the style sheet of the theme. -/
  | update (fragment cssVariables : String)
  /-- An input that could not be read. -/
  | error (message : String)
  /-- An input that was read and breaks the rules for documents. -/
  | schemaError (message : String) (path : Option String)
  /-- The style sheet of the theme alone. -/
  | themeVariables (cssVariables : String)
  | openDevTools
deriving DecidableEq, Repr

/-- What a surface tells its host. -/
inductive SurfaceMessage where
  /-- The surface asks for an export of the document. -/
  | exportRequest
  /-- The surface is there and wants to know the present state. -/
  | ready
deriving DecidableEq, Repr

/-- The two directions in which messages go, named for the sender. -/
inductive Sender where
  | host
  | surface
deriving DecidableEq, Repr

/-- The sender's name. -/
def Sender.name : Sender → String
  | .host => "host"
  | .surface => "surface"

namespace HostMessage

/-- The kind of a message, as the wire names it. -/
def wireType : HostMessage → String
  | update .. => "update"
  | error .. => "error"
  | schemaError .. => "schema-error"
  | themeVariables .. => "theme-variables"
  | openDevTools => "openDevTools"

/-- The members of a message, its kind first. -/
def members (m : HostMessage) : List (String × Json) :=
  ("type", .text m.wireType) ::
    match m with
    | update fragment css => [("fragment", .text fragment), ("cssVariables", .text css)]
    | error message => [("message", .text message)]
    | schemaError message path => [("message", .text message), ("path", .ofText? path)]
    | themeVariables css => [("cssVariables", .text css)]
    | openDevTools => []

/-- The wire form of a message. -/
def encode (m : HostMessage) : String := (Json.object m.members).write .compact

end HostMessage

namespace SurfaceMessage

/-- The kind of a message, as the wire names it. -/
def wireType : SurfaceMessage → String
  | exportRequest => "export"
  | ready => "ready"

/-- The wire form of a message. -/
def encode (m : SurfaceMessage) : String :=
  (Json.object [("type", .text m.wireType)]).write .compact

end SurfaceMessage

/-- Why a text is no message. -/
inductive MessageFlaw where
  | json (fault : Json.Fault) (bytes : List UInt8)
  | notObject
  | noType
  /-- A kind that the sender has no message of, with the kinds it has. -/
  | unknownType (found : String) (known : List String)
  | missing (type member : String)
  | notString (type member : String)

/-- A text that is no message of a sender. -/
structure MessageFault where
  sender : Sender
  flaw : MessageFlaw

/-- What is wrong with a text, in words. -/
def MessageFlaw.message : MessageFlaw → String
  | .json fault bytes => "Invalid JSON: " ++ fault.message bytes
  | .notObject => "Input should be an object"
  | .noType => "Unable to extract tag using discriminator 'type'"
  | .unknownType found known =>
    "Input tag '" ++ found ++
      "' found using 'type' does not match any of the expected tags: " ++
      ", ".intercalate (known.map fun k => "'" ++ k ++ "'")
  | .missing type member => type ++ "." ++ member ++ ": Field required"
  | .notString type member => type ++ "." ++ member ++ ": Input should be a valid string"

/-- The fault in words. -/
def MessageFault.message (fault : MessageFault) : String :=
  "invalid " ++ fault.sender.name ++ " message: " ++ fault.flaw.message

namespace Message

mutual

/-- A JSON value as a value of a source. -/
def plain : Json → Value
  | .null => .null
  | .bool b => .bool b
  | .int n => .int n
  | .float x => .float x
  | .text s => .text s
  | .list items => .list (plainItems items)
  | .object members => .map (plainMembers members [])

/-- The items of a JSON list as values of a source. -/
def plainItems : List Json → List Value
  | [] => []
  | item :: rest => plain item :: plainItems rest

/-- The members of a JSON object as entries of a mapping that has some already. -/
def plainMembers : List (String × Json) → List (Value × Value) → List (Value × Value)
  | [], entries => entries
  | (name, value) :: rest, entries =>
    plainMembers rest (Value.put (.text name) (plain value) entries)

end

/-- The members of a message and the text under `type`, if it is a text of a known kind. -/
def opened (known : List String) (bytes : List UInt8) :
    Except MessageFlaw (String × List (String × Json)) :=
  match Json.read bytes with
  | .error fault => .error (.json fault bytes)
  | .ok (.object members) =>
    match Json.member? "type" members with
    | none => .error .noType
    | some (.text type) =>
      if type ∈ known then .ok (type, members) else .error (.unknownType type known)
    | some other => .error (.unknownType (plain other).toText known)
  | .ok _ => .error .notObject

/-- A member that has to be a string. A member may go by a second name, which counts where the first
is absent. -/
def stringMember (type : String) (members : List (String × Json)) (name : String)
    (otherName : Option String) : Except MessageFlaw String :=
  match Json.member? name members with
  | some (.text s) => .ok s
  | some _ => .error (.notString type name)
  | none =>
    match otherName with
    | none => .error (.missing type name)
    | some other =>
      match Json.member? other members with
      | some (.text s) => .ok s
      | some _ => .error (.notString type other)
      | none => .error (.missing type name)

/-- A member that is a string, null or absent. -/
def optionalMember (type : String) (members : List (String × Json)) (name : String) :
    Except MessageFlaw (Option String) :=
  match Json.member? name members with
  | none | some .null => .ok none
  | some (.text s) => .ok (some s)
  | some _ => .error (.notString type name)

/-- The kinds of message that a host sends. -/
def hostTypes : List String :=
  ["update", "error", "schema-error", "theme-variables", "openDevTools"]

/-- The kinds of message that a surface sends. -/
def surfaceTypes : List String := ["export", "ready"]

/-- The style sheet in a message. -/
def styleSheet (type : String) (members : List (String × Json)) : Except MessageFlaw String :=
  stringMember type members "cssVariables" (some "css_variables")

/-- A host message from its bytes, or what is wrong with them. -/
def host (bytes : List UInt8) : Except MessageFlaw HostMessage := do
  let (type, members) ← opened hostTypes bytes
  if type == "update" then
    let fragment ← stringMember type members "fragment" none
    return .update fragment (← styleSheet type members)
  else if type == "error" then
    return .error (← stringMember type members "message" none)
  else if type == "schema-error" then
    let message ← stringMember type members "message" none
    return .schemaError message (← optionalMember type members "path")
  else if type == "theme-variables" then
    return .themeVariables (← styleSheet type members)
  else return .openDevTools

/-- A surface message from its bytes, or what is wrong with them. -/
def surface (bytes : List UInt8) : Except MessageFlaw SurfaceMessage := do
  let (type, _) ← opened surfaceTypes bytes
  if type == "export" then return .exportRequest else return .ready

end Message

/-- Reads a message of a host. -/
def decodeHostMessage (bytes : List UInt8) : Except MessageFault HostMessage :=
  (Message.host bytes).mapError fun flaw => ⟨.host, flaw⟩

/-- Reads a message of a surface. -/
def decodeSurfaceMessage (bytes : List UInt8) : Except MessageFault SurfaceMessage :=
  (Message.surface bytes).mapError fun flaw => ⟨.surface, flaw⟩

end Wireframe.Preview
