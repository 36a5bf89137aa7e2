import Wireframe.Files
import Wireframe.Preview.Hub
import Wireframe.Preview.Script
import Wireframe.Preview.Session

/-! # Preview servers

A server shows a preview to browsers: a page with the present state, the script of that
page, a stream of messages for each surface, and a place to which surfaces post theirs.
-/

namespace Wireframe.Preview

/-- A request: its method, its path, its headers and its body. -/
structure Request where
  method : String
  path : String
  headers : List (String × String)
  body : List UInt8
deriving DecidableEq, Repr

/-- What a server answers. -/
inductive Response where
  /-- A text of a content type, with a status. -/
  | text (status : Nat) (contentType : String) (content : String)
  /-- A status alone, worded by the protocol. -/
  | refusal (status : Nat)
  /-- A stream of events, without an end of its own. -/
  | stream
deriving DecidableEq, Repr

namespace Response

/-- The status of a response. -/
def status : Response → Nat
  | text status _ _ => status
  | refusal status => status
  | stream => 200

/-- The header lines of a response. -/
def headers : Response → List String
  | text _ contentType content =>
    ["Content-Type: " ++ contentType ++ "; charset=utf-8",
      "Content-Length: " ++ Nat.repr (Text.Utf8.encode content).length,
      "Cache-Control: no-cache"]
  | refusal _ => []
  | stream =>
    ["Content-Type: text/event-stream", "Cache-Control: no-cache", "Connection: keep-alive"]

/-- The body of a response that has one of its own. -/
def body : Response → Option String
  | text _ _ content => some content
  | _ => none

end Response

namespace Server

/-- The most bytes of a message that are taken. -/
def messageLimit : Int := 65536

/-- The lines of the page that shows a preview. -/
def pageLines (title markup css : String) : List String :=
  ["<!DOCTYPE html>",
    "<html lang=\"en\">",
    "<head>",
    "<meta charset=\"utf-8\">",
    "<meta name=\"viewport\" content=\"width=device-width, initial-scale=1\">",
    "<title>" ++ Markup.escape title ++ " · TextUI Preview</title>",
    "<style>",
    Export.inlineSheet Render.structuralSheet,
    ".textui-toolbar \x7b position: sticky; top: 0; display: flex; justify-content: flex-end; " ++
      "gap: 0.5rem; padding: 0.5rem; background: rgba(0, 0, 0, 0.04); \x7d",
    ".textui-error-banner \x7b padding: 0.75rem 1rem; margin-bottom: 1rem; " ++
      "border: 1px solid #EF4444; border-radius: 0.375rem; " ++
      "background: rgba(239, 68, 68, 0.1); color: #B91C1C; white-space: pre-wrap; " ++
      "font-family: monospace; \x7d",
    ".textui-error-banner[hidden] \x7b display: none; \x7d",
    "</style>",
    "<style id=\"textui-theme\">",
    Export.inlineSheet css,
    "</style>",
    "</head>",
    "<body class=\"textui-preview\">",
    "<div class=\"textui-toolbar\">",
    "<button type=\"button\" id=\"textui-export\">Export HTML</button>",
    "</div>",
    "<div id=\"textui-banner\" class=\"textui-error-banner\" role=\"alert\" hidden></div>",
    "<div id=\"textui-root\">",
    markup,
    "</div>",
    "<script src=\"/static/surface.js\"></script>",
    "</body>",
    "</html>"]

/-- The page that shows the present state of a session. -/
def page (s : Session) : String :=
  "\n".intercalate <|
    match s.slot.good with
    | none => pageLines Export.defaultTitle "" s.pipeline.styleSheet
    | some good =>
      pageLines (titleOf good.document Export.defaultTitle) good.fragment.markup good.styleSheet

/-- An object with one member, as a JSON text. -/
def jsonText (name : String) (value : Json) : String :=
  (Json.object [(name, value)]).write .spacedAscii

/-- The refusal of a message. -/
def refused (error : String) : Response :=
  .text 400 "application/json" (jsonText "error" (.text error))

/-- The answer to a message that was taken. -/
def taken : Response := .text 200 "application/json" (jsonText "ok" (.bool true))

/-- The value of a header, whose name may be written in either case. Spaces and tabs in front of it
are no part of it. -/
def header? (request : Request) (name : String) : Option String :=
  (request.headers.find? fun h => Text.lower h.1 == Text.lower name).map fun h =>
    String.ofList (h.2.toList.dropWhile fun c => c == ' ' || c == '\t')

/-- The length of the body that a request announces. Without an announcement it is zero; an
announcement that is no number gives none. -/
def announcedLength? (request : Request) : Option Int :=
  match (header? request "Content-Length").filter (· != "") with
  | none => some 0
  | some text =>
    if Number.mostDigits < Number.countDigits text.toList then none
    else Number.readInt? 10 text.toList

/-- The route of a path: what stands before the query, where several leading slashes count as one.
-/
def route (path : String) : String :=
  let slashes := path.toList.takeWhile (· == '/')
  let path := if 2 ≤ slashes.length then '/' :: path.toList.drop slashes.length else path.toList
  String.ofList (path.takeWhile (· != '?'))

/-- What a request comes to: the response, the messages that go to all surfaces, and the files after
it. -/
structure Answer where
  response : Response
  sent : List HostMessage
  files : Files

/-- Why a request gets no response. -/
inductive Fault where
  | markup (fault : Markup.Fault)
  /-- An export cannot be written. -/
  | files (refusal : Files.Refusal)
  /-- An answer to the surfaces has no encoding; those before it have been sent. -/
  | unsent (sent : List HostMessage)
deriving DecidableEq, Repr

/-- Writes what a session yields, if it yields something. -/
def deliver (files : Files) : Option Artefact → Except Files.Refusal Files
  | none => .ok files
  | some artefact => files.store artefact.target (Text.Utf8.encode artefact.text)

/-- Answers a message that a surface posts. -/
def post (s : Session) (files : Files) (request : Request) : Except Fault Answer :=
  match announcedLength? request with
  | none => .ok ⟨refused "invalid Content-Length", [], files⟩
  | some length =>
    if length < 0 then .ok ⟨refused "invalid Content-Length", [], files⟩
    else if messageLimit < length then .ok ⟨.refusal 413, [], files⟩
    else
      match decodeSurfaceMessage (request.body.take length.toNat) with
      | .error fault => .ok ⟨refused fault.message, [], files⟩
      | .ok message =>
        match s.handle message with
        | .error fault => .error (.markup fault)
        | .ok reaction =>
          if !s.canAnswer message then .error (.unsent reaction.sent.dropLast)
          else
            match deliver files reaction.result with
            | .ok files => .ok ⟨taken, reaction.sent, files⟩
            | .error refusal => .error (.files refusal)

/-- Answers a request. No request changes a session. -/
def respond (s : Session) (files : Files) (request : Request) : Except Fault Answer :=
  let route := route request.path
  if request.method == "GET" then
    if route == "/" then .ok ⟨.text 200 "text/html" (page s), [], files⟩
    else if route == "/static/surface.js" then
      .ok ⟨.text 200 "application/javascript" script, [], files⟩
    else if route == "/events" then .ok ⟨.stream, [], files⟩
    else .ok ⟨.refusal 404, [], files⟩
  else if request.method == "POST" then
    if route == "/message" then post s files request else .ok ⟨.refusal 404, [], files⟩
  else .ok ⟨.refusal 501, [], files⟩

/-- A message in a stream of events. -/
def event (payload : String) : String := "data: " ++ payload ++ "\n\n"

/-- What keeps a stream alive in which nothing happens. -/
def keepAlive : String := ": keepalive\n\n"

/-- The address of a server. -/
def url (host : String) (port : Int) : String := "http://" ++ host ++ ":" ++ Number.intText port

/-- The host and the port unless others are asked for. -/
def defaultBinding : String × Int := ("127.0.0.1", 5173)

end Server

end Wireframe.Preview
