import Wireframe.Calendar
import Wireframe.Json.Basic

/-! # Log records

What a program reports while it runs. A record is written in two forms: as one line of
JSON for a file, and as text for a reader. The line of JSON tells where in the program a
problem arose; the text leaves the name of the most common level out.
-/

namespace Wireframe.Log

/-- The weights of the levels that have names. -/
def levelNames : List (Int × String) :=
  [(0, "NOTSET"), (10, "DEBUG"), (20, "INFO"), (30, "WARNING"), (40, "ERROR"), (50, "CRITICAL")]

/-- The weight of reports about progress in detail. -/
def debug : Int := 10

/-- The weight of reports about what was done. -/
def info : Int := 20

/-- The weight from which on a report is about a problem. -/
def warning : Int := 30

/-- The name of a level. -/
def levelName (level : Int) : String :=
  (levelNames.lookup level).getD ("Level " ++ Number.intText level)

/-- Where in a program a record was made. -/
structure Origin where
  file : String
  line : Int
  function : Option String
deriving DecidableEq, Repr

/-- A failure that a record is about: its class and its text. -/
structure Failure where
  kind : String
  text : String
deriving DecidableEq, Repr

/-- A record. -/
structure Record where
  /-- Microseconds since the start of 1970. -/
  created : Int
  level : Int
  logger : String
  message : String
  origin : Origin
  failure : Option Failure
deriving DecidableEq, Repr

/-- The time of day at a moment in microseconds since the start of 1970. -/
def clockText (moment : Int) : String :=
  { (Calendar.DateTime.ofMicroseconds moment).time with microsecond := 0 }.text

namespace Record

/-- The moment of a record in universal time. -/
def moment (r : Record) : Calendar.DateTime := Calendar.DateTime.ofMicroseconds r.created

/-- The moment of a record as its line shows it. -/
def timestamp (r : Record) : String :=
  r.moment.date.text ++ "T" ++ r.moment.time.text ++ "Z"

/-- The members that tell where a problem arose. -/
def originMembers (r : Record) : List (String × Json) :=
  if warning ≤ r.level then
    [("source", .object [("file", .text r.origin.file), ("line", .int r.origin.line),
      ("function", .ofText? r.origin.function)])]
  else []

/-- The members that tell about a failure. -/
def failureMembers (r : Record) : List (String × Json) :=
  match r.failure with
  | some f => [("exception", .object [("type", .text f.kind), ("message", .text f.text)])]
  | none => []

/-- A record as JSON. -/
def toJson (r : Record) : Json :=
  .object
    ([("timestamp", .text r.timestamp), ("level", .text (levelName r.level)),
      ("logger", .text r.logger), ("message", .text r.message)] ++
      r.originMembers ++ r.failureMembers)

/-- A record as one line. -/
def line (r : Record) : String := r.toJson.write .spacedAscii

/-- The text of a failure: its class, and what it says if it says something. -/
def failureText (f : Failure) : String := if f.text == "" then f.kind else f.kind ++ ": " ++ f.text

/-- The time of day of a record in universal time. -/
def clock (r : Record) : String := clockText r.created

/-- A record as text, with the time of day that a clock shows. -/
def textAt (clock : String) (r : Record) : String :=
  "[" ++ clock ++ "] [textui] " ++
    (if r.level == info then "" else levelName r.level ++ ": ") ++ r.message ++
    (match r.failure with
      | some f => "\n" ++ failureText f
      | none => "")

end Record

end Wireframe.Log
