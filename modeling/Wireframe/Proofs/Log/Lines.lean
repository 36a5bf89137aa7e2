import Wireframe.Log.Record
import Wireframe.Proofs.Json.Reading

/-! # Records are read back from their lines

A record is written as one line of JSON in characters that print, whatever its texts are. A
reader of JSON gives back from the line what the record tells: its time, its level, its
logger and its message, where it was made if it is about a problem, and its failure if it has
one. So a file of such lines, cut at line feeds alone or at every line boundary, gives the
records back in their order.
-/

namespace Wireframe.Log

/-! ## What a line tells -/

/-- What a line tells of a record. -/
structure Entry where
  timestamp : String
  level : String
  logger : String
  message : String
  source : Option Origin
  failure : Option Failure
deriving DecidableEq, Repr

/-- What there is to tell of a record. Where it was made is told from warnings on. -/
def Record.entry (r : Record) : Entry where
  timestamp := r.timestamp
  level := levelName r.level
  logger := r.logger
  message := r.message
  source := if warning ≤ r.level then some r.origin else none
  failure := r.failure

/-! ## Reading a line -/

namespace Entry

/-- The text under a name. -/
def text? (name : String) (members : List (String × Json)) : Option String :=
  match Json.member? name members with
  | some (.text s) => some s
  | _ => none

/-- Where a record was made, as an object. -/
def origin? : Json → Option Origin
  | .object members =>
    match text? "file" members, Json.member? "line" members, Json.member? "function" members with
    | some file, some (.int line), some (.text function) => some ⟨file, line, some function⟩
    | some file, some (.int line), some .null => some ⟨file, line, none⟩
    | _, _, _ => none
  | _ => none

/-- A failure, as an object. -/
def failure? : Json → Option Failure
  | .object members =>
    match text? "type" members, text? "message" members with
    | some kind, some text => some ⟨kind, text⟩
    | _, _ => none
  | _ => none

/-- A part that may be absent, and is read if it is there. -/
def part? {α : Type} (read : Json → Option α) : Option Json → Option (Option α)
  | none => some none
  | some v => (read v).map some

/-- What an object tells of a record. -/
def ofJson? : Json → Option Entry
  | .object members => do
    let timestamp ← text? "timestamp" members
    let level ← text? "level" members
    let logger ← text? "logger" members
    let message ← text? "message" members
    let source ← part? origin? (Json.member? "source" members)
    let failure ← part? failure? (Json.member? "exception" members)
    return ⟨timestamp, level, logger, message, source, failure⟩
  | _ => none

/-- What a line of a file tells of a record. -/
def ofLine? (line : List Char) : Option Entry :=
  match Json.read (Text.Utf8.encode (String.ofList line)) with
  | .ok v => ofJson? v
  | .error _ => none

/-- What a file tells of records, line by line; lines are cut at every line boundary. -/
def ofFile? (file : List Char) : Option (List Entry) := (Text.lines file).mapM ofLine?

theorem origin?_object (o : Origin) :
    origin? (.object [("file", .text o.file), ("line", .int o.line),
      ("function", .ofText? o.function)]) = some o := by
  obtain ⟨file, line, function⟩ := o
  cases function with
  | none => rfl
  | some name => rfl

theorem failure?_object (f : Failure) :
    failure? (.object [("type", .text f.kind), ("message", .text f.text)]) = some f := rfl

/-- A record as JSON tells what there is to tell of it. -/
theorem ofJson?_toJson (r : Record) : ofJson? r.toJson = some r.entry := by
  have source := origin?_object r.origin
  rw [Record.toJson, Record.originMembers, Record.failureMembers, Record.entry]
  split_ifs with problem
  · cases failed : r.failure with
    | none => simp [ofJson?, text?, Json.member?, part?, source]
    | some f => simp [ofJson?, text?, Json.member?, part?, source, failure?_object]
  · cases failed : r.failure with
    | none => simp [ofJson?, text?, Json.member?, part?]
    | some f => simp [ofJson?, text?, Json.member?, part?, failure?_object]

end Entry

namespace Record

theorem readable_toJson (r : Record) : r.toJson.Readable Json.depthLimit := by
  rw [toJson, originMembers, failureMembers]
  split_ifs with problem
  · cases r.failure <;> cases r.origin.function <;>
      simp [Json.Readable, Json.depthLimit, Json.ofText?]
  · cases r.failure <;> simp [Json.Readable, Json.depthLimit]

/-- A line is made of characters of ASCII that print. -/
theorem all_line (r : Record) : r.line.toList.all Text.isAsciiPrintable = true :=
  Json.all_write Json.Style.within_spacedAscii r.readable_toJson

/-- No line boundary stands in a line. -/
theorem unbroken_line (r : Record) : r.line.toList.any Text.isLineBoundary = false := by
  rw [List.any_eq_false]
  intro c member
  rw [Text.not_isLineBoundary (List.all_eq_true.mp r.all_line c member)]
  exact Bool.false_ne_true

/-- A line is read as the record in JSON. -/
theorem read_line (r : Record) : Json.read (Text.Utf8.encode r.line) = .ok r.toJson :=
  Json.read_write Json.Style.legible_spacedAscii r.readable_toJson

/-- A line tells what there is to tell of a record. -/
theorem ofLine?_line (r : Record) : Entry.ofLine? r.line.toList = some r.entry := by
  rw [Entry.ofLine?, String.ofList_toList, read_line]
  exact Entry.ofJson?_toJson r

theorem all_lines (rs : List Record) :
    ∀ l ∈ rs.map line, l.toList.all Text.isAsciiPrintable = true := by
  intro l member
  obtain ⟨r, -, rfl⟩ := List.mem_map.mp member
  exact r.all_line

/-- The lines of a file of records, cut at every line boundary. -/
theorem lines_file (rs : List Record) :
    Text.lines (Text.file (rs.map line)) = rs.map fun r => r.line.toList := by
  rw [Text.lines_file (all_lines rs), List.map_map]
  rfl

/-- **Records are read back from their lines.** The line of a record is made of characters of ASCII
that print, holds no line boundary and is read as the record in JSON, which tells all there is to
tell of the record. A file of such lines, cut at every line boundary or at line feeds alone, is the
lines of the records in their order, and tells of each record what there is to tell. -/
theorem lines_tell_records :
    (∀ r : Record,
      r.line.toList.all Text.isAsciiPrintable = true ∧
        r.line.toList.any Text.isLineBoundary = false ∧
        Json.read (Text.Utf8.encode r.line) = .ok r.toJson ∧
        Entry.ofLine? r.line.toList = some r.entry) ∧
      ∀ rs : List Record,
        Text.lines (Text.file (rs.map line)) = (rs.map fun r => r.line.toList) ∧
          (Text.file (rs.map line)).splitOn '\n' = (rs.map fun r => r.line.toList) ++ [[]] ∧
          Entry.ofFile? (Text.file (rs.map line)) = some (rs.map entry) := by
  refine ⟨fun r => ⟨r.all_line, r.unbroken_line, r.read_line, r.ofLine?_line⟩, fun rs => ?_⟩
  refine ⟨lines_file rs, ?_, ?_⟩
  · rw [Text.splitOn_file (all_lines rs), List.map_map]
    rfl
  · rw [Entry.ofFile?, lines_file, List.mapM_map]
    induction rs with
    | nil => rfl
    | cons r rs ih =>
        rw [List.mapM_cons, ih, Function.comp_apply, ofLine?_line]
        rfl

/-- A warning about a failure, with texts that hold quotes, line boundaries and characters outside
ASCII, takes one line. -/
example : (Record.mk 0 30 "app" "a\n\u2028\"é" ⟨"x.py", 7, none⟩ (some ⟨"E", "𝄞"⟩)).line =
    "\x7b\"timestamp\": \"1970-01-01T00:00:00Z\", \"level\": \"WARNING\", " ++
      "\"logger\": \"app\", \"message\": \"a\\n\\u2028\\\"\\u00e9\", " ++
      "\"source\": \x7b\"file\": \"x.py\", \"line\": 7, \"function\": null\x7d, " ++
      "\"exception\": \x7b\"type\": \"E\", \"message\": \"\\ud834\\udd1e\"\x7d\x7d" := by
  decide +kernel

end Record

end Wireframe.Log
