import Wireframe.Preview.Server
import Wireframe.Proofs.Preview.Wire

/-! # Streams of events

What a browser hears in a stream of events. The stream is cut into lines; the lines say what
is in an event, and an empty line ends it. Here this is read off the bytes alone, without a
look at how they are written.

The messages that a server writes into a stream are heard one by one, each as it was, with
signs of life anywhere between them (`Wireframe.Preview.EventStream.received_written`).
-/

namespace Wireframe.Preview.EventStream

open Text

/-! ## What is heard -/

/-- The lines of a stream, each with what has been read of it already. A line ends at a carriage
return, at a line feed or at the two in this order. What no end follows is no line yet. -/
def linesFrom (line : List Char) : List Char → List (List Char)
  | [] => []
  | '\r' :: '\n' :: rest => line :: linesFrom [] rest
  | c :: rest => if endsLine c then line :: linesFrom [] rest else linesFrom (line ++ [c]) rest

/-- The field of a line and its value, which one space may set apart from the colon. A line that
begins with a colon is a comment; its field has no name. -/
def field (line : List Char) : List Char × List Char :=
  let value := (line.dropWhile (· != ':')).drop 1
  (line.takeWhile (· != ':'), if value.head? = some ' ' then value.tail else value)

/-- What a stream tells at one time. -/
structure Event where
  type : String
  data : String
deriving DecidableEq, Repr

/-- The events of some lines, where some fields of the first event have been read already. The lines
of its data are put together again, and an event without data is none. -/
def eventsFrom (type : List Char) (data : List String) : List (List Char) → List Event
  | [] => []
  | [] :: rest =>
    match data with
    | [] => eventsFrom [] [] rest
    | _ :: _ =>
      let type := if type = [] then "message" else String.ofList type
      ⟨type, "\n".intercalate data⟩ :: eventsFrom [] [] rest
  | line :: rest =>
    match field line with
    | (['d', 'a', 't', 'a'], value) => eventsFrom type (data ++ [String.ofList value]) rest
    | (['e', 'v', 'e', 'n', 't'], value) => eventsFrom value data rest
    | _ => eventsFrom type data rest

/-- A text without the mark that may stand at the beginning of a stream. -/
def dropMark : List Char → List Char
  | [] => []
  | c :: rest => if c = Char.ofNat 0xFEFF then rest else c :: rest

/-- The events of a text. -/
def events (text : List Char) : List Event := eventsFrom [] [] (linesFrom [] (dropMark text))

/-- The message of an event. -/
def message? (event : Event) : Option HostMessage :=
  if event.type = "message" then (decodeHostMessage (Utf8.encode event.data)).toOption else none

/-- The messages that are heard in a stream, unless there is anything in it that is no message. -/
def received (bytes : List UInt8) : Option (List HostMessage) := do
  let text ← (Utf8.decode bytes).toOption
  (events text).mapM message?

/-! ## What is written -/

/-- What a server writes at one time: a message, or a sign of life. -/
def piece : Option HostMessage → String
  | some m => Server.event m.encode
  | none => Server.keepAlive

/-- A stream with some pieces. -/
def written (pieces : List (Option HostMessage)) : List UInt8 :=
  pieces.flatMap fun p => Utf8.encode (piece p)

theorem written_concat (pieces : List (Option HostMessage)) (p : Option HostMessage) :
    written (pieces ++ [p]) = written pieces ++ Utf8.encode (piece p) := by
  simp [written]

/-- A line that an end follows is cut off there. -/
theorem linesFrom_run {s : List Char} (line : List Char) (one : oneLine s = true)
    (rest : List Char) : linesFrom line (s ++ '\n' :: rest) = (line ++ s) :: linesFrom [] rest := by
  induction s generalizing line with
  | nil =>
      rw [List.nil_append, List.append_nil, linesFrom]
      · rfl
      · intro _ same
        cases same
  | cons c s ih =>
      rw [oneLine_cons, Bool.and_eq_true, Bool.not_eq_true'] at one
      obtain ⟨inside, others⟩ := one
      rw [List.cons_append, linesFrom, inside, if_neg Bool.false_ne_true, ih (line ++ [c]) others,
        List.append_assoc, List.singleton_append]
      rintro more rfl same
      cases inside

/-- A text that stands on one line is heard as one event. -/
theorem eventsFrom_event {payload : String} (one : oneLine payload.toList = true)
    (rest : List Char) :
    eventsFrom [] [] (linesFrom [] ((Server.event payload).toList ++ rest)) =
      ⟨"message", payload⟩ :: eventsFrom [] [] (linesFrom [] rest) := by
  have text : (Server.event payload).toList ++ rest =
      ("data: ".toList ++ payload.toList) ++ '\n' :: ([] ++ '\n' :: rest) := by
    simp [Server.event]
  have line : oneLine ("data: ".toList ++ payload.toList) = true := by
    rw [oneLine_append, one]
    rfl
  have value : field ("data: ".toList ++ payload.toList) = ("data".toList, payload.toList) := rfl
  rw [text, linesFrom_run [] line, linesFrom_run [] oneLine_nil, List.nil_append, List.nil_append,
    eventsFrom, value]
  · simp [eventsFrom]
  · simp

/-- A sign of life is no event. -/
theorem eventsFrom_keepAlive (rest : List Char) :
    eventsFrom [] [] (linesFrom [] (Server.keepAlive.toList ++ rest)) =
      eventsFrom [] [] (linesFrom [] rest) := rfl

/-- No line ends within the wire form of a message. -/
theorem oneLine_message (m : HostMessage) : oneLine m.encode.toList = true :=
  Json.oneLine_write Json.Style.inline_compact m.readable

theorem eventsFrom_pieces (pieces : List (Option HostMessage)) :
    eventsFrom [] [] (linesFrom [] (pieces.flatMap fun p => (piece p).toList)) =
      (pieces.filterMap id).map fun m => ⟨"message", m.encode⟩ := by
  induction pieces with
  | nil => rfl
  | cons p pieces ih =>
      rw [List.flatMap_cons]
      cases p with
      | none =>
          rw [piece, eventsFrom_keepAlive, ih]
          rfl
      | some m =>
          rw [piece, eventsFrom_event (oneLine_message m), ih]
          rfl

/-- A stream does not begin with a mark. -/
theorem dropMark_pieces (pieces : List (Option HostMessage)) :
    dropMark (pieces.flatMap fun p => (piece p).toList) =
      pieces.flatMap fun p => (piece p).toList := by
  match pieces with
  | [] => rfl
  | none :: _ => rfl
  | some m :: rest =>
      rw [List.flatMap_cons, piece, Server.event]
      simp only [String.toList_append, List.append_assoc]
      rfl

theorem mapM_message? (messages : List HostMessage) :
    (messages.map fun m => ⟨"message", m.encode⟩).mapM message? = some messages := by
  induction messages with
  | nil => rfl
  | cons m messages ih =>
      have heard : message? ⟨"message", m.encode⟩ = some m := by
        rw [message?, if_pos rfl, decodeHostMessage_encode]
        rfl
      rw [List.map_cons, List.mapM_cons, heard, ih]
      rfl

/-- **Messages are heard as they are written.** Whatever messages are written into a stream, and
wherever signs of life stand between them, the messages heard are those that were written, in their
order. -/
theorem received_written (pieces : List (Option HostMessage)) :
    received (written pieces) = some (pieces.filterMap id) := by
  have bytes : written pieces = Utf8.bytes (pieces.flatMap fun p => (piece p).toList) := by
    simp only [written, Utf8.encode_eq, Utf8.bytes, List.flatMap_assoc]
  have text : Utf8.decode (Utf8.bytes (pieces.flatMap fun p => (piece p).toList)) = .ok _ :=
    Utf8.decodeFrom_bytes 0 _
  rw [received, bytes, text]
  dsimp only [Except.toOption, Option.bind_eq_bind, Option.bind_some]
  rw [events, dropMark_pieces, eventsFrom_pieces, mapM_message?]

end Wireframe.Preview.EventStream
