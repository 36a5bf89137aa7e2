import Wireframe.Proofs.Preview.EventStream
import Wireframe.Proofs.Preview.Hub

/-! # Delivery

A server writes a stream to each surface: first what tells it the present state, then the
messages that wait for it, one at a time, with signs of life wherever it likes. All the while
surfaces come and go and messages are broadcast.

What is heard in the stream of a surface is what it is told at first and then the messages
broadcast while it was connected, in their order, as far as they have been written
(`Wireframe.Preview.Service.heard_of_schedule`).
-/

namespace Wireframe.Preview

open Text

/-- The stream of a surface: what it has still to be told at first, and what has been written. -/
structure Stream where
  opening : List HostMessage
  written : List UInt8
deriving DecidableEq, Repr

/-- A stream after something has been written. -/
def Stream.write (stream : Stream) (text : String) : Stream :=
  { stream with written := stream.written ++ Utf8.encode text }

/-- A hub, and the streams of all surfaces that have ever been connected, in their order. -/
structure Service where
  hub : Hub
  streams : List Stream
deriving DecidableEq, Repr

namespace Service

/-- What happens at a time. What is not possible at the time changes nothing. -/
inductive Act where
  /-- A surface comes, and some messages are to tell it the present state. -/
  | register (opening : List HostMessage)
  /-- A surface goes; it may have gone already, or never have come. -/
  | unregister (number : Nat)
  | broadcast (m : HostMessage)
  /-- The next message is written into the stream of a surface, if there is one to write. -/
  | write (number : Nat)
  /-- A sign of life is written into the stream of a surface. -/
  | keepAlive (number : Nat)
deriving DecidableEq, Repr

/-- The message that is broadcast. -/
def Act.message? : Act → Option HostMessage
  | broadcast m => some m
  | _ => none

/-- A service without surfaces. -/
def empty : Service := ⟨Hub.empty, []⟩

/-- Changes the stream of a surface. -/
def change (x : Service) (number : Nat) (f : Stream → Stream) : Service :=
  { x with streams := x.streams.modify number f }

/-- A service after the next message has been written into the stream of a surface: one that the
surface is told at first, or the first one that waits for it. -/
def writeNext (x : Service) (number : Nat) : Service :=
  match x.streams[number]? with
  | none => x
  | some ⟨m :: _, _⟩ =>
    x.change number fun stream =>
      { stream with opening := stream.opening.tail }.write (Server.event m.encode)
  | some ⟨[], _⟩ =>
    match x.hub.next number with
    | (some payload, hub) =>
      { x with hub := hub }.change number fun stream => stream.write (Server.event payload)
    | (none, _) => x

/-- A service after an act. -/
def act (x : Service) : Act → Service
  | .register opening => ⟨x.hub.register.2, x.streams ++ [⟨opening, []⟩]⟩
  | .unregister number => { x with hub := x.hub.unregister number }
  | .broadcast m => { x with hub := x.hub.broadcast m }
  | .write number => x.writeNext number
  | .keepAlive number => x.change number fun stream => stream.write Server.keepAlive

/-- A service after several acts. -/
def run (x : Service) (schedule : List Act) : Service := schedule.foldl act x

/-! ## What an act keeps -/

/-- Each surface has a stream. -/
def Paired (x : Service) : Prop := x.streams.length = x.hub.clients.length

/-- The stream of a surface, which is connected or has gone: what is heard in it, and the messages
that are still to be written. -/
def Serves (x : Service) (number : Nat) (connected : Bool) (heard rest : List HostMessage) : Prop :=
  ∃ opening pieces waiting,
    x.streams[number]? = some ⟨opening, EventStream.written pieces⟩ ∧
    x.hub.Queues number connected waiting ∧
    pieces.filterMap id = heard ∧ opening ++ waiting = rest

variable {x : Service} {number : Nat} {connected : Bool} {heard rest : List HostMessage}

theorem Paired.change (paired : x.Paired) (number : Nat) (f : Stream → Stream) :
    (x.change number f).Paired := by
  rw [Paired, Service.change, List.length_modify]
  exact paired

theorem Paired.act (paired : x.Paired) (a : Act) : (x.act a).Paired := by
  cases a with
  | register opening =>
      rw [Paired, Service.act, Hub.register, List.length_append, List.length_append, paired]
      rfl
  | unregister number =>
      rw [Paired, Service.act, Hub.unregister, Hub.change, List.length_modify]
      exact paired
  | broadcast m =>
      rw [Paired, Service.act, Hub.broadcast, List.length_map]
      exact paired
  | write number =>
      rw [Service.act, writeNext]
      split
      · exact paired
      · exact paired.change number _
      · split
        · rename_i hub taken
          have same : hub = (x.hub.next number).2 := (congrArg Prod.snd taken).symm
          refine Paired.change ?_ number _
          rw [Paired, same, Hub.next, Hub.change, List.length_modify]
          exact paired
        · exact paired
  | keepAlive number => exact paired.change number _

theorem Paired.run (paired : x.Paired) (schedule : List Act) : (x.run schedule).Paired := by
  induction schedule generalizing x with
  | nil => exact paired
  | cons a schedule ih => exact ih (paired.act a)

/-- A surface that comes has an empty stream. -/
theorem serves_register (paired : x.Paired) (opening : List HostMessage) :
    (x.act (.register opening)).Serves x.hub.register.1 true [] opening := by
  refine ⟨opening, [], [], ?_, x.hub.holds_register, rfl, List.append_nil opening⟩
  rw [act, Hub.register, ← paired, List.getElem?_concat_length]
  rfl

theorem Serves.register (serves : x.Serves number connected heard rest)
    (opening : List HostMessage) :
    (x.act (.register opening)).Serves number connected heard rest := by
  obtain ⟨first, pieces, waiting, stream, queues, spoken, left⟩ := serves
  have here := (List.getElem?_eq_some_iff.mp stream).1
  have known := (List.getElem?_eq_some_iff.mp queues).1
  refine ⟨first, pieces, waiting, ?_, ?_, spoken, left⟩
  · rw [act, List.getElem?_append_left here]
    exact stream
  · rw [act, Hub.Queues, Hub.register, List.getElem?_append_left known]
    exact queues

theorem Serves.unregister (serves : x.Serves number connected heard rest) (other : Nat) :
    (x.act (.unregister other)).Serves number
      (connected && decide (Act.unregister other ≠ .unregister number)) heard rest := by
  obtain ⟨first, pieces, waiting, stream, queues, spoken, left⟩ := serves
  refine ⟨first, pieces, waiting, stream, ?_, spoken, left⟩
  rw [act, Hub.Queues, Hub.unregister, Hub.change, List.getElem?_modify, queues]
  by_cases same : other = number
  · simp [same]
  · simp [same]

theorem Serves.broadcast (serves : x.Serves number connected heard rest) (m : HostMessage) :
    (x.act (.broadcast m)).Serves number connected heard
      (rest ++ if connected then [m] else []) := by
  obtain ⟨first, pieces, waiting, stream, queues, spoken, left⟩ := serves
  refine ⟨first, pieces, _, stream, queues.broadcast m, spoken, ?_⟩
  rw [← left]
  cases connected with
  | false => simp
  | true => simp

/-- The next message is written, and the others are still to be written. -/
theorem Serves.writeNext {m : HostMessage} (serves : x.Serves number connected heard (m :: rest)) :
    (x.writeNext number).Serves number connected (heard ++ [m]) rest := by
  obtain ⟨opening, pieces, waiting, stream, queues, spoken, left⟩ := serves
  rw [Service.writeNext, stream]
  cases opening with
  | cons first opening =>
      obtain ⟨rfl, others⟩ := List.cons.inj left
      refine ⟨opening, pieces ++ [some first], waiting, ?_, queues, ?_, others⟩
      · simp [change, stream, Stream.write,
          EventStream.written_concat, EventStream.piece]
      · rw [List.filterMap_append, spoken]
        rfl
  | nil =>
      rw [List.nil_append] at left
      subst left
      obtain ⟨front, others⟩ := queues.next
      have taken : x.hub.next number = (some m.encode, (x.hub.next number).2) :=
        Prod.ext front rfl
      dsimp only
      rw [taken]
      refine ⟨[], pieces ++ [some m], rest, ?_, others, ?_, rfl⟩
      · simp [change, stream, Stream.write,
          EventStream.written_concat, EventStream.piece]
      · rw [List.filterMap_append, spoken]
        rfl

/-- With nothing to write, writing changes nothing. -/
theorem Serves.writeNext_nil (serves : x.Serves number connected heard []) :
    x.writeNext number = x := by
  obtain ⟨opening, pieces, waiting, stream, queues, -, left⟩ := serves
  obtain ⟨rfl, rfl⟩ := List.append_eq_nil_iff.mp left
  have nothing : (x.hub.next number).1 = none := congrArg List.head? queues.waiting
  rw [Service.writeNext, stream]
  dsimp only
  cases next : x.hub.next number with
  | mk taken hub =>
      rw [next] at nothing
      subst nothing
      rfl

/-- What is done to another stream does not touch this one. -/
theorem Serves.change_other (serves : x.Serves number connected heard rest) {other : Nat}
    (different : other ≠ number) (f : Stream → Stream) :
    (x.change other f).Serves number connected heard rest := by
  obtain ⟨opening, pieces, waiting, stream, queues, spoken, left⟩ := serves
  refine ⟨opening, pieces, waiting, ?_, queues, spoken, left⟩
  rw [change, List.getElem?_modify, stream]
  simp [different]

theorem Serves.writeNext_other (serves : x.Serves number connected heard rest) {other : Nat}
    (different : other ≠ number) : (x.writeNext other).Serves number connected heard rest := by
  rw [Service.writeNext]
  split
  · exact serves
  · exact serves.change_other different _
  · split
    · rename_i hub taken
      have same : hub = (x.hub.next other).2 := (congrArg Prod.snd taken).symm
      refine Serves.change_other ?_ different _
      obtain ⟨opening, pieces, waiting, stream, queues, spoken, left⟩ := serves
      exact ⟨opening, pieces, waiting, stream, same ▸ queues.next_other different, spoken, left⟩
    · exact serves

theorem Serves.write (serves : x.Serves number connected heard rest) (other : Nat) :
    ∃ heard' rest', (x.act (.write other)).Serves number connected heard' rest' ∧
      heard' ++ rest' = heard ++ rest := by
  by_cases same : other = number
  · subst same
    cases rest with
    | nil =>
        rw [act, serves.writeNext_nil]
        exact ⟨heard, [], serves, rfl⟩
    | cons m rest => exact ⟨heard ++ [m], rest, serves.writeNext, List.append_assoc ..⟩
  · exact ⟨heard, rest, serves.writeNext_other same, rfl⟩

/-- A sign of life is not heard. -/
theorem Serves.keepAlive (serves : x.Serves number connected heard rest) (other : Nat) :
    (x.act (.keepAlive other)).Serves number connected heard rest := by
  by_cases same : other = number
  · subst same
    obtain ⟨opening, pieces, waiting, stream, queues, spoken, left⟩ := serves
    refine ⟨opening, pieces ++ [none], waiting, ?_, queues, ?_, left⟩
    · simp [act, change, stream, Stream.write, EventStream.written_concat, EventStream.piece]
    · rw [List.filterMap_append, spoken]
      exact List.append_nil heard
  · exact serves.change_other same _

/-- **What an act keeps.** Nothing that is meant for a surface is lost: it has been heard, or it is
still to be written, and only a broadcast while the surface is connected adds to it. -/
theorem Serves.act (serves : x.Serves number connected heard rest) (a : Act) :
    ∃ heard' rest',
      (x.act a).Serves number (connected && decide (a ≠ .unregister number)) heard' rest' ∧
      heard' ++ rest' = heard ++ rest ++ if connected then a.message?.toList else [] := by
  have stays (other : a ≠ .unregister number) :
      (connected && decide (a ≠ .unregister number)) = connected := by
    simp [other]
  have silent (mute : a.message? = none) :
      heard ++ rest = heard ++ rest ++ if connected then a.message?.toList else [] := by
    simp [mute]
  cases a with
  | register opening =>
      rw [stays nofun]
      exact ⟨heard, rest, serves.register opening, silent rfl⟩
  | unregister other => exact ⟨heard, rest, serves.unregister other, silent rfl⟩
  | broadcast m =>
      rw [stays nofun]
      exact ⟨heard, _, serves.broadcast m, (List.append_assoc ..).symm⟩
  | write other =>
      rw [stays nofun, ← silent rfl]
      exact serves.write other
  | keepAlive other =>
      rw [stays nofun]
      exact ⟨heard, rest, serves.keepAlive other, silent rfl⟩

/-- What is broadcast while a surface is connected. -/
def meant (number : Nat) (connected : Bool) (schedule : List Act) : List HostMessage :=
  if connected then (schedule.takeWhile (· ≠ .unregister number)).filterMap Act.message? else []

theorem Serves.run (serves : x.Serves number connected heard rest) (schedule : List Act) :
    ∃ connected' heard' rest', (x.run schedule).Serves number connected' heard' rest' ∧
      heard' ++ rest' = heard ++ rest ++ meant number connected schedule := by
  induction schedule generalizing x connected heard rest with
  | nil => exact ⟨connected, heard, rest, serves, by simp [meant]⟩
  | cons a schedule ih =>
      obtain ⟨heard', rest', kept, same⟩ := serves.act a
      obtain ⟨connected'', heard'', rest'', kept', same'⟩ := ih kept
      refine ⟨connected'', heard'', rest'', kept', ?_⟩
      rw [same', same, List.append_assoc (heard ++ rest)]
      congr 1
      cases connected with
      | false => simp [meant]
      | true =>
          by_cases left : a = .unregister number
          · simp [meant, left, Act.message?]
          · cases said : a.message? <;> simp [meant, left, said]

/-- Writing as often as there are messages to write leaves none. -/
theorem Serves.drained (serves : x.Serves number connected heard rest) :
    (x.run (List.replicate rest.length (.write number))).Serves number connected
      (heard ++ rest) [] := by
  induction rest generalizing x heard with
  | nil =>
      rw [List.append_nil]
      exact serves
  | cons m rest ih =>
      rw [List.append_cons]
      exact ih serves.writeNext

/-! ## What is heard -/

/-- What is heard in the stream of a surface. -/
def heardBy (x : Service) (number : Nat) : Option (List HostMessage) :=
  (x.streams[number]?).bind fun stream => EventStream.received stream.written

/-- The payloads that are still to be written into the stream of a surface. -/
def unwritten (x : Service) (number : Nat) : List String :=
  ((x.streams[number]?).map fun stream => stream.opening.map HostMessage.encode).getD [] ++
    x.hub.waiting number

theorem Serves.heardBy (serves : x.Serves number connected heard rest) :
    x.heardBy number = some heard := by
  obtain ⟨opening, pieces, waiting, stream, -, spoken, -⟩ := serves
  rw [Service.heardBy, stream, Option.bind_some, EventStream.received_written, spoken]

theorem Serves.unwritten (serves : x.Serves number connected heard rest) :
    x.unwritten number = rest.map HostMessage.encode := by
  obtain ⟨opening, pieces, waiting, stream, queues, -, left⟩ := serves
  rw [Service.unwritten, stream, queues.waiting, ← left, List.map_append]
  rfl

/-- **Each surface hears what is meant for it.** Let a surface come at any time, and let anything
happen then: surfaces come and go, this one any number of times, messages are broadcast, and into
the streams messages and signs of life are written in any order. What is heard in the bytes of its
stream, together with what is still to be written, is what the surface was to be told at first and
then the messages broadcast before it went, in their order. Once as many messages are written as
are left, all of that has been heard. -/
theorem heard_of_schedule (before after : List Act) (opening : List HostMessage) :
    let number := (empty.run before).hub.register.1
    let x := empty.run (before ++ .register opening :: after)
    let due := opening ++
      (after.takeWhile (· ≠ .unregister number)).filterMap Act.message?
    ∃ heard rest, x.heardBy number = some heard ∧
      x.unwritten number = rest.map HostMessage.encode ∧ heard ++ rest = due ∧
      (x.run (List.replicate rest.length (.write number))).heardBy number = some due := by
  intro number x due
  have none : empty.Paired := rfl
  have paired := none.run before
  obtain ⟨connected, heard, rest, serves, same⟩ := (serves_register paired opening).run after
  have here : x = ((empty.run before).act (.register opening)).run after := by
    simp [x, run]
  refine ⟨heard, rest, ?_, ?_, same, ?_⟩
  · rw [here]
    exact serves.heardBy
  · rw [here]
    exact serves.unwritten
  · rw [here, serves.drained.heardBy, same]
    rfl

end Service

end Wireframe.Preview
