import Wireframe.Preview.Message

/-! # Hubs

A hub passes the messages of a session on to the surfaces that are connected. Each
surface has a queue of its own, so each sees the messages in the order in which they were
sent. A surface that has gone keeps what its queue holds and gets nothing more.
-/

namespace Wireframe.Preview

/-- A surface of a hub: whether it is connected, and the messages it has still to take, in their
wire form. -/
structure Client where
  connected : Bool
  queue : List String
deriving DecidableEq, Repr

/-- A hub: all surfaces that have ever been connected, in the order in which they came. -/
structure Hub where
  clients : List Client
deriving DecidableEq, Repr

namespace Hub

/-- A hub without surfaces. -/
def empty : Hub := ⟨[]⟩

/-- Connects a surface, which goes by its number from now on. -/
def register (hub : Hub) : Nat × Hub := (hub.clients.length, ⟨hub.clients ++ [⟨true, []⟩]⟩)

/-- Changes the surface with a number. -/
def change (hub : Hub) (number : Nat) (f : Client → Client) : Hub :=
  ⟨hub.clients.modify number f⟩

/-- Disconnects a surface; one that has gone already stays gone. -/
def unregister (hub : Hub) (number : Nat) : Hub :=
  hub.change number fun c => { c with connected := false }

/-- Sends a message to every surface that is connected. -/
def broadcast (hub : Hub) (message : HostMessage) : Hub :=
  ⟨hub.clients.map fun c =>
    if c.connected then { c with queue := c.queue ++ [message.encode] } else c⟩

/-- Sends several messages one after the other. -/
def broadcastAll (hub : Hub) (messages : List HostMessage) : Hub := messages.foldl broadcast hub

/-- The messages that wait for a surface. -/
def waiting (hub : Hub) (number : Nat) : List String :=
  ((hub.clients[number]?).map (·.queue)).getD []

/-- Takes all messages that wait for a surface. -/
def drain (hub : Hub) (number : Nat) : List String × Hub :=
  (hub.waiting number, hub.change number fun c => { c with queue := [] })

/-- Takes the first message that waits for a surface. -/
def next (hub : Hub) (number : Nat) : Option String × Hub :=
  ((hub.waiting number).head?, hub.change number fun c => { c with queue := c.queue.tail })

/-- How many surfaces are connected. -/
def count (hub : Hub) : Nat := (hub.clients.filter (·.connected)).length

end Hub

end Wireframe.Preview
