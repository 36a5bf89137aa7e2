import Wireframe.Preview.Hub
import Wireframe.Proofs.Json.Written

/-! # What waits for a surface

The queue of a connected surface, said in messages and not in their wire forms. Since
messages are told apart by their wire forms, what is taken from a queue is known.
-/

namespace Wireframe.Preview

/-- Messages with one wire form are one message. -/
theorem HostMessage.encode_inj {m n : HostMessage} (same : m.encode = n.encode) : m = n := by
  have plain (k : HostMessage) : (Json.object k.members).Plain := by
    cases k <;> simp [members, Json.Plain, Json.MembersPlain, Json.plain_ofText?]
  have members : m.members = n.members :=
    Json.object.inj (Json.write_inj Json.Style.telling_compact (plain m) (plain n) same)
  cases m <;> cases n <;>
    simp [HostMessage.members, wireType, Json.ofText?_eq_iff] at members ⊢ <;> exact members

namespace Hub

/-- Some messages wait for the surface with a number, which is connected or has gone. -/
def Queues (hub : Hub) (number : Nat) (connected : Bool) (messages : List HostMessage) : Prop :=
  hub.clients[number]? = some ⟨connected, messages.map HostMessage.encode⟩

/-- The surface with a number is connected, and some messages wait for it. -/
def Holds (hub : Hub) (number : Nat) (messages : List HostMessage) : Prop :=
  hub.clients[number]? = some ⟨true, messages.map HostMessage.encode⟩

variable {hub : Hub} {number : Nat} {connected : Bool} {messages : List HostMessage}

/-! ### Surfaces, connected or gone -/

/-- A message that is sent waits behind those that wait already, unless the surface has gone. -/
theorem Queues.broadcast (queues : hub.Queues number connected messages) (m : HostMessage) :
    (hub.broadcast m).Queues number connected
      (if connected then messages ++ [m] else messages) := by
  rw [Queues, Hub.broadcast, List.getElem?_map, queues]
  cases connected with
  | false => rfl
  | true => simp

theorem Queues.waiting (queues : hub.Queues number connected messages) :
    hub.waiting number = messages.map HostMessage.encode := by
  rw [Hub.waiting, queues]
  rfl

/-- The first message that waits is taken, and the others wait on. -/
theorem Queues.next {m : HostMessage} (queues : hub.Queues number connected (m :: messages)) :
    (hub.next number).1 = some m.encode ∧
      (hub.next number).2.Queues number connected messages := by
  constructor
  · rw [Hub.next, queues.waiting]
    rfl
  · rw [Queues, Hub.next, change, List.getElem?_modify, queues]
    simp

/-- What another surface takes does not wait for this one. -/
theorem Queues.next_other (queues : hub.Queues number connected messages) {other : Nat}
    (different : other ≠ number) : (hub.next other).2.Queues number connected messages := by
  rw [Queues, Hub.next, change, List.getElem?_modify, queues]
  simp [different]

/-! ### Connected surfaces -/

/-- Nothing waits for a surface that has just been connected. -/
theorem holds_register (hub : Hub) : hub.register.2.Holds hub.register.1 [] := by
  rw [Holds, register, List.getElem?_concat_length]
  rfl

/-- A message that is sent waits behind those that wait already. -/
theorem Holds.broadcast (holds : hub.Holds number messages) (m : HostMessage) :
    (hub.broadcast m).Holds number (messages ++ [m]) := Queues.broadcast holds m

theorem Holds.waiting (holds : hub.Holds number messages) :
    hub.waiting number = messages.map HostMessage.encode := Queues.waiting holds

/-- The first message that waits is taken, and the others wait on. -/
theorem Holds.next {m : HostMessage} (holds : hub.Holds number (m :: messages)) :
    (hub.next number).1 = some m.encode ∧ (hub.next number).2.Holds number messages :=
  Queues.next holds

end Hub

end Wireframe.Preview
