import Wireframe.Preview.Message
import Wireframe.Proofs.Json.Reading

/-! # Messages on the wire

A message is read back from its wire form by the reader for its sender, and the reader for
the other sender refuses it because of its kind. So what a reader takes for a message, in
whatever form it was sent, is that message again once it has been written
(`Wireframe.Preview.wire_round_trip`).
-/

namespace Wireframe.Preview

open Text

/-! ## Members -/

/-- The members of a message hold texts and nulls. -/
theorem HostMessage.readable (m : HostMessage) :
    (Json.object m.members).Readable Json.depthLimit := by
  cases m with
  | schemaError message path =>
      cases path <;> simp [members, Json.Readable, Json.depthLimit, Json.ofText?]
  | _ => simp [members, Json.Readable, Json.depthLimit]

/-- A message is opened by whoever knows its kind. -/
theorem HostMessage.opened_encode (m : HostMessage) (known : List String) :
    Message.opened known (Utf8.encode m.encode) =
      if m.wireType ∈ known then .ok (m.wireType, m.members)
      else .error (.unknownType m.wireType known) := by
  have kind : Json.member? "type" m.members = some (.text m.wireType) := by
    cases m <;> rfl
  rw [Message.opened, encode, Json.read_write Json.Style.legible_compact m.readable]
  dsimp only
  rw [kind]

theorem SurfaceMessage.opened_encode (m : SurfaceMessage) (known : List String) :
    Message.opened known (Utf8.encode m.encode) =
      if m.wireType ∈ known then .ok (m.wireType, [("type", .text m.wireType)])
      else .error (.unknownType m.wireType known) := by
  have readable : (Json.object [("type", .text m.wireType)]).Readable Json.depthLimit := by
    simp [Json.Readable, Json.depthLimit]
  rw [Message.opened, encode, Json.read_write Json.Style.legible_compact readable]
  rfl

/-! ## Messages -/

theorem decodeHostMessage_encode (m : HostMessage) :
    decodeHostMessage (Utf8.encode m.encode) = .ok m := by
  have known : m.wireType ∈ Message.hostTypes := by
    cases m <;> simp [HostMessage.wireType, Message.hostTypes]
  rw [decodeHostMessage, Message.host, m.opened_encode, if_pos known]
  cases m with
  | schemaError message path => cases path <;> rfl
  | _ => rfl

theorem decodeSurfaceMessage_encode (m : SurfaceMessage) :
    decodeSurfaceMessage (Utf8.encode m.encode) = .ok m := by
  have known : m.wireType ∈ Message.surfaceTypes := by
    cases m <;> decide
  rw [decodeSurfaceMessage, Message.surface, m.opened_encode, if_pos known]
  cases m <;> rfl

/-- The reader for surfaces refuses what a host sends. -/
theorem decodeSurfaceMessage_host (m : HostMessage) :
    decodeSurfaceMessage (Utf8.encode m.encode) =
      .error ⟨.surface, .unknownType m.wireType Message.surfaceTypes⟩ := by
  have unknown : m.wireType ∉ Message.surfaceTypes := by
    cases m <;> simp [HostMessage.wireType, Message.surfaceTypes]
  rw [decodeSurfaceMessage, Message.surface, m.opened_encode, if_neg unknown]
  rfl

/-- The reader for hosts refuses what a surface sends. -/
theorem decodeHostMessage_surface (m : SurfaceMessage) :
    decodeHostMessage (Utf8.encode m.encode) =
      .error ⟨.host, .unknownType m.wireType Message.hostTypes⟩ := by
  have unknown : m.wireType ∉ Message.hostTypes := by
    cases m <;> decide
  rw [decodeHostMessage, Message.host, m.opened_encode, if_neg unknown]
  rfl

/-- **The wire form is read back.** A message is read from its wire form as what it is, and only
by the reader for its sender; the other reader names its kind as one that it does not know. Bytes
that are read as a message, however they were written, give that message again when it is written
and read once more. -/
theorem wire_round_trip :
    (∀ m : HostMessage, decodeHostMessage (Utf8.encode m.encode) = .ok m ∧
      decodeSurfaceMessage (Utf8.encode m.encode) =
        .error ⟨.surface, .unknownType m.wireType Message.surfaceTypes⟩) ∧
    (∀ m : SurfaceMessage, decodeSurfaceMessage (Utf8.encode m.encode) = .ok m ∧
      decodeHostMessage (Utf8.encode m.encode) =
        .error ⟨.host, .unknownType m.wireType Message.hostTypes⟩) ∧
    (∀ bytes m, decodeHostMessage bytes = .ok m →
      decodeHostMessage (Utf8.encode m.encode) = decodeHostMessage bytes) ∧
    ∀ bytes m, decodeSurfaceMessage bytes = .ok m →
      decodeSurfaceMessage (Utf8.encode m.encode) = decodeSurfaceMessage bytes := by
  refine ⟨fun m => ⟨decodeHostMessage_encode m, decodeSurfaceMessage_host m⟩,
    fun m => ⟨decodeSurfaceMessage_encode m, decodeHostMessage_surface m⟩, ?_, ?_⟩
  · intro bytes m read
    rw [read, decodeHostMessage_encode]
  · intro bytes m read
    rw [read, decodeSurfaceMessage_encode]

end Wireframe.Preview
