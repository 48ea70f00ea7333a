import Tungstenite.Frame

/-!
# Messages and their assembly

`Message` is a complete text or binary message; a text message carries a
`Utf8String`, so it cannot hold bytes that are not UTF-8. `IncompleteMessage`
collects the payloads of a message's frames. `message.rs` is not in the
sources; its assembler is modelled from the specification (§3, §4.2): `extend`
fails when a size limit is given and the message would exceed it, and
`complete` checks text for UTF-8 once the message is whole.

`complete_of_message` is what the assembler guarantees to a sender: the bytes
of a message, collected under its kind, complete to the message itself.
-/

namespace Tungstenite

/-- `Message`: a text message (valid UTF-8 by construction) or a binary one. -/
inductive Message
  | text (s : Utf8String)
  | binary (data : Bytes)
  deriving DecidableEq

namespace Message

/-- `into_data`: the message's bytes. -/
def intoData : Message → Bytes
  | .text s => s.bytes
  | .binary data => data

/-- The opcode `write_message` sends the message with. -/
def opData : Message → OpData
  | .text _ => .text
  | .binary _ => .binary

end Message

/-- `IncompleteMessageType`. -/
inductive IncompleteMessageType
  | text
  | binary
  deriving DecidableEq, Repr

/-- The kind of message a Text or Binary frame starts. -/
def IncompleteMessageType.ofOpData : OpData → Option IncompleteMessageType
  | .text => some .text
  | .binary => some .binary
  | _ => none

/-- Modelled from the spec: `IncompleteMessage`, the kind of the message and
the bytes received so far (§3). -/
structure IncompleteMessage where
  kind : IncompleteMessageType
  buffer : Bytes
  deriving DecidableEq, Repr

namespace IncompleteMessage

/-- `IncompleteMessage::new`. -/
def new (kind : IncompleteMessageType) : IncompleteMessage := ⟨kind, []⟩

/-- Modelled from the spec: `extend`, appending a frame's payload; it fails
with a capacity error when the message would grow past `sizeLimit` (§4.2). -/
def extend (m : IncompleteMessage) (tail : Bytes) (sizeLimit : Option Nat) :
    Except Error IncompleteMessage :=
  match sizeLimit with
  | some max =>
    if m.buffer.length + tail.length > max then
      .error (.capacity ("Message too long: " ++ toString (m.buffer.length + tail.length) ++
        " > " ++ toString max))
    else .ok { m with buffer := m.buffer ++ tail }
  | none => .ok { m with buffer := m.buffer ++ tail }

/-- Modelled from the spec: `complete`, the message; text must be UTF-8
(§4.2). -/
def complete (m : IncompleteMessage) : Except Error Message :=
  match m.kind with
  | .binary => .ok (.binary m.buffer)
  | .text => if h : Utf8.valid m.buffer = true then .ok (.text ⟨m.buffer, h⟩) else .error .utf8

@[simp] theorem extend_none (m : IncompleteMessage) (tail : Bytes) :
    m.extend tail none = .ok { m with buffer := m.buffer ++ tail } := rfl

/-- Completing fails only on text that is not UTF-8. -/
theorem complete_error {m : IncompleteMessage} {e : Error} (h : m.complete = .error e) :
    e = .utf8 := by
  rcases m with ⟨_ | _, buf⟩
  · by_cases hv : Utf8.valid buf = true <;> simp_all [complete]
  · simp [complete] at h

/-- A message's bytes complete to the message itself. -/
theorem complete_of_message (msg : Message) (kind : IncompleteMessageType)
    (hk : IncompleteMessageType.ofOpData msg.opData = some kind) :
    (⟨kind, msg.intoData⟩ : IncompleteMessage).complete = .ok msg := by
  cases msg with
  | text s =>
    simp only [Message.opData, IncompleteMessageType.ofOpData, Option.some.injEq] at hk
    subst hk
    simp [complete, Message.intoData, s.valid]
  | binary d =>
    simp only [Message.opData, IncompleteMessageType.ofOpData, Option.some.injEq] at hk
    subst hk
    rfl

end IncompleteMessage

end Tungstenite
