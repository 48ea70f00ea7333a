import Tungstenite.Message

/-!
# The endpoint: `protocol/mod.rs`

`WebSocket` is the endpoint's state, field for field as the source has it,
and the functions below are its methods. Its `FrameSocket` is modelled by
what passes through it: the frames still to be read are an argument of
`readMessage` (which returns those it leaves), and `socket` records every
frame the endpoint read and wrote, in order (`SocketEvent`). Writes always
succeed, as the specification of the endpoint assumes.

`read_message` loops `send_pending` then `read_message_frame` until a message
or an error, so every frame is read after the pong and the queue were
flushed. The lemmas here say what each method changes:

* `sendPending_spec`: the pong then the queue are written, each as
  `Written` describes;
* `readMessageFrame_state`, `readMessageFrame_pong`,
  `readMessageFrame_sendQueue`: a frame changes the state only by a Close
  read while active, the pong only by a Ping read while active, the queue only
  by the reply to that Close;
* `readMessageFrame_inactive`: once the endpoint is not active, a frame
  changes nothing but the socket's record and returns no message.
-/

namespace Tungstenite

/-- `Role`. -/
inductive Role
  | server
  | client
  deriving DecidableEq, Repr

/-- `WebSocketState`. -/
inductive WebSocketState
  | active
  | closedByUs
  | closedByPeer
  deriving DecidableEq, Repr

/-- `is_active`. -/
def WebSocketState.isActive : WebSocketState → Bool
  | .active => true
  | _ => false

@[simp] theorem WebSocketState.isActive_iff (s : WebSocketState) :
    s.isActive = true ↔ s = .active := by
  cases s <;> simp [isActive]

/-- What passed through the frame socket: a frame read, with the state the
endpoint read it in, or a frame written, as the peer's parser reads it. -/
inductive SocketEvent
  | read (f : Frame) (state : WebSocketState)
  | write (f : Frame)
  deriving DecidableEq, Repr

/-- `WebSocket`. -/
structure WebSocket where
  role : Role
  socket : List SocketEvent
  state : WebSocketState
  incomplete : Option IncompleteMessage
  sendQueue : List Frame
  pong : Option Frame
  deriving DecidableEq

/-- The keys a client masks its frames with: `gen n` for the frame written
when the socket has seen `n` events. `generate_mask` is not in the sources;
any sequence of keys may come out of it. -/
abbrev MaskGen := Nat → MaskKey

/-- The role's masking rule for a received frame: a server unmasks it and
refuses it unmasked, a client refuses it masked. -/
def unmaskIncoming (role : Role) (frame : Frame) : Except Error Frame :=
  match role with
  | .server =>
    if frame.isMasked then .ok frame.removeMask
    else .error (.protocol "Received an unmasked frame from client")
  | .client =>
    if frame.isMasked then .error (.protocol "Received a masked frame from server")
    else .ok frame

/-- The frame `send_one_frame` hands to `write_frame`: a client sets the
mask `k`, a server sends the frame as it is. -/
def maskOutgoing (role : Role) (k : MaskKey) (frame : Frame) : Frame :=
  match role with
  | .server => frame
  | .client => frame.setMask k

namespace WebSocket

/-- `from_raw_socket`. -/
def fromRawSocket (role : Role) : WebSocket := ⟨role, [], .active, none, [], none⟩

section Send

variable (gen : MaskGen)

/-- `send_one_frame`: a client masks the frame with a fresh key; then the
frame is written. -/
def sendOneFrame (ws : WebSocket) (frame : Frame) : WebSocket :=
  { ws with socket := ws.socket ++ [.write (maskOutgoing ws.role (gen ws.socket.length) frame).format] }

/-- `send_pending`: the pong, if there is one, then the queue in order. -/
def sendPending (ws : WebSocket) : WebSocket :=
  let ws := match ws.pong with
    | some pong => { ws with pong := none }.sendOneFrame gen pong
    | none => ws
  ws.sendQueue.foldl (sendOneFrame gen) { ws with sendQueue := [] }

end Send

/-- The Close frame `do_close` replies with: a normal close to an allowed code,
a protocol error to any other, an empty close to an empty one. -/
def closeReply : Option (CloseCode × Utf8String) → Frame
  | some (code, _) =>
    if code.isAllowed then Frame.close (some (.normal, .empty))
    else Frame.close (some (.protocol, .protocolViolation))
  | none => Frame.close none

/-- `do_close`: while active, the reply is queued and the state becomes
`closedByPeer`; otherwise nothing (the source leaves both roles' `closedByUs`
branches empty). -/
def doClose (ws : WebSocket) (close : Option (CloseCode × Utf8String)) : WebSocket :=
  match ws.state with
  | .active => { ws with state := .closedByPeer, sendQueue := ws.sendQueue ++ [closeReply close] }
  | .closedByPeer => ws
  | .closedByUs => ws

/-- `do_ping`: the pong slot holds a pong for the latest ping only. -/
def doPing (ws : WebSocket) (ping : Bytes) : WebSocket := { ws with pong := some (Frame.pong ping) }

/-- `do_pong`: unsolicited pongs are allowed; nothing is recorded. -/
def doPong (ws : WebSocket) (_ : Bytes) : WebSocket := ws

/-- The control branch of `read_message_frame`. -/
def onControl (ws : WebSocket) (frame : Frame) (ctl : OpCtl) : Except Error Unit × WebSocket :=
  if !frame.isFinal then (.error (.protocol "Fragmented control frame"), ws)
  else if frame.payload.length > 125 then (.error (.protocol "Control frame too big"), ws)
  else match ctl with
    | .close =>
      match frame.intoClose with
      | .ok close => (.ok (), ws.doClose close)
      | .error e => (.error e, ws)
    | .reserved i => (.error (.protocol ("Unknown control frame type " ++ toString i)), ws)
    | .ping => if ws.state.isActive then (.ok (), ws.doPing frame.payload) else (.ok (), ws)
    | .pong => if ws.state.isActive then (.ok (), ws.doPong frame.payload) else (.ok (), ws)

/-- A new message of `kind` from a Text or Binary frame. -/
def startMessage (ws : WebSocket) (kind : IncompleteMessageType) (frame : Frame) :
    Except Error (Option Message) × WebSocket :=
  match (IncompleteMessage.new kind).extend frame.payload none with
  | .error e => (.error e, ws)
  | .ok msg =>
    if frame.isFinal then (msg.complete.map some, ws)
    else (.ok none, { ws with incomplete := some msg })

/-- The data branch of `read_message_frame`, while active. -/
def onData (ws : WebSocket) (frame : Frame) (data : OpData) :
    Except Error (Option Message) × WebSocket :=
  match data, ws.incomplete with
  | .continue, some msg =>
    match msg.extend frame.payload none with
    | .error e => (.error e, ws)
    | .ok msg =>
      if frame.isFinal then (msg.complete.map some, { ws with incomplete := none })
      else (.ok none, { ws with incomplete := some msg })
  | .continue, none => (.error (.protocol "Continue frame but nothing to continue"), ws)
  | c, some _ =>
    (.error (.protocol ("Received " ++ c.name ++ " while waiting for more fragments")), ws)
  | .text, none => ws.startMessage .text frame
  | .binary, none => ws.startMessage .binary frame
  | .reserved i, none => (.error (.protocol ("Unknown data frame type " ++ toString i)), ws)

/-- The endpoint after recording that it read `frame`. -/
def recordRead (ws : WebSocket) (frame : Frame) : WebSocket :=
  { ws with socket := ws.socket ++ [.read frame ws.state] }

/-- `read_message_frame` once the socket has read `frame`: the reserved bits
and the masking rule, then the opcode's branch. -/
def processFrame (ws : WebSocket) (frame : Frame) : Except Error (Option Message) × WebSocket :=
  if frame.hasRsv then (.error (.protocol "Reserved bits are non-zero"), ws)
  else match unmaskIncoming ws.role frame with
    | .error e => (.error e, ws)
    | .ok frame =>
      match frame.opcode with
      | .control ctl => ((ws.onControl frame ctl).1.map fun _ => none, (ws.onControl frame ctl).2)
      | .data d => if ws.state.isActive then ws.onData frame d else (.ok none, ws)

/-- `read_message_frame` on a frame the socket read (the end of the stream is
handled by `readMessage`). -/
def readMessageFrame (ws : WebSocket) (frame : Frame) : Except Error (Option Message) × WebSocket :=
  (ws.recordRead frame).processFrame frame

section Api

variable (gen : MaskGen)

/-- `read_message` on the frames the socket still has to read: flush, then
read a frame, until a message or an error; at the end of the stream the
error `read_message_frame` reports there. Returns the frames left. -/
def readMessage (ws : WebSocket) : List Frame → Except Error Message × WebSocket × List Frame
  | [] => (.error eofError, ws.sendPending gen, [])
  | frame :: rest =>
    match (ws.sendPending gen).readMessageFrame frame with
    | (.error e, ws) => (.error e, ws, rest)
    | (.ok (some msg), ws) => (.ok msg, ws, rest)
    | (.ok none, ws) => ws.readMessage rest

/-- `write_message`: one final data frame queued, then `send_pending`. -/
def writeMessage (ws : WebSocket) (msg : Message) : WebSocket :=
  { ws with sendQueue := ws.sendQueue ++ [Frame.message msg.intoData (.data msg.opData) true] }
    |>.sendPending gen

end Api

/-- `close`: an active endpoint becomes `closedByUs`; nothing is queued. -/
def close (ws : WebSocket) : WebSocket :=
  match ws.state with
  | .active => { ws with state := .closedByUs }
  | _ => ws

end WebSocket

end Tungstenite

/-! ## What a frame written looks like -/

namespace Tungstenite

/-- `w` is what the peer reads when the endpoint sends `f` in `role`. -/
def Written (role : Role) (f w : Frame) : Prop := ∃ k, w = (maskOutgoing role k f).format

namespace Written

variable {role : Role} {f w : Frame}

theorem opcode (h : Written role f w) : w.opcode = f.opcode := by
  obtain ⟨k, rfl⟩ := h; cases role <;> simp [maskOutgoing]

theorem isFinal (h : Written role f w) : w.isFinal = f.isFinal := by
  obtain ⟨k, rfl⟩ := h; cases role <;> simp [maskOutgoing]

theorem hasRsv (h : Written role f w) : w.hasRsv = f.hasRsv := by
  obtain ⟨k, rfl⟩ := h; cases role <;> simp [maskOutgoing]

/-- The peer unmasks the payload the frame was queued with. -/
theorem unmaskedPayload (h : Written role f w) : w.unmaskedPayload = f.payload := by
  obtain ⟨k, rfl⟩ := h; cases role <;> simp [maskOutgoing]

/-- A client's frames are masked; a server's keep the mask they were queued
with. -/
theorem mask (h : Written role f w) :
    (role = .client → w.isMasked = true) ∧ (role = .server → w.mask = f.mask) := by
  obtain ⟨k, rfl⟩ := h; cases role <;> simp [maskOutgoing, Frame.isMasked]

end Written

namespace WebSocket

section Send

variable (gen : MaskGen)

@[simp] theorem sendOneFrame_role (ws : WebSocket) (f : Frame) :
    (ws.sendOneFrame gen f).role = ws.role := rfl

@[simp] theorem sendOneFrame_sendQueue (ws : WebSocket) (f : Frame) :
    (ws.sendOneFrame gen f).sendQueue = ws.sendQueue := rfl

/-- Sending frames one by one writes each as `Written` says, and changes
nothing but the socket. -/
theorem foldl_sendOneFrame (fs : List Frame) (ws : WebSocket) :
    ∃ out, fs.foldl (sendOneFrame gen) ws = { ws with socket := ws.socket ++ out.map .write } ∧
      List.Forall₂ (Written ws.role) fs out := by
  induction fs generalizing ws with
  | nil => exact ⟨[], by simp, .nil⟩
  | cons f fs ih =>
    obtain ⟨out, h₁, h₂⟩ := ih (ws.sendOneFrame gen f)
    refine ⟨_ :: out, ?_, .cons ⟨gen ws.socket.length, rfl⟩ h₂⟩
    rw [List.foldl_cons, h₁]
    simp [sendOneFrame]

/-- `send_pending` writes the pong, then the queue in order, and empties
both. -/
theorem sendPending_spec (ws : WebSocket) :
    ∃ out, ws.sendPending gen =
        { ws with socket := ws.socket ++ out.map .write, pong := none, sendQueue := [] } ∧
      List.Forall₂ (Written ws.role) (ws.pong.toList ++ ws.sendQueue) out := by
  unfold sendPending
  cases hp : ws.pong with
  | none =>
    obtain ⟨out, h₁, h₂⟩ := foldl_sendOneFrame gen ws.sendQueue { ws with sendQueue := [] }
    refine ⟨out, ?_, by simpa using h₂⟩
    rw [h₁, ← hp]
  | some p =>
    obtain ⟨out, h₁, h₂⟩ := foldl_sendOneFrame gen ws.sendQueue
      { { ws with pong := none }.sendOneFrame gen p with sendQueue := [] }
    refine ⟨_ :: out, ?_, .cons ⟨gen ws.socket.length, rfl⟩ (by simpa using h₂)⟩
    dsimp only at h₁ ⊢
    simp only [sendOneFrame_sendQueue]
    rw [h₁]
    simp [sendOneFrame]

theorem sendPending_eq (ws : WebSocket) :
    ws.sendPending gen =
      { ws with socket := (ws.sendPending gen).socket, pong := none, sendQueue := [] } := by
  obtain ⟨out, h, -⟩ := sendPending_spec gen ws
  rw [h]

@[simp] theorem sendPending_role (ws : WebSocket) : (ws.sendPending gen).role = ws.role := by
  rw [sendPending_eq]

@[simp] theorem sendPending_state (ws : WebSocket) : (ws.sendPending gen).state = ws.state := by
  rw [sendPending_eq]

@[simp] theorem sendPending_incomplete (ws : WebSocket) :
    (ws.sendPending gen).incomplete = ws.incomplete := by
  rw [sendPending_eq]

@[simp] theorem sendPending_pong (ws : WebSocket) : (ws.sendPending gen).pong = none := by
  rw [sendPending_eq]

@[simp] theorem sendPending_sendQueue (ws : WebSocket) : (ws.sendPending gen).sendQueue = [] := by
  rw [sendPending_eq]

end Send

end WebSocket

/-! ## What a frame read changes -/

/-- A frame the masking rule lets through is the frame unmasked. -/
theorem unmaskIncoming_ok {role : Role} {f f' : Frame} (h : unmaskIncoming role f = .ok f') :
    f' = f.removeMask := by
  cases role <;> by_cases hm : f.isMasked <;> simp_all [unmaskIncoming, Frame.isMasked,
    Frame.removeMask, Option.isSome_iff_ne_none]

/-- A frame masked exactly when its receiver is a server passes the masking
rule. -/
theorem unmaskIncoming_of_masked {role : Role} {f : Frame}
    (h : f.isMasked = true ↔ role = .server) : unmaskIncoming role f = .ok f.removeMask := by
  cases role <;> simp_all [unmaskIncoming, Frame.isMasked, Frame.removeMask, Option.isSome_iff_ne_none]

namespace WebSocket

variable (ws : WebSocket) (f : Frame)

@[simp] theorem recordRead_role : (ws.recordRead f).role = ws.role := rfl
@[simp] theorem recordRead_state : (ws.recordRead f).state = ws.state := rfl
@[simp] theorem recordRead_incomplete : (ws.recordRead f).incomplete = ws.incomplete := rfl
@[simp] theorem recordRead_sendQueue : (ws.recordRead f).sendQueue = ws.sendQueue := rfl
@[simp] theorem recordRead_pong : (ws.recordRead f).pong = ws.pong := rfl
@[simp] theorem recordRead_socket : (ws.recordRead f).socket = ws.socket ++ [.read f ws.state] := rfl

theorem startMessage_eq (k : IncompleteMessageType) :
    (ws.startMessage k f).2 = { ws with incomplete := (ws.startMessage k f).2.incomplete } := by
  unfold startMessage; split
  · rfl
  · split <;> rfl

/-- The data branch changes nothing but the message in progress. -/
theorem onData_eq (d : OpData) :
    (ws.onData f d).2 = { ws with incomplete := (ws.onData f d).2.incomplete } := by
  unfold onData; split
  · split
    · rfl
    · split <;> rfl
  all_goals first | rfl | exact startMessage_eq ws f _

@[simp] theorem closeReply_mask (c : Option (CloseCode × Utf8String)) :
    (closeReply c).mask = none := by
  unfold closeReply; split
  · split <;> rfl
  · rfl

@[simp] theorem closeReply_opcode (c : Option (CloseCode × Utf8String)) :
    (closeReply c).opcode = .control .close := by
  unfold closeReply; split
  · split <;> rfl
  · rfl

theorem doClose_eq (c : Option (CloseCode × Utf8String)) :
    ws.doClose c = if ws.state = .active then
      { ws with state := .closedByPeer, sendQueue := ws.sendQueue ++ [closeReply c] } else ws := by
  unfold doClose; split <;> simp_all

/-- The control branch: nothing changes but by a Close or a Ping read while
active. -/
theorem onControl_cases (c : OpCtl) :
    (ws.onControl f c).2 = ws ∨
    ((ws.onControl f c).1 = .ok () ∧ c = .close ∧ ws.state = .active ∧ ∃ reply : Frame,
      reply.mask = none ∧ reply.opcode = .control .close ∧
      (ws.onControl f c).2 = { ws with state := .closedByPeer, sendQueue := ws.sendQueue ++ [reply] }) ∨
    ((ws.onControl f c).1 = .ok () ∧ c = .ping ∧ ws.state = .active ∧
      (ws.onControl f c).2 = { ws with pong := some (Frame.pong f.payload) }) := by
  unfold onControl
  split; · exact .inl rfl
  split; · exact .inl rfl
  cases c with
  | close =>
    dsimp only
    cases f.intoClose with
    | error e => exact .inl rfl
    | ok cl =>
      by_cases h : ws.state = .active
      · exact .inr (.inl ⟨rfl, rfl, h, _, closeReply_mask cl, closeReply_opcode cl, by simp [doClose_eq, h]⟩)
      · exact .inl (by simp [doClose_eq, h])
  | ping => dsimp only; by_cases h : ws.state = .active <;> simp [h, doPing]
  | pong => dsimp only; by_cases h : ws.state = .active <;> simp [h, doPong]
  | reserved i => exact .inl rfl

/-- Past the recording, a frame changes the message in progress (a data frame
while active), or the state and the queue (a Close while active), or the pong
(a Ping while active), or nothing. -/
theorem processFrame_cases :
    (ws.processFrame f).2 = ws ∨
    (ws.state = .active ∧ (∃ d, f.opcode = .data d) ∧
      (ws.processFrame f).2 = { ws with incomplete := (ws.processFrame f).2.incomplete }) ∨
    ((ws.processFrame f).1 = .ok none ∧ ws.state = .active ∧ f.opcode = .control .close ∧
      ∃ reply : Frame, reply.mask = none ∧ reply.opcode = .control .close ∧ (ws.processFrame f).2 =
        { ws with state := .closedByPeer, sendQueue := ws.sendQueue ++ [reply] }) ∨
    ((ws.processFrame f).1 = .ok none ∧ ws.state = .active ∧ f.opcode = .control .ping ∧
      (ws.processFrame f).2 = { ws with pong := some (Frame.pong f.unmaskedPayload) }) := by
  unfold processFrame
  split; · exact .inl rfl
  split
  · exact .inl rfl
  · rename_i f' hf
    obtain rfl := unmaskIncoming_ok hf
    split
    · rename_i c hc
      rcases onControl_cases ws f.removeMask c with h | ⟨h₁, rfl, ha, r, hr, hro, h⟩ | ⟨h₁, rfl, ha, h⟩
      · exact .inl h
      · exact .inr (.inr (.inl ⟨by simp [h₁, Except.map], ha, by simpa using hc, r, hr, hro, h⟩))
      · exact .inr (.inr (.inr ⟨by simp [h₁, Except.map], ha, by simpa using hc, h⟩))
    · rename_i d hd
      split
      · rename_i ha
        exact .inr (.inl ⟨by simpa using ha, ⟨d, by simpa using hd⟩, onData_eq _ _ _⟩)
      · exact .inl rfl

/-- A message comes only from a data frame read while active. -/
theorem processFrame_some {m : Message} (h : (ws.processFrame f).1 = .ok (some m)) :
    ws.state = .active ∧ ∃ d, f.opcode = .data d := by
  unfold processFrame at h
  split at h; · cases h
  split at h
  · cases h
  · rename_i f' hf
    obtain rfl := unmaskIncoming_ok hf
    split at h
    · revert h; cases (ws.onControl f.removeMask _).1 <;> simp [Except.map]
    · rename_i d hd
      split at h
      · rename_i ha
        exact ⟨by simpa using ha, d, by simpa using hd⟩
      · cases h

theorem readMessageFrame_cases :
    (ws.readMessageFrame f).2 = ws.recordRead f ∨
    (ws.state = .active ∧ (∃ d, f.opcode = .data d) ∧
      (ws.readMessageFrame f).2 = { ws.recordRead f with incomplete := (ws.readMessageFrame f).2.incomplete }) ∨
    ((ws.readMessageFrame f).1 = .ok none ∧ ws.state = .active ∧ f.opcode = .control .close ∧
      ∃ reply : Frame, reply.mask = none ∧ reply.opcode = .control .close ∧ (ws.readMessageFrame f).2 =
        { ws.recordRead f with state := .closedByPeer, sendQueue := ws.sendQueue ++ [reply] }) ∨
    ((ws.readMessageFrame f).1 = .ok none ∧ ws.state = .active ∧ f.opcode = .control .ping ∧
      (ws.readMessageFrame f).2 = { ws.recordRead f with pong := some (Frame.pong f.unmaskedPayload) }) :=
  processFrame_cases (ws.recordRead f) f

@[simp] theorem readMessageFrame_role : (ws.readMessageFrame f).2.role = ws.role := by
  rcases readMessageFrame_cases ws f with h | ⟨-, -, h⟩ | ⟨-, -, -, _, -, -, h⟩ | ⟨-, -, -, h⟩ <;>
    rw [h] <;> rfl

@[simp] theorem readMessageFrame_socket :
    (ws.readMessageFrame f).2.socket = ws.socket ++ [.read f ws.state] := by
  rcases readMessageFrame_cases ws f with h | ⟨-, -, h⟩ | ⟨-, -, -, _, -, -, h⟩ | ⟨-, -, -, h⟩ <;>
    rw [h] <;> rfl

/-- The state changes only by a Close read while active. -/
theorem readMessageFrame_state :
    (ws.readMessageFrame f).2.state = ws.state ∨
    (ws.state = .active ∧ f.opcode = .control .close ∧ (ws.readMessageFrame f).2.state = .closedByPeer) := by
  rcases readMessageFrame_cases ws f with h | ⟨-, -, h⟩ | ⟨-, ha, hc, _, -, -, h⟩ | ⟨-, -, -, h⟩ <;> rw [h]
  · exact .inl rfl
  · exact .inl rfl
  · exact .inr ⟨ha, hc, rfl⟩
  · exact .inl rfl

/-- The pong changes only by a Ping read while active, to its pong. -/
theorem readMessageFrame_pong :
    (ws.readMessageFrame f).2.pong = ws.pong ∨
    (ws.state = .active ∧ f.opcode = .control .ping ∧
      (ws.readMessageFrame f).2.pong = some (Frame.pong f.unmaskedPayload)) := by
  rcases readMessageFrame_cases ws f with h | ⟨-, -, h⟩ | ⟨-, -, -, _, -, -, h⟩ | ⟨-, ha, hp, h⟩ <;> rw [h]
  · exact .inl rfl
  · exact .inl rfl
  · exact .inl rfl
  · exact .inr ⟨ha, hp, rfl⟩

/-- The queue changes only by the reply to a Close read while active. -/
theorem readMessageFrame_sendQueue :
    (ws.readMessageFrame f).2.sendQueue = ws.sendQueue ∨
    (ws.state = .active ∧ f.opcode = .control .close ∧ ∃ reply : Frame, reply.mask = none ∧
      reply.opcode = .control .close ∧ (ws.readMessageFrame f).2.sendQueue = ws.sendQueue ++ [reply]) := by
  rcases readMessageFrame_cases ws f with h | ⟨-, -, h⟩ | ⟨-, ha, hc, r, hr, hro, h⟩ | ⟨-, -, -, h⟩ <;> rw [h]
  · exact .inl rfl
  · exact .inl rfl
  · exact .inr ⟨ha, hc, r, hr, hro, rfl⟩
  · exact .inl rfl

theorem readMessageFrame_some {m : Message} (h : (ws.readMessageFrame f).1 = .ok (some m)) :
    ws.state = .active ∧ ∃ d, f.opcode = .data d :=
  processFrame_some (ws.recordRead f) f h

/-- Once the endpoint is not active, a frame changes nothing but the record
of reads and yields no message. -/
theorem readMessageFrame_inactive (h : ws.state ≠ .active) :
    (ws.readMessageFrame f).2 = ws.recordRead f ∧ ∀ m, (ws.readMessageFrame f).1 ≠ .ok (some m) := by
  refine ⟨?_, fun m hm => h (readMessageFrame_some ws f hm).1⟩
  rcases readMessageFrame_cases ws f with h' | ⟨ha, -⟩ | ⟨-, ha, -⟩ | ⟨-, ha, -⟩
  · exact h'
  all_goals exact absurd ha h

end WebSocket

end Tungstenite
