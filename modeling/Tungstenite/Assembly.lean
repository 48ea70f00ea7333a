import Tungstenite.Run
import Tungstenite.Fragments

/-!
# Reading messages back

What `read_message` makes of a stream of data frames with Pings and Pongs
among them, on an endpoint that stays active.

* `read_message_returns_stream`: a stream of whole messages, each fragmented
  in any way, comes back message by message, then the end of the stream.
* `incomplete_tracks_fragments`: until the first protocol error at a data
  frame, the message in progress is there exactly when the data frames read
  end inside a message of the fragmentation language
  (`Tungstenite.Fragments`), and a read fails with a protocol error exactly
  at the first frame to come that leaves the language's prefixes;
* `incomplete_after_interleaving_error`: after that error the endpoint stays
  active and keeps the message the error interrupted, so the first point
  holds only until the error.
-/

namespace Tungstenite

namespace Frame

/-- A frame the first checks of `read_message_frame` let through on a `role`
endpoint: no reserved bit, masked exactly when the endpoint is a server. -/
def Accepted (role : Role) (f : Frame) : Prop := f.hasRsv = false ∧ (f.isMasked = true ↔ role = .server)

/-- A Ping or Pong the endpoint processes: final, with at most 125 bytes. -/
def IsPingPong (f : Frame) : Prop :=
  (f.opcode = .control .ping ∨ f.opcode = .control .pong) ∧ f.isFinal = true ∧ f.payload.length ≤ 125

end Frame

namespace WebSocket

section Turn

variable (gen : MaskGen) {ws : WebSocket} {f : Frame}

theorem turn_data {d : OpData} (hf : f.Accepted ws.role) (hd : f.opcode = .data d)
    (ha : ws.state = .active) :
    (ws.sendPending gen).readMessageFrame f = ((ws.sendPending gen).recordRead f).onData f.removeMask d := by
  have hf' : f.hasRsv = false := hf.1
  simp [readMessageFrame, processFrame, hf', unmaskIncoming_of_masked hf.2, hd, ha]

/-- A Ping or Pong read while active returns nothing and changes neither the
state nor the message in progress. -/
theorem turn_pingPong (hf : f.Accepted ws.role) (hp : f.IsPingPong) (ha : ws.state = .active) :
    ((ws.sendPending gen).readMessageFrame f).1 = .ok none ∧
      ((ws.sendPending gen).readMessageFrame f).2.state = .active ∧
      ((ws.sendPending gen).readMessageFrame f).2.incomplete = ws.incomplete := by
  obtain ⟨hc, hfin, hl⟩ := hp
  have hf' : f.hasRsv = false := hf.1
  have hl' : ¬ 125 < f.payload.length := by omega
  rcases hc with hc | hc <;>
    simp [readMessageFrame, processFrame, hf', unmaskIncoming_of_masked hf.2, hc, onControl, hfin, ha,
      hl', doPing, doPong, Except.map]

/-- A Text or Binary frame with no message in progress starts one, or is one. -/
theorem onData_start {d : OpData} {k : IncompleteMessageType} (hi : ws.incomplete = none)
    (hk : IncompleteMessageType.ofOpData d = some k) (g : Frame) :
    ws.onData g d = if g.isFinal then ((⟨k, g.payload⟩ : IncompleteMessage).complete.map some, ws)
      else (.ok none, { ws with incomplete := some ⟨k, g.payload⟩ }) := by
  cases d <;> simp only [IncompleteMessageType.ofOpData, Option.some.injEq, reduceCtorEq] at hk <;>
    subst hk <;> simp [onData, hi, startMessage, IncompleteMessage.new]

/-- A Continuation frame extends the message in progress, and a final one
completes it. -/
theorem onData_continue {m : IncompleteMessage} (hi : ws.incomplete = some m) (g : Frame) :
    ws.onData g .continue = if g.isFinal then
        ((⟨m.kind, m.buffer ++ g.payload⟩ : IncompleteMessage).complete.map some, { ws with incomplete := none })
      else (.ok none, { ws with incomplete := some ⟨m.kind, m.buffer ++ g.payload⟩ }) := by
  simp [onData, hi]

theorem readMessage_of_turn_none {rest : List Frame}
    (h : ((ws.sendPending gen).readMessageFrame f).1 = .ok none) :
    ws.readMessage gen (f :: rest) = ((ws.sendPending gen).readMessageFrame f).2.readMessage gen rest := by
  have e : (ws.sendPending gen).readMessageFrame f = (.ok none, ((ws.sendPending gen).readMessageFrame f).2) :=
    Prod.ext h rfl
  simp only [readMessage]
  rw [e]

theorem readMessage_of_turn {rest : List Frame} {r : Except Error Message}
    (h : ((ws.sendPending gen).readMessageFrame f).1 = r.map some) :
    ws.readMessage gen (f :: rest) = (r, ((ws.sendPending gen).readMessageFrame f).2, rest) := by
  have e : (ws.sendPending gen).readMessageFrame f = (r.map some, ((ws.sendPending gen).readMessageFrame f).2) :=
    Prod.ext h rfl
  simp only [readMessage]
  rw [e]
  cases r <;> rfl

/-- A Text or Binary frame read with no message in progress. -/
theorem turn_start {d : OpData} {k : IncompleteMessageType} (hf : f.Accepted ws.role)
    (hd : f.opcode = .data d) (hk : IncompleteMessageType.ofOpData d = some k) (ha : ws.state = .active)
    (hi : ws.incomplete = none) :
    (ws.sendPending gen).readMessageFrame f = if f.isFinal
      then ((⟨k, f.unmaskedPayload⟩ : IncompleteMessage).complete.map some, (ws.sendPending gen).recordRead f)
      else (.ok none, { (ws.sendPending gen).recordRead f with incomplete := some ⟨k, f.unmaskedPayload⟩ }) := by
  rw [turn_data gen hf hd ha, onData_start (by simpa using hi) hk, Frame.removeMask_isFinal]
  rfl

/-- A Continuation frame read with a message in progress. -/
theorem turn_continue {m : IncompleteMessage} (hf : f.Accepted ws.role) (hd : f.opcode = .data .continue)
    (ha : ws.state = .active) (hi : ws.incomplete = some m) :
    (ws.sendPending gen).readMessageFrame f = if f.isFinal
      then ((⟨m.kind, m.buffer ++ f.unmaskedPayload⟩ : IncompleteMessage).complete.map some,
        { (ws.sendPending gen).recordRead f with incomplete := none })
      else (.ok none, { (ws.sendPending gen).recordRead f with
        incomplete := some ⟨m.kind, m.buffer ++ f.unmaskedPayload⟩ }) := by
  rw [turn_data gen hf hd ha, onData_continue (by simpa using hi), Frame.removeMask_isFinal]
  rfl

theorem run_of_turn_none {input : List Frame} {ops : List Op}
    (h : ((ws.sendPending gen).readMessageFrame f).1 = .ok none) :
    ws.run gen (f :: input) (.read :: ops) =
      ((ws.sendPending gen).readMessageFrame f).2.run gen input (.read :: ops) := by
  simp only [run, call, readMessage_of_turn_none gen h]

end Turn

end WebSocket

/-! ## Streams of whole messages -/

/-- The frames after a fragmented message's first: Continuations whose
unmasked payloads make up `data`, the last one final, with Pings and Pongs
among them. -/
inductive Tail (role : Role) : Bytes → List Frame → Prop
  | last {f : Frame} : f.Accepted role → f.opcode = .data .continue → f.isFinal = true →
      Tail role f.unmaskedPayload [f]
  | more {f : Frame} {data : Bytes} {fs : List Frame} : f.Accepted role → f.opcode = .data .continue →
      f.isFinal = false → Tail role data fs → Tail role (f.unmaskedPayload ++ data) (f :: fs)
  | control {f : Frame} {data : Bytes} {fs : List Frame} : f.Accepted role → f.IsPingPong →
      Tail role data fs → Tail role data (f :: fs)

/-- The frames of one message: a final frame of its kind carrying its bytes,
or a non-final one and a `Tail` carrying the rest. -/
inductive MessageFrames (role : Role) (msg : Message) : List Frame → Prop
  | single {f : Frame} : f.Accepted role → f.opcode = .data msg.opData → f.isFinal = true →
      f.unmaskedPayload = msg.intoData → MessageFrames role msg [f]
  | fragmented {f : Frame} {data : Bytes} {fs : List Frame} : f.Accepted role →
      f.opcode = .data msg.opData → f.isFinal = false → Tail role data fs →
      f.unmaskedPayload ++ data = msg.intoData → MessageFrames role msg (f :: fs)

/-- A stream of whole messages, with Pings and Pongs anywhere. -/
inductive MessageStream (role : Role) : List Message → List Frame → Prop
  | nil : MessageStream role [] []
  | control {f : Frame} {msgs : List Message} {fs : List Frame} : f.Accepted role → f.IsPingPong →
      MessageStream role msgs fs → MessageStream role msgs (f :: fs)
  | message {msg : Message} {msgs : List Message} {fs₁ fs₂ : List Frame} :
      MessageFrames role msg fs₁ → MessageStream role msgs fs₂ → MessageStream role (msg :: msgs) (fs₁ ++ fs₂)

namespace WebSocket

variable (gen : MaskGen)

/-- Reading a `Tail` completes the message in progress with its data. -/
theorem readMessage_tail {role : Role} {data : Bytes} {fs : List Frame} (h : Tail role data fs) :
    ∀ (ws : WebSocket) (m : IncompleteMessage) (rest : List Frame), ws.role = role →
      ws.state = .active → ws.incomplete = some m →
      ∃ ws', ws.readMessage gen (fs ++ rest) = ((⟨m.kind, m.buffer ++ data⟩ : IncompleteMessage).complete, ws', rest) ∧
        ws'.role = role ∧ ws'.state = .active ∧ ws'.incomplete = none := by
  induction h with
  | last hf hd hfin =>
    intro ws m rest hr ha hi
    rw [← hr] at hf
    have ht := turn_continue gen hf hd ha hi
    rw [hfin, if_pos rfl] at ht
    exact ⟨_, readMessage_of_turn gen (by rw [ht]), by simp [ht, hr], by simp [ht, ha], by simp [ht]⟩
  | @more f data fs hf hd hfin _ ih =>
    intro ws m rest hr ha hi
    rw [← hr] at hf
    have ht := turn_continue gen hf hd ha hi
    rw [hfin, if_neg Bool.false_ne_true] at ht
    rw [List.cons_append, readMessage_of_turn_none gen (by rw [ht]), ht]
    simpa only [List.append_assoc] using
      ih _ ⟨m.kind, m.buffer ++ f.unmaskedPayload⟩ rest (by simp [hr]) (by simp [ha]) rfl
  | control hf hp _ ih =>
    intro ws m rest hr ha hi
    rw [← hr] at hf
    obtain ⟨h₁, h₂, h₃⟩ := turn_pingPong gen hf hp ha
    obtain ⟨ws', e, h'⟩ := ih _ m rest (by simp [hr]) h₂ (h₃.trans hi)
    exact ⟨ws', by rw [List.cons_append, readMessage_of_turn_none gen h₁, e], h'⟩

/-- Reading a message's frames returns the message. -/
theorem readMessage_messageFrames {role : Role} {msg : Message} {fs : List Frame}
    (h : MessageFrames role msg fs) (ws : WebSocket) (rest : List Frame) (hr : ws.role = role)
    (ha : ws.state = .active) (hi : ws.incomplete = none) :
    ∃ ws', ws.readMessage gen (fs ++ rest) = (.ok msg, ws', rest) ∧
      ws'.role = role ∧ ws'.state = .active ∧ ws'.incomplete = none := by
  obtain ⟨k, hk⟩ : ∃ k, IncompleteMessageType.ofOpData msg.opData = some k := by
    cases msg <;> exact ⟨_, rfl⟩
  cases h with
  | single hf hd hfin hp =>
    rw [← hr] at hf
    have ht := turn_start gen hf hd hk ha hi
    rw [hfin, if_pos rfl, hp, IncompleteMessage.complete_of_message msg k hk] at ht
    exact ⟨_, readMessage_of_turn gen (by rw [ht]), by simp [ht, hr], by simp [ht, ha], by simp [ht, hi]⟩
  | @fragmented f data fs hf hd hfin htail hp =>
    rw [← hr] at hf
    have ht := turn_start gen hf hd hk ha hi
    rw [hfin, if_neg Bool.false_ne_true] at ht
    rw [List.cons_append, readMessage_of_turn_none gen (by rw [ht]), ht]
    simpa only [List.nil_append, hp, IncompleteMessage.complete_of_message msg k hk] using
      readMessage_tail gen htail _ ⟨k, f.unmaskedPayload⟩ rest (by simp [hr]) (by simp [ha]) rfl

/-- One read per message returns the messages in order, and one more the end
of the stream. -/
theorem run_messageStream {role : Role} {msgs : List Message} {fs : List Frame}
    (h : MessageStream role msgs fs) :
    ∀ ws : WebSocket, ws.role = role → ws.state = .active → ws.incomplete = none →
      (ws.run gen fs (List.replicate (msgs.length + 1) .read)).1 =
        msgs.map (fun m => .ok (some m)) ++ [.error eofError] := by
  induction h with
  | nil => intro ws _ _ _; rfl
  | control hf hp _ ih =>
    intro ws hr ha hi
    rw [← hr] at hf
    obtain ⟨h₁, h₂, h₃⟩ := turn_pingPong gen hf hp ha
    rw [List.replicate_succ, run_of_turn_none gen h₁, ← List.replicate_succ]
    exact ih _ (by simp [hr]) h₂ (h₃.trans hi)
  | @message msg msgs fs₁ fs₂ hm _ ih =>
    intro ws hr ha hi
    obtain ⟨ws', e, h₁, h₂, h₃⟩ := readMessage_messageFrames gen hm ws fs₂ hr ha hi
    have ih' := ih ws' h₁ h₂ h₃
    simp only [List.replicate_succ, run, call] at ih'
    simp only [List.length_cons, List.replicate_succ, run, call, e, ih']
    rfl

theorem read_message_returns_stream (role : Role) {msgs : List Message} {frames : List Frame}
    (h : MessageStream role msgs frames) :
    ((fromRawSocket role).run gen frames (List.replicate (msgs.length + 1) .read)).1 =
      msgs.map (fun m => .ok (some m)) ++ [.error eofError] :=
  run_messageStream gen h _ rfl rfl rfl

/-- The stream of the source's `receive_messages` test. -/
theorem read_message_returns_stream_receive_messages :
    MessageStream .client [.text ⟨ascii "Hello, World!", by decide⟩, .binary [1, 2, 3]]
      [⟨false, false, false, false, .data .text, none, ascii "Hello, "⟩,
        ⟨true, false, false, false, .data .continue, none, ascii "World!"⟩,
        ⟨true, false, false, false, .data .binary, none, [1, 2, 3]⟩] ∧
    ((fromRawSocket .client).run (fun _ => ⟨0, 0, 0, 0⟩)
      [⟨false, false, false, false, .data .text, none, ascii "Hello, "⟩,
        ⟨true, false, false, false, .data .continue, none, ascii "World!"⟩,
        ⟨true, false, false, false, .data .binary, none, [1, 2, 3]⟩] (List.replicate 3 .read)).1 =
      [.ok (some (.text ⟨ascii "Hello, World!", by decide⟩)), .ok (some (.binary [1, 2, 3])),
        .error eofError] :=
  have h : MessageStream .client [.text ⟨ascii "Hello, World!", by decide⟩, .binary [1, 2, 3]]
      [⟨false, false, false, false, .data .text, none, ascii "Hello, "⟩,
        ⟨true, false, false, false, .data .continue, none, ascii "World!"⟩,
        ⟨true, false, false, false, .data .binary, none, [1, 2, 3]⟩] :=
    @MessageStream.message _ _ _ [_, _] _
      (.fragmented ⟨rfl, by decide⟩ rfl rfl (.last ⟨rfl, by decide⟩ rfl rfl) (by decide))
      (@MessageStream.message _ _ _ [_] [] (.single ⟨rfl, by decide⟩ rfl rfl rfl) .nil)
  ⟨h, read_message_returns_stream _ .client h⟩

end WebSocket

/-! ## The message in progress follows the fragmentation language -/

/-- The data frames a record shows read, by opcode and fin bit. -/
def dataRead (t : List SocketEvent) : List Fragment :=
  t.filterMap fun
    | .read f _ => match f.opcode with
      | .data d => some (d, f.isFinal)
      | .control _ => none
    | .write _ => none

@[simp] theorem dataRead_append (t u : List SocketEvent) : dataRead (t ++ u) = dataRead t ++ dataRead u :=
  List.filterMap_append _ _ _

@[simp] theorem dataRead_map_write (fs : List Frame) : dataRead (fs.map .write) = [] := by
  induction fs with
  | nil => rfl
  | cons f fs ih => exact ih

theorem dataRead_read_data {f : Frame} {d : OpData} (s : WebSocketState) (h : f.opcode = .data d) :
    dataRead [.read f s] = [(d, f.isFinal)] := by
  simp [dataRead, h]

theorem dataRead_read_control {f : Frame} {c : OpCtl} (s : WebSocketState) (h : f.opcode = .control c) :
    dataRead [.read f s] = [] := by
  simp [dataRead, h]

/-- The data frames of a list of frames to read, by opcode and fin bit. -/
def fragments (fs : List Frame) : List Fragment := dataRead (fs.map fun f => .read f .active)

@[simp] theorem fragments_nil : fragments [] = [] := rfl

theorem fragments_cons (f : Frame) (fs : List Frame) :
    fragments (f :: fs) = dataRead [.read f .active] ++ fragments fs := by
  rw [fragments, List.map_cons, ← List.singleton_append, dataRead_append]
  rfl

theorem fragments_append (fs gs : List Frame) : fragments (fs ++ gs) = fragments fs ++ fragments gs := by
  simp [fragments]

/-- A frame of the streams considered: accepted, and data or a Ping or Pong. -/
def Frame.InStream (role : Role) (f : Frame) : Prop :=
  f.Accepted role ∧ ((∃ d, f.opcode = .data d) ∨ f.IsPingPong)

/-- Every frame the record shows read is in the stream. -/
def ReadsIn (role : Role) (t : List SocketEvent) : Prop := ∀ f s, .read f s ∈ t → f.InStream role

theorem complete_map_ne_protocol (m : IncompleteMessage) (s : String) :
    m.complete.map some ≠ .error (.protocol s) := by
  cases h : m.complete with
  | error e => simp [Except.map, IncompleteMessage.complete_error h]
  | ok msg => simp [Except.map]

theorem protocol_ne_eofError {s : String} (h : s ≠ "Connection reset without closing handshake") :
    Error.protocol s ≠ eofError := by
  simp [eofError, h]

namespace WebSocket

variable (gen : MaskGen)

/-- The data branch against the automaton: a frame that leaves the
language's prefixes is a protocol error; one that does not leaves the
message in progress where the automaton is, and is no protocol error. -/
theorem onData_fragStep (ws : WebSocket) (g : Frame) (d : OpData) :
    (fragStep ws.incomplete.isSome (d, g.isFinal) = none ∧
      (∃ m, (ws.onData g d).1 = .error (.protocol m)) ∧ (ws.onData g d).1 ≠ .error eofError) ∨
    (fragStep ws.incomplete.isSome (d, g.isFinal) = some (ws.onData g d).2.incomplete.isSome ∧
      ∀ m, (ws.onData g d).1 ≠ .error (.protocol m)) := by
  have received (s : String) : "Received " ++ s ++ " while waiting for more fragments" ≠
      "Connection reset without closing handshake" := fun h => by
    simpa using congrArg (fun s : String => s.data.head?) h
  have unknown (s : String) : "Unknown data frame type " ++ s ≠ "Connection reset without closing handshake" :=
    fun h => by simpa using congrArg (fun s : String => s.data.head?) h
  cases hi : ws.incomplete with
  | none =>
    cases d with
    | «continue» =>
      exact .inl ⟨by cases g.isFinal <;> rfl, by simp [onData, hi],
        by simp [onData, hi, protocol_ne_eofError (by decide : "Continue frame but nothing to continue" ≠ _)]⟩
    | text =>
      rw [onData_start hi (show IncompleteMessageType.ofOpData .text = some .text from rfl)]
      cases g.isFinal <;> simp [fragStep, hi, complete_map_ne_protocol]
    | binary =>
      rw [onData_start hi (show IncompleteMessageType.ofOpData .binary = some .binary from rfl)]
      cases g.isFinal <;> simp [fragStep, hi, complete_map_ne_protocol]
    | reserved n =>
      exact .inl ⟨by cases g.isFinal <;> rfl, by simp [onData, hi],
        by simp [onData, hi, protocol_ne_eofError (unknown _)]⟩
  | some m =>
    cases d with
    | «continue» =>
      rw [onData_continue hi]
      cases g.isFinal <;> simp [complete_map_ne_protocol]
    | text | binary | reserved _ =>
      exact .inl ⟨by cases g.isFinal <;> rfl, by simp [onData, hi],
        by simp [onData, hi, protocol_ne_eofError (received _)]⟩

theorem dataRead_sendPending (ws : WebSocket) : dataRead (ws.sendPending gen).socket = dataRead ws.socket := by
  obtain ⟨out, h, -⟩ := sendPending_spec gen ws
  rw [h]; simp

theorem read_mem_sendPending {ws : WebSocket} {f : Frame} {s : WebSocketState} :
    .read f s ∈ (ws.sendPending gen).socket ↔ .read f s ∈ ws.socket := by
  obtain ⟨out, h, -⟩ := sendPending_spec gen ws
  rw [h]; simp

/-- A turn runs the automaton on the frame it reads. -/
theorem fragRun_turn (a : WebSocket) (f : Frame) :
    fragRun false (dataRead ((a.sendPending gen).readMessageFrame f).2.socket) =
      (fragRun false (dataRead a.socket)).bind (fragRun · (dataRead [.read f a.state])) := by
  simp [dataRead_sendPending, fragRun_append]

/-- One turn of the loop against the automaton: the frame leaves the
language's prefixes and is a protocol error, or the automaton's state is
whether a message is in progress after it, and it is no protocol error. -/
theorem turn_fragRun {a : WebSocket} {f : Frame} (ha : a.state = .active) (hf : f.InStream a.role) :
    ((a.sendPending gen).readMessageFrame f).2.state = .active ∧
    ((fragRun a.incomplete.isSome (dataRead [.read f .active]) = none ∧
        (∃ m, ((a.sendPending gen).readMessageFrame f).1 = .error (.protocol m)) ∧
        ((a.sendPending gen).readMessageFrame f).1 ≠ .error eofError) ∨
      (fragRun a.incomplete.isSome (dataRead [.read f .active]) =
          some ((a.sendPending gen).readMessageFrame f).2.incomplete.isSome ∧
        ∀ m, ((a.sendPending gen).readMessageFrame f).1 ≠ .error (.protocol m))) := by
  obtain ⟨hacc, ⟨d, hd⟩ | hp⟩ := hf
  · rw [turn_data gen hacc hd ha, dataRead_read_data _ hd]
    refine ⟨by rw [onData_eq]; simp [ha], ?_⟩
    simpa [fragRun] using onData_fragStep ((a.sendPending gen).recordRead f) f.removeMask d
  · obtain ⟨h₁, h₂, h₃⟩ := turn_pingPong gen hacc hp ha
    rcases hp.1 with hc | hc <;>
      exact ⟨h₂, .inr ⟨by rw [dataRead_read_control _ hc, h₃]; rfl, by rw [h₁]; simp⟩⟩

end WebSocket

/-- What a read call that started where the automaton agrees with the
endpoint leaves: `r` is its result and `b` the endpoint after it. -/
structure ReadOutcome (r : Except Error Message) (b : WebSocket) : Prop where
  active : b.state = .active
  error_iff : ((∃ m, r = .error (.protocol m)) ∧ r ≠ .error eofError) ↔
    fragRun false (dataRead b.socket) = none
  culprit : fragRun false (dataRead b.socket) = none → ∃ pre f, b.socket = pre ++ [.read f .active] ∧
    (fragRun false (dataRead pre)).isSome ∧ ∃ d, f.opcode = .data d
  agrees : fragRun false (dataRead b.socket) ≠ none →
    fragRun false (dataRead b.socket) = some b.incomplete.isSome

namespace WebSocket

variable (gen : MaskGen)

/-- A read call from where the automaton agrees with the endpoint. -/
theorem readMessage_fragRun : ∀ (input : List Frame) (a : WebSocket), a.state = .active →
    fragRun false (dataRead a.socket) = some a.incomplete.isSome → (∀ f ∈ input, f.InStream a.role) →
    ReadOutcome (a.readMessage gen input).1 (a.readMessage gen input).2.1
  | [], a, ha, hg, _ => by
    have hs : fragRun false (dataRead (a.sendPending gen).socket) = some a.incomplete.isSome := by
      rw [dataRead_sendPending, hg]
    exact ⟨by simp [readMessage, ha], by simp [readMessage, hs], by simp [readMessage, hs],
      by simp [readMessage, hs]⟩
  | f :: rest, a, ha, hg, hin => by
    have hrun := fragRun_turn gen a f
    rw [hg, ha] at hrun
    obtain ⟨hst, ⟨hn, ⟨m, hm⟩, hne⟩ | ⟨hs, hnp⟩⟩ :=
      turn_fragRun gen ha (hin f (List.mem_cons_self _ _))
    · rw [readMessage_of_turn gen (show _ = (Except.error (.protocol m) : Except Error Message).map some from hm)]
      refine ⟨hst, ⟨fun _ => hrun.trans hn, fun _ => ⟨⟨m, rfl⟩, fun h => hne (by rw [hm, Except.error.inj h])⟩⟩, fun _ => ?_,
        fun h => absurd (hrun.trans hn) h⟩
      refine ⟨(a.sendPending gen).socket, f, by rw [readMessageFrame_socket, sendPending_state, ha],
        by simp [dataRead_sendPending, hg], ?_⟩
      cases hfo : f.opcode with
      | data d => exact ⟨d, rfl⟩
      | control c => rw [dataRead_read_control _ hfo] at hn; cases hn
    · have hsome := hrun.trans hs
      have hne : fragRun false (dataRead ((a.sendPending gen).readMessageFrame f).2.socket) ≠ none := by
        rw [hsome]; exact Option.some_ne_none _
      rcases hr : ((a.sendPending gen).readMessageFrame f).1 with e | _ | msg
      · rw [readMessage_of_turn gen (show _ = (Except.error e : Except Error Message).map some from hr)]
        exact ⟨hst, ⟨fun ⟨⟨m, hm⟩, _⟩ => (hnp m (by rw [hr, Except.error.inj hm])).elim, fun h => absurd h hne⟩,
          fun h => absurd h hne, fun _ => hsome⟩
      · rw [readMessage_of_turn_none gen hr]
        exact readMessage_fragRun rest _ hst hsome fun g hg => by simpa using hin g (List.mem_cons_of_mem _ hg)
      · rw [readMessage_of_turn gen (show _ = (Except.ok msg : Except Error Message).map some from hr)]
        exact ⟨hst, ⟨(fun ⟨⟨m, hm⟩, _⟩ => by cases hm), fun h => absurd h hne⟩, fun h => absurd h hne,
          fun _ => hsome⟩

/-- A data frame that is not final and keeps to the language's prefixes lets
the loop go on. -/
theorem onData_ok_none (ws : WebSocket) {g : Frame} (hfin : g.isFinal = false) {d : OpData}
    (hs : fragStep ws.incomplete.isSome (d, false) ≠ none) : (ws.onData g d).1 = .ok none := by
  cases hi : ws.incomplete <;> cases d <;> simp_all [onData, startMessage, fragStep, IncompleteMessage.new]

/-- A turn on a Ping, a Pong, or a data frame that is not final and keeps to
the language's prefixes lets the loop go on. -/
theorem turn_ok_none {a : WebSocket} {g : Frame} (ha : a.state = .active) (hg : g.InStream a.role)
    (hfin : ∀ d, g.opcode = .data d → g.isFinal = false)
    (hs : (fragRun a.incomplete.isSome (dataRead [.read g .active])).isSome) :
    ((a.sendPending gen).readMessageFrame g).1 = .ok none := by
  obtain ⟨hacc, ⟨d, hd⟩ | hp⟩ := hg
  · rw [turn_data gen hacc hd ha]
    refine onData_ok_none _ (by simpa using hfin d hd) fun h => ?_
    simp only [sendPending_incomplete, recordRead] at h
    simp [dataRead_read_data _ hd, fragRun, hfin d hd, h] at hs
  · exact (turn_pingPong gen hacc hp ha).1

/-- A read call from where the automaton agrees with the endpoint, on frames
of the stream up to `f`, whose data frames before `f` are not final and keep
to the language's prefixes while `f` leaves them: the call reads up to `f`,
fails there with a protocol error and leaves the frames after it. -/
theorem readMessage_offending (f : Frame) (post : List Frame) : ∀ (pre : List Frame) (a : WebSocket),
    a.state = .active → fragRun false (dataRead a.socket) = some a.incomplete.isSome →
    (∀ g ∈ pre ++ [f], g.InStream a.role) → (∀ g ∈ pre, ∀ d, g.opcode = .data d → g.isFinal = false) →
    (fragRun a.incomplete.isSome (fragments pre)).isSome →
    fragRun a.incomplete.isSome (fragments (pre ++ [f])) = none →
    (∃ m, (a.readMessage gen (pre ++ f :: post)).1 = .error (.protocol m)) ∧
      (a.readMessage gen (pre ++ f :: post)).1 ≠ .error eofError ∧ (a.readMessage gen (pre ++ f :: post)).2.2 = post
  | [], a, ha, _, hin, _, _, hn => by
    obtain ⟨-, ⟨-, ⟨m, hm⟩, hne⟩ | ⟨hs, -⟩⟩ := turn_fragRun gen ha (hin f (by simp))
    · rw [List.nil_append,
        readMessage_of_turn gen (show _ = (Except.error (.protocol m) : Except Error Message).map some from hm)]
      exact ⟨⟨m, rfl⟩, fun h => hne (by rw [hm, Except.error.inj h]), rfl⟩
    · rw [List.nil_append, fragments_cons, fragments_nil, List.append_nil, hs] at hn
      cases hn
  | g :: pre, a, ha, hg, hin, hfin, hs, hn => by
    have hg' := hin g (by simp)
    obtain ⟨hst, ⟨hln, -⟩ | ⟨hsm, -⟩⟩ := turn_fragRun gen ha hg'
    · rw [fragments_cons, fragRun_append, hln] at hs
      cases hs
    · have hrun := fragRun_turn gen a g
      rw [hg, ha] at hrun
      rw [List.cons_append, readMessage_of_turn_none gen (turn_ok_none gen ha hg' (hfin g (by simp)) (by simp [hsm]))]
      rw [fragments_cons, fragRun_append, hsm] at hs
      rw [List.cons_append, fragments_cons, fragRun_append, hsm] at hn
      exact readMessage_offending f post pre _ hst (hrun.trans hsm)
        (fun x hx => by simpa using hin x (List.mem_cons_of_mem _ hx)) (fun x hx => hfin x (.tail _ hx)) hs hn

/-- While the endpoint is active and has read only frames of the stream, the
automaton either has left the language's prefixes or agrees with it. -/
def FragInv (ws : WebSocket) : Prop :=
  ws.state = .active → ReadsIn ws.role ws.socket →
    fragRun false (dataRead ws.socket) = none ∨ fragRun false (dataRead ws.socket) = some ws.incomplete.isSome

theorem sendPending_fragInv {a : WebSocket} (h : FragInv a) : FragInv (a.sendPending gen) := by
  intro ha hr
  simpa [dataRead_sendPending] using
    h (by simpa using ha) fun f s hm => by simpa using hr f s ((read_mem_sendPending gen).2 hm)

theorem turn_fragInv {a : WebSocket} (f : Frame) (h : FragInv a) :
    FragInv ((a.sendPending gen).readMessageFrame f).2 := by
  intro hst hr
  have ha : a.state = .active := by
    rcases readMessageFrame_state (a.sendPending gen) f with e | ⟨e, -⟩
    · simpa [e] using hst
    · simpa using e
  have hr' : ReadsIn a.role a.socket := fun g s hm => by
    simpa using hr g s (by simp [(read_mem_sendPending gen).2 hm])
  have hf : f.InStream a.role := by simpa using hr f (a.sendPending gen).state (by simp)
  rw [fragRun_turn, ha]
  rcases h ha hr' with hn | hg
  · exact .inl (by rw [hn]; rfl)
  · rw [hg]
    rcases (turn_fragRun gen ha hf).2 with ⟨hn, -⟩ | ⟨hs, -⟩
    · exact .inl hn
    · exact .inr hs

theorem reachable_fragInv {ws : WebSocket} {input : List Frame} (h : Reachable gen ws input) :
    FragInv ws := by
  induction h with
  | init role input => exact fun _ _ => .inr rfl
  | arrive _ _ ih => exact ih
  | @call ws input op _ ih =>
    cases op with
    | read =>
      exact readMessage_rel gen (fun a b => FragInv a → FragInv b) (fun h₁ h₂ h => h₂ (h₁ h))
        (fun a => sendPending_fragInv gen) (fun a f => turn_fragInv gen f) input ws ih
    | write msg => exact sendPending_fragInv gen ih
    | close =>
      show FragInv ws.close
      rw [close_eq]
      split
      · exact fun h => by cases h
      · exact ih

/-- Until the first protocol error at a data frame, while the data frames
read stay within the language's prefixes: the message in progress is there
exactly when they end inside a message; a read call fails with a protocol
error exactly when a data frame it reads leaves the prefixes, that frame being
the last it reads; and it reads the frames still to come up to the first one
that leaves the prefixes, if no message ends before it, and fails there. -/
theorem incomplete_tracks_fragments {ws : WebSocket} {input : List Frame} (h : Reachable gen ws input)
    (ha : ws.state = .active) (hr : ReadsIn ws.role ws.socket) (hc : Completable (dataRead ws.socket)) :
    (ws.incomplete.isSome = true ↔ EndsInside (dataRead ws.socket)) ∧
    ((∀ f ∈ input, f.InStream ws.role) →
      (((∃ m, (ws.readMessage gen input).1 = .error (.protocol m)) ∧
          (ws.readMessage gen input).1 ≠ .error eofError) ↔
        ¬ Completable (dataRead (ws.readMessage gen input).2.1.socket)) ∧
      (¬ Completable (dataRead (ws.readMessage gen input).2.1.socket) →
        ∃ pre f, (ws.readMessage gen input).2.1.socket = pre ++ [.read f .active] ∧
          Completable (dataRead pre) ∧ ∃ d, f.opcode = .data d)) ∧
    ∀ pre f post, input = pre ++ f :: post → (∀ g ∈ pre ++ [f], g.InStream ws.role) →
      (∀ g ∈ pre, ∀ d, g.opcode = .data d → g.isFinal = false) →
      Completable (dataRead ws.socket ++ fragments pre) →
      ¬ Completable (dataRead ws.socket ++ fragments (pre ++ [f])) →
      (∃ m, (ws.readMessage gen input).1 = .error (.protocol m)) ∧
        (ws.readMessage gen input).1 ≠ .error eofError ∧ (ws.readMessage gen input).2.2 = post := by
  have hg : fragRun false (dataRead ws.socket) = some ws.incomplete.isSome := by
    rcases reachable_fragInv gen h ha hr with hn | hs
    · rw [completable_iff, hn] at hc; cases hc
    · exact hs
  have hnc : ∀ t, ¬ Completable t ↔ fragRun false t = none := fun t => by
    rw [completable_iff, Option.not_isSome_iff_eq_none]
  refine ⟨by rw [← fragRun_eq_true_iff, hg, Option.some.injEq], fun hin => ?_,
    fun pre f post hi hin hfin hp hn => ?_⟩
  · have o := readMessage_fragRun gen input ws ha hg hin
    refine ⟨o.error_iff.trans (hnc _).symm, fun hn => ?_⟩
    obtain ⟨pre, f, h₁, h₂, h₃⟩ := o.culprit ((hnc _).1 hn)
    exact ⟨pre, f, h₁, (completable_iff _).2 h₂, h₃⟩
  · rw [completable_iff, fragRun_append, hg] at hp
    rw [hnc, fragRun_append, hg] at hn
    subst hi
    exact readMessage_offending gen f post pre ws ha hg hin hfin hp hn

/-- A server reads a Text frame that is not final, a Ping, a Binary frame and
a Text frame: the Binary frame, interleaved in the message the first started,
fails the read, which leaves the last frame unread. -/
theorem incomplete_tracks_fragments_interleaved :
    (∃ m, ((fromRawSocket .server).readMessage (fun _ => ⟨0, 0, 0, 0⟩)
        [⟨false, false, false, false, .data .text, some ⟨1, 2, 3, 4⟩, [105]⟩,
          ⟨true, false, false, false, .control .ping, some ⟨1, 2, 3, 4⟩, [5]⟩,
          ⟨true, false, false, false, .data .binary, some ⟨1, 2, 3, 4⟩, [6]⟩,
          ⟨true, false, false, false, .data .text, some ⟨1, 2, 3, 4⟩, [105]⟩]).1 = .error (.protocol m)) ∧
      ((fromRawSocket .server).readMessage (fun _ => ⟨0, 0, 0, 0⟩)
        [⟨false, false, false, false, .data .text, some ⟨1, 2, 3, 4⟩, [105]⟩,
          ⟨true, false, false, false, .control .ping, some ⟨1, 2, 3, 4⟩, [5]⟩,
          ⟨true, false, false, false, .data .binary, some ⟨1, 2, 3, 4⟩, [6]⟩,
          ⟨true, false, false, false, .data .text, some ⟨1, 2, 3, 4⟩, [105]⟩]).1 ≠ .error eofError ∧
      ((fromRawSocket .server).readMessage (fun _ => ⟨0, 0, 0, 0⟩)
        [⟨false, false, false, false, .data .text, some ⟨1, 2, 3, 4⟩, [105]⟩,
          ⟨true, false, false, false, .control .ping, some ⟨1, 2, 3, 4⟩, [5]⟩,
          ⟨true, false, false, false, .data .binary, some ⟨1, 2, 3, 4⟩, [6]⟩,
          ⟨true, false, false, false, .data .text, some ⟨1, 2, 3, 4⟩, [105]⟩]).2.2 =
        [⟨true, false, false, false, .data .text, some ⟨1, 2, 3, 4⟩, [105]⟩] :=
  (incomplete_tracks_fragments (fun _ => ⟨0, 0, 0, 0⟩) (.init .server _) rfl (fun _ _ h => by cases h)
    ⟨[], .nil⟩).2.2
    [⟨false, false, false, false, .data .text, some ⟨1, 2, 3, 4⟩, [105]⟩,
      ⟨true, false, false, false, .control .ping, some ⟨1, 2, 3, 4⟩, [5]⟩]
    ⟨true, false, false, false, .data .binary, some ⟨1, 2, 3, 4⟩, [6]⟩
    [⟨true, false, false, false, .data .text, some ⟨1, 2, 3, 4⟩, [105]⟩] rfl
    (by simp [Frame.InStream, Frame.Accepted, Frame.IsPingPong, Frame.hasRsv, Frame.isMasked, fromRawSocket])
    (by simp) ((completable_iff _).2 (by decide)) (by rw [completable_iff]; decide)

/-- After a protocol error the message in progress outlives the data frames
that started it: a server reads a Text frame that is not final, then a Binary
frame, which is refused as interleaved. The server stays active, has read only
frames of the stream, and still holds the message the Text frame started,
though the data frames it read no longer end inside a message. -/
theorem incomplete_after_interleaving_error :
    Reachable (fun _ => ⟨0, 0, 0, 0⟩) ((fromRawSocket .server).call (fun _ => ⟨0, 0, 0, 0⟩)
      [⟨false, false, false, false, .data .text, some ⟨1, 2, 3, 4⟩, [105]⟩,
        ⟨true, false, false, false, .data .binary, some ⟨1, 2, 3, 4⟩, [6]⟩] .read).2.1 [] ∧
    (∃ m, ((fromRawSocket .server).call (fun _ => ⟨0, 0, 0, 0⟩)
      [⟨false, false, false, false, .data .text, some ⟨1, 2, 3, 4⟩, [105]⟩,
        ⟨true, false, false, false, .data .binary, some ⟨1, 2, 3, 4⟩, [6]⟩] .read).1 = .error (.protocol m)) ∧
    ((fromRawSocket .server).call (fun _ => ⟨0, 0, 0, 0⟩)
      [⟨false, false, false, false, .data .text, some ⟨1, 2, 3, 4⟩, [105]⟩,
        ⟨true, false, false, false, .data .binary, some ⟨1, 2, 3, 4⟩, [6]⟩] .read).2.1.state = .active ∧
    ReadsIn .server ((fromRawSocket .server).call (fun _ => ⟨0, 0, 0, 0⟩)
      [⟨false, false, false, false, .data .text, some ⟨1, 2, 3, 4⟩, [105]⟩,
        ⟨true, false, false, false, .data .binary, some ⟨1, 2, 3, 4⟩, [6]⟩] .read).2.1.socket ∧
    ((fromRawSocket .server).call (fun _ => ⟨0, 0, 0, 0⟩)
      [⟨false, false, false, false, .data .text, some ⟨1, 2, 3, 4⟩, [105]⟩,
        ⟨true, false, false, false, .data .binary, some ⟨1, 2, 3, 4⟩, [6]⟩] .read).2.1.incomplete.isSome = true ∧
    ¬ EndsInside (dataRead ((fromRawSocket .server).call (fun _ => ⟨0, 0, 0, 0⟩)
      [⟨false, false, false, false, .data .text, some ⟨1, 2, 3, 4⟩, [105]⟩,
        ⟨true, false, false, false, .data .binary, some ⟨1, 2, 3, 4⟩, [6]⟩] .read).2.1.socket) := by
  refine ⟨.call .read (.init .server _), ⟨_, rfl⟩, rfl, fun f s hf => ?_, rfl,
    fun he => absurd ((fragRun_eq_true_iff _).2 he) (by decide)⟩
  have hf' : SocketEvent.read f s ∈ [SocketEvent.read ⟨false, false, false, false, .data .text,
      some ⟨1, 2, 3, 4⟩, [105]⟩ .active, .read ⟨true, false, false, false, .data .binary,
      some ⟨1, 2, 3, 4⟩, [6]⟩ .active] := hf
  simp only [List.mem_cons, SocketEvent.read.injEq, List.not_mem_nil, or_false] at hf'
  rcases hf' with ⟨rfl, -⟩ | ⟨rfl, -⟩ <;> simp [Frame.InStream, Frame.Accepted, Frame.hasRsv, Frame.isMasked]

end WebSocket

end Tungstenite
