import Tungstenite.Assembly

/-!
# Two endpoints on one connection

A client and a server joined by two reliable in-order frame channels. Each
`End` holds its endpoint, the frames sent to it and not read yet, and the
messages its user passed to `write_message` and got back from
`read_message`. A step is one call on one side (`End.act`); the frames the
call writes go to the other side's channel.

* `link_delivers_in_order`: with reads and writes only, each side reads
  exactly the messages the other wrote, in order, every frame in flight
  is one its receiver accepts, and a read with a frame waiting returns the
  first message still to be read;
* `close_leaves_peer_active`: `close` sends nothing, so a client that closed
  and a server still active sit with nothing left to send or read.
-/

namespace Tungstenite

open WebSocket

/-- One side of the connection. -/
structure End where
  ep : WebSocket
  inbox : List Frame
  sent : List Message
  received : List Message

/-- The frames the endpoint wrote between `before` and `after`. -/
def newWrites (before after : WebSocket) : List Frame :=
  (writes after.socket).drop (writes before.socket).length

/-- The message the call's user passed to `write_message`. -/
def Op.sent : Op → List Message
  | .write msg => [msg]
  | _ => []

/-- The message a call returned. -/
def returned : Except Error (Option Message) → List Message
  | .ok (some msg) => [msg]
  | _ => []

/-- A call on `a`'s endpoint, reading from `a`'s channel; what it writes goes
to `b`'s. -/
def End.act (gen : MaskGen) (a b : End) (op : Op) : End × End :=
  let c := a.ep.call gen a.inbox op
  (⟨c.2.1, c.2.2, a.sent ++ op.sent, a.received ++ returned c.1⟩,
    { b with inbox := b.inbox ++ newWrites a.ep c.2.1 })

/-- The connection. -/
structure Link where
  client : End
  server : End

/-- Who makes a call. -/
inductive Side
  | client
  | server

namespace Link

/-- Both endpoints fresh from `from_raw_socket`, nothing sent. -/
def init : Link := ⟨⟨fromRawSocket .client, [], [], []⟩, ⟨fromRawSocket .server, [], [], []⟩⟩

/-- One call on one side. -/
def step (gen : MaskGen) (l : Link) : Side → Op → Link
  | .client, op => ⟨(l.client.act gen l.server op).1, (l.client.act gen l.server op).2⟩
  | .server, op => ⟨(l.server.act gen l.client op).2, (l.server.act gen l.client op).1⟩

/-- An interleaving of calls. -/
def run (gen : MaskGen) (l : Link) : List (Side × Op) → Link
  | [] => l
  | (side, op) :: rest => (l.step gen side op).run gen rest

end Link

/-- `a`'s messages not read by `b` yet are in `b`'s channel, in order, each
as `a` wrote it. -/
def Flows (a b : End) : Prop :=
  ∃ pending, a.sent = b.received ++ pending ∧
    List.Forall₂ (fun m w => Written a.ep.role (Frame.message m.intoData (.data m.opData) true) w)
      pending b.inbox

/-- An end between calls: active, with nothing to send and no message in
progress. -/
structure End.Ready (e : End) : Prop where
  quiet : e.ep.Quiet
  active : e.ep.state = .active
  idle : e.ep.incomplete = none

/-- The invariant of a connection on which only reads and writes are made. -/
structure LinkInv (l : Link) : Prop where
  client : l.client.Ready
  server : l.server.Ready
  clientRole : l.client.ep.role = .client
  serverRole : l.server.ep.role = .server
  toServer : Flows l.client l.server
  toClient : Flows l.server l.client

/-- A frame the endpoint builds, as the other role reads it, passes the
other role's first checks. -/
theorem Written.accepted {role role' : Role} {f w : Frame} (hw : Written role f w) (hr : role ≠ role')
    (hm : f.mask = none) (hrsv : f.hasRsv = false) : w.Accepted role' := by
  refine ⟨hw.hasRsv.trans hrsv, ?_⟩
  cases role <;> cases role'
  · exact absurd rfl hr
  · simp [Frame.isMasked, hw.mask.2 rfl, hm]
  · simp [hw.mask.1 rfl]
  · exact absurd rfl hr

theorem newWrites_recordRead (ws : WebSocket) (f : Frame) : newWrites ws (ws.recordRead f) = [] := by
  simp [newWrites]

/-- A frame of the other role's `write_message` is read back as its message. -/
theorem readMessage_written (gen : MaskGen) {ws : WebSocket} {role : Role} {msg : Message} {w : Frame}
    (hq : ws.Quiet) (ha : ws.state = .active) (hi : ws.incomplete = none) (hr : role ≠ ws.role)
    (hw : Written role (Frame.message msg.intoData (.data msg.opData) true) w) (rest : List Frame) :
    ws.readMessage gen (w :: rest) = (.ok msg, ws.recordRead w, rest) := by
  obtain ⟨k, hk⟩ : ∃ k, IncompleteMessageType.ofOpData msg.opData = some k := by
    cases msg <;> exact ⟨_, rfl⟩
  have ht := turn_start gen (hw.accepted hr rfl rfl) hw.opcode hk ha hi
  rw [hw.isFinal, Frame.message_isFinal, if_pos rfl, hw.unmaskedPayload, Frame.message_payload,
    IncompleteMessage.complete_of_message msg k hk, sendPending_of_quiet gen hq] at ht
  have h' : ((ws.sendPending gen).readMessageFrame w).1 = (Except.ok msg : Except Error Message).map some := by
    rw [sendPending_of_quiet gen hq, ht]
  rw [readMessage_of_turn gen h', sendPending_of_quiet gen hq, ht]

/-- An endpoint with nothing waiting writes one frame per message. -/
theorem writeMessage_of_quiet (gen : MaskGen) {ws : WebSocket} (hq : ws.Quiet) (msg : Message) :
    ∃ w, Written ws.role (Frame.message msg.intoData (.data msg.opData) true) w ∧
      ws.writeMessage gen msg = { ws with socket := ws.socket ++ [.write w] } := by
  obtain ⟨out, h₁, h₂⟩ := sendPending_spec gen
    { ws with sendQueue := ws.sendQueue ++ [Frame.message msg.intoData (.data msg.opData) true] }
  simp only [hq.1, hq.2, Option.toList_none, List.nil_append] at h₂
  obtain _ | ⟨hw, _ | _⟩ := h₂
  rename_i w
  refine ⟨w, hw, ?_⟩
  obtain ⟨hp, hs⟩ := hq
  rw [writeMessage, h₁]
  cases ws
  simp_all

theorem newWrites_snoc (ws : WebSocket) (w : Frame) :
    newWrites ws { ws with socket := ws.socket ++ [.write w] } = [w] := by
  simp [newWrites]

/-- A read on an end whose channel starts with a frame of the other role's
`write_message` returns that frame's message and takes the frame off. -/
theorem act_read_written (gen : MaskGen) {a b : End} (ha : a.Ready) {role : Role} (hr : role ≠ a.ep.role)
    {m : Message} {w : Frame} {rest : List Frame} (hi : a.inbox = w :: rest)
    (hw : Written role (Frame.message m.intoData (.data m.opData) true) w) :
    a.act gen b .read = (⟨a.ep.recordRead w, rest, a.sent, a.received ++ [m]⟩, b) := by
  have e := readMessage_written gen ha.quiet ha.active ha.idle hr hw rest
  simp [End.act, call, hi, e, newWrites_recordRead, Op.sent, returned, Except.map]

/-- One read or write on one side keeps both directions flowing. -/
theorem act_keeps (gen : MaskGen) {a b : End} (ha : a.Ready) (hb : b.Ready) (hr : a.ep.role ≠ b.ep.role)
    (hab : Flows a b) (hba : Flows b a) {op : Op} (hop : op ≠ .close) :
    (a.act gen b op).1.Ready ∧ (a.act gen b op).2.Ready ∧ (a.act gen b op).1.ep.role = a.ep.role ∧
      (a.act gen b op).2.ep.role = b.ep.role ∧ Flows (a.act gen b op).1 (a.act gen b op).2 ∧
      Flows (a.act gen b op).2 (a.act gen b op).1 := by
  obtain ⟨pa, hsa, hfa⟩ := hab
  obtain ⟨pb, hsb, hfb⟩ := hba
  cases op with
  | close => exact absurd rfl hop
  | write msg =>
    obtain ⟨w, hw, e⟩ := writeMessage_of_quiet gen ha.quiet msg
    have hact : a.act gen b (.write msg) = (⟨{ a.ep with socket := a.ep.socket ++ [.write w] }, a.inbox,
        a.sent ++ [msg], a.received⟩, { b with inbox := b.inbox ++ [w] }) := by
      simp [End.act, call, e, newWrites_snoc, Op.sent, returned]
    rw [hact]
    exact ⟨⟨ha.quiet, ha.active, ha.idle⟩, ⟨hb.quiet, hb.active, hb.idle⟩, rfl, rfl,
      ⟨pa ++ [msg], by rw [hsa, List.append_assoc], List.rel_append hfa (.cons hw .nil)⟩,
      ⟨pb, hsb, hfb⟩⟩
  | read =>
    cases hi : a.inbox with
    | nil =>
      have hact : a.act gen b .read = (⟨a.ep, [], a.sent, a.received⟩, b) := by
        simp [End.act, call, hi, readMessage, sendPending_of_quiet gen ha.quiet, newWrites, Op.sent,
          returned, Except.map]
      rw [hact]
      exact ⟨⟨ha.quiet, ha.active, ha.idle⟩, hb, rfl, rfl, ⟨pa, hsa, hfa⟩, ⟨pb, hsb, hi ▸ hfb⟩⟩
    | cons w rest =>
      rw [hi] at hfb
      obtain _ | ⟨hw, hfb'⟩ := hfb
      rename_i m pb'
      rw [act_read_written gen ha (Ne.symm hr) hi hw]
      exact ⟨⟨ha.quiet, ha.active, ha.idle⟩, hb, rfl, rfl, ⟨pa, hsa, hfa⟩,
        ⟨pb', by rw [hsb, List.append_assoc]; rfl, hfb'⟩⟩

namespace Link

variable (gen : MaskGen)

theorem linkInv_init : LinkInv init :=
  ⟨⟨⟨rfl, rfl⟩, rfl, rfl⟩, ⟨⟨rfl, rfl⟩, rfl, rfl⟩, rfl, rfl, ⟨[], rfl, .nil⟩, ⟨[], rfl, .nil⟩⟩

theorem step_linkInv {l : Link} (h : LinkInv l) (side : Side) {op : Op} (hop : op ≠ .close) :
    LinkInv (l.step gen side op) := by
  have hr : l.client.ep.role ≠ l.server.ep.role := by rw [h.clientRole, h.serverRole]; decide
  cases side with
  | client =>
    obtain ⟨h₁, h₂, h₃, h₄, h₅, h₆⟩ := act_keeps gen h.client h.server hr h.toServer h.toClient hop
    exact ⟨h₁, h₂, h₃.trans h.clientRole, h₄.trans h.serverRole, h₅, h₆⟩
  | server =>
    obtain ⟨h₁, h₂, h₃, h₄, h₅, h₆⟩ := act_keeps gen h.server h.client (Ne.symm hr) h.toClient h.toServer hop
    exact ⟨h₂, h₁, h₄.trans h.clientRole, h₃.trans h.serverRole, h₆, h₅⟩

theorem run_linkInv : ∀ {l : Link} (sched : List (Side × Op)), LinkInv l → (∀ x ∈ sched, x.2 ≠ .close) →
    LinkInv (l.run gen sched)
  | _, [], h, _ => h
  | _, (side, _) :: rest, h, hs =>
    run_linkInv rest (step_linkInv gen h side (hs _ (List.mem_cons_self _ _)))
      fun x hx => hs x (List.mem_cons_of_mem _ hx)

theorem link_delivers_in_order (sched : List (Side × Op)) (h : ∀ x ∈ sched, x.2 ≠ .close) :
    (init.run gen sched).client.ep.state = .active ∧ (init.run gen sched).server.ep.state = .active ∧
    (∃ pending, (init.run gen sched).client.sent = (init.run gen sched).server.received ++ pending ∧
      List.Forall₂ (fun m w => w.Accepted .server ∧ w.isMasked = true ∧ w.opcode = .data m.opData ∧
        w.isFinal = true ∧ w.unmaskedPayload = m.intoData) pending (init.run gen sched).server.inbox ∧
      ∀ m ms, pending = m :: ms →
        ((init.run gen sched).server.act gen (init.run gen sched).client .read).1.received =
          (init.run gen sched).server.received ++ [m]) ∧
    (∃ pending, (init.run gen sched).server.sent = (init.run gen sched).client.received ++ pending ∧
      List.Forall₂ (fun m w => w.Accepted .client ∧ w.isMasked = false ∧ w.opcode = .data m.opData ∧
        w.isFinal = true ∧ w.unmaskedPayload = m.intoData) pending (init.run gen sched).client.inbox ∧
      ∀ m ms, pending = m :: ms →
        ((init.run gen sched).client.act gen (init.run gen sched).server .read).1.received =
          (init.run gen sched).client.received ++ [m]) := by
  have hi := run_linkInv gen sched linkInv_init h
  obtain ⟨pc, hsc, hfc⟩ := hi.toServer
  obtain ⟨ps, hss, hfs⟩ := hi.toClient
  refine ⟨hi.client.active, hi.server.active, ⟨pc, hsc, hfc.imp fun m w hw => ?_, fun m ms hp => ?_⟩,
    ⟨ps, hss, hfs.imp fun m w hw => ?_, fun m ms hp => ?_⟩⟩
  · exact ⟨hw.accepted (by rw [hi.clientRole]; decide) rfl rfl, hw.mask.1 hi.clientRole, hw.opcode,
      hw.isFinal, hw.unmaskedPayload⟩
  · subst hp
    obtain ⟨w, rest, hw, -, hin⟩ := List.forall₂_cons_left_iff.mp hfc
    rw [act_read_written gen hi.server (by rw [hi.clientRole, hi.serverRole]; decide) hin hw]
  · exact ⟨hw.accepted (by rw [hi.serverRole]; decide) rfl rfl,
      by simp [Frame.isMasked, hw.mask.2 hi.serverRole], hw.opcode, hw.isFinal, hw.unmaskedPayload⟩
  · subst hp
    obtain ⟨w, rest, hw, -, hin⟩ := List.forall₂_cons_left_iff.mp hfs
    rw [act_read_written gen hi.client (by rw [hi.clientRole, hi.serverRole]; decide) hin hw]

/-- A client writes two messages and the server reads once: the server's
next read returns the second. -/
theorem link_delivers_in_order_next_read :
    ((init.run (fun _ => ⟨1, 2, 3, 4⟩)
        [(.client, .write (.binary [7])), (.client, .write (.binary [8])), (.server, .read)]).server.act
      (fun _ => ⟨1, 2, 3, 4⟩)
      (init.run (fun _ => ⟨1, 2, 3, 4⟩)
        [(.client, .write (.binary [7])), (.client, .write (.binary [8])), (.server, .read)]).client
      .read).1.received = [.binary [7], .binary [8]] := by
  obtain ⟨-, -, ⟨p, hs, -, hn⟩, -⟩ := link_delivers_in_order (fun _ => ⟨1, 2, 3, 4⟩)
    [(.client, .write (.binary [7])), (.client, .write (.binary [8])), (.server, .read)] (by simp)
  have hs' : [Message.binary [7], .binary [8]] = [.binary [7]] ++ p := hs
  rw [hn _ [] (by simpa using hs'.symm)]
  rfl

/-- A client closes: nothing is left to send or read, the client is no longer
active and the server still is. -/
theorem close_leaves_peer_active :
    (init.run (fun _ => ⟨0, 0, 0, 0⟩) [(.client, .close)]).client.ep.sendQueue = [] ∧
    (init.run (fun _ => ⟨0, 0, 0, 0⟩) [(.client, .close)]).server.ep.sendQueue = [] ∧
    (init.run (fun _ => ⟨0, 0, 0, 0⟩) [(.client, .close)]).client.ep.pong = none ∧
    (init.run (fun _ => ⟨0, 0, 0, 0⟩) [(.client, .close)]).server.ep.pong = none ∧
    (init.run (fun _ => ⟨0, 0, 0, 0⟩) [(.client, .close)]).client.inbox = [] ∧
    (init.run (fun _ => ⟨0, 0, 0, 0⟩) [(.client, .close)]).server.inbox = [] ∧
    ¬ ((init.run (fun _ => ⟨0, 0, 0, 0⟩) [(.client, .close)]).client.ep.state = .active ↔
      (init.run (fun _ => ⟨0, 0, 0, 0⟩) [(.client, .close)]).server.ep.state = .active) := by
  decide

end Link

end Tungstenite
