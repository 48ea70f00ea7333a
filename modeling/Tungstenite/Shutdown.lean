import Tungstenite.Link
import Tungstenite.Closing

/-!
# Closing one side of a connection

The connection of `Tungstenite.Link` under any schedule of calls, `close`
included. `close` sends nothing, and no call writes anything but the data
frames of `write_message`: no Close, Ping or Pong ever crosses the connection,
so each side leaves Active exactly when its own user calls `close`. A side
that has closed goes on reading and drops every data frame (no data
processing while closing). So what each side reads is a prefix of what the
other wrote, in order, and messages are lost only at a side that has closed:

* `End.Settled`, `Drains`: the invariant of one side and of one direction;
* `act_settles`: one call of any kind on one side keeps them;
* `link_reads_prefix_of_writes`: they hold over every schedule.
-/

namespace Tungstenite

open WebSocket

/-- Every frame the endpoint wrote is a final Text or Binary frame. -/
def WritesData (ws : WebSocket) : Prop :=
  ∀ w, SocketEvent.write w ∈ ws.socket → w.isFinal = true ∧ (w.opcode = .data .text ∨ w.opcode = .data .binary)

@[simp] theorem writes_map_read (fs : List Frame) (s : WebSocketState) :
    writes (fs.map fun f => .read f s) = [] := by
  simp [writes]

/-- Frames read add nothing the endpoint wrote. -/
theorem WritesData.append_reads {ws : WebSocket} (h : WritesData ws) (s : WebSocketState) (read : List Frame) :
    WritesData { ws with socket := ws.socket ++ read.map fun f => .read f s } := by
  intro w hw
  rcases List.mem_append.mp hw with hw | hw
  · exact h w hw
  · simp at hw

/-- An end between calls when `close` may be called: nothing to send, no
message in progress, active or closed by its own user, and nothing written but
data frames. -/
structure End.Settled (e : End) : Prop where
  quiet : e.ep.Quiet
  idle : e.ep.incomplete = none
  state : e.ep.state = .active ∨ e.ep.state = .closedByUs
  data : WritesData e.ep

/-- `a`'s messages are those `b` read, in order, then those `b` dropped, then
those in `b`'s channel, each as `a` wrote it; `b` drops none while active. -/
def Drains (a b : End) : Prop :=
  ∃ lost pending, a.sent = b.received ++ lost ++ pending ∧
    List.Forall₂ (fun m w => Written a.ep.role (Frame.message m.intoData (.data m.opData) true) w)
      pending b.inbox ∧
    (b.ep.state = .active → lost = [])

/-- The other side of a call keeps its endpoint, so stays settled. -/
theorem End.Settled.act {b : End} (hb : b.Settled) (gen : MaskGen) (a : End) (op : Op) :
    (a.act gen b op).2.Settled :=
  ⟨hb.quiet, hb.idle, hb.state, hb.data⟩

/-- A read that returns no message adds none to the end's record. -/
theorem returned_map_some {r : Except Error Message} (h : ∀ m, r ≠ .ok m) : returned (r.map some) = [] := by
  cases r with
  | error e => rfl
  | ok m => exact absurd rfl (h m)

/-- A read on a side that has closed: every frame in its channel up to the
end of the stream is read and dropped, and nothing is written. -/
theorem act_read_closed (gen : MaskGen) {a b : End} (ha : a.Settled) (hs : a.ep.state = .closedByUs) :
    ∃ (read pre : List Frame), a.inbox = pre ++ (a.act gen b .read).1.inbox ∧
      a.act gen b .read = (⟨{ a.ep with socket := a.ep.socket ++ read.map fun f => .read f a.ep.state },
        (a.act gen b .read).1.inbox, a.sent, a.received⟩, b) := by
  have hna : a.ep.state ≠ .active := by rw [hs]; decide
  obtain ⟨read, h₁, h₂⟩ := readMessage_of_inactive gen hna ha.quiet a.inbox
  obtain ⟨pre, hpre⟩ := readMessage_rest gen a.ep a.inbox
  refine ⟨read, pre, hpre, ?_⟩
  simp [End.act, call, h₁, returned_map_some h₂, newWrites, Op.sent]

/-- One call of any kind on `a`, the other side `b`: `a` stays settled with
its role, leaves Active exactly by `close`, and both directions drain. -/
theorem act_settles (gen : MaskGen) {a b : End} (ha : a.Settled) (hr : a.ep.role ≠ b.ep.role)
    (hab : Drains a b) (hba : Drains b a) (op : Op) :
    (a.act gen b op).1.Settled ∧ (a.act gen b op).1.ep.role = a.ep.role ∧
      ((a.act gen b op).1.ep.state = .active ↔ a.ep.state = .active ∧ op ≠ .close) ∧
      Drains (a.act gen b op).1 (a.act gen b op).2 ∧ Drains (a.act gen b op).2 (a.act gen b op).1 := by
  obtain ⟨la, pa, hsa, hfa, hla⟩ := hab
  obtain ⟨lb, pb, hsb, hfb, hlb⟩ := hba
  cases op with
  | write msg =>
    obtain ⟨w, hw, e⟩ := writeMessage_of_quiet gen ha.quiet msg
    have hact : a.act gen b (.write msg) = (⟨{ a.ep with socket := a.ep.socket ++ [.write w] }, a.inbox,
        a.sent ++ [msg], a.received⟩, { b with inbox := b.inbox ++ [w] }) := by
      simp [End.act, call, e, newWrites_snoc, Op.sent, returned]
    rw [hact]
    refine ⟨⟨ha.quiet, ha.idle, ha.state, fun w' hw' => ?_⟩, rfl, by simp,
      ⟨la, pa ++ [msg], by rw [hsa, List.append_assoc], List.rel_append hfa (.cons hw .nil), hla⟩,
      ⟨lb, pb, hsb, hfb, hlb⟩⟩
    rcases List.mem_append.mp hw' with hw' | hw'
    · exact ha.data w' hw'
    · simp only [List.mem_singleton, SocketEvent.write.injEq] at hw'
      subst hw'
      rw [hw.isFinal, hw.opcode]
      cases msg <;> simp [Message.opData]
  | close =>
    have hact : a.act gen b .close = (⟨a.ep.close, a.inbox, a.sent, a.received⟩, b) := by
      simp [End.act, call, newWrites, Op.sent, returned]
    rw [hact, close_eq]
    rcases ha.state with hs | hs
    · rw [if_pos hs]
      exact ⟨⟨ha.quiet, ha.idle, .inr rfl, ha.data⟩, rfl, by simp, ⟨la, pa, hsa, hfa, hla⟩,
        ⟨lb, pb, hsb, hfb, by simp⟩⟩
    · rw [if_neg (by rw [hs]; decide)]
      exact ⟨ha, rfl, by simp [hs], ⟨la, pa, hsa, hfa, hla⟩, ⟨lb, pb, hsb, hfb, hlb⟩⟩
  | read =>
    rcases ha.state with hs | hs
    · cases hi : a.inbox with
      | nil =>
        have hact : a.act gen b .read = (⟨a.ep, [], a.sent, a.received⟩, b) := by
          simp [End.act, call, hi, readMessage, sendPending_of_quiet gen ha.quiet, newWrites, Op.sent,
            returned, Except.map]
        rw [hact]
        exact ⟨⟨ha.quiet, ha.idle, ha.state, ha.data⟩, rfl, by simp [hs], ⟨la, pa, hsa, hfa, hla⟩,
          ⟨lb, pb, hsb, hi ▸ hfb, hlb⟩⟩
      | cons w rest =>
        rw [hi] at hfb
        rw [hlb hs] at hsb
        obtain _ | ⟨hw, hfb'⟩ := hfb
        rename_i m pb'
        have e := readMessage_written gen ha.quiet hs ha.idle (Ne.symm hr) hw rest
        have hact : a.act gen b .read = (⟨a.ep.recordRead w, rest, a.sent, a.received ++ [m]⟩, b) := by
          simp [End.act, call, hi, e, newWrites_recordRead, Op.sent, returned, Except.map]
        rw [hact]
        refine ⟨⟨ha.quiet, ha.idle, ha.state, ?_⟩, rfl, by simp [hs], ⟨la, pa, hsa, hfa, hla⟩,
          ⟨[], pb', by rw [hsb]; simp, hfb', fun _ => rfl⟩⟩
        simpa [recordRead] using ha.data.append_reads a.ep.state [w]
    · obtain ⟨read, pre, hpre, hact⟩ := act_read_closed gen (b := b) ha hs
      rw [hact]
      rw [hpre] at hfb
      refine ⟨⟨ha.quiet, ha.idle, ha.state, ha.data.append_reads _ read⟩, rfl, by simp [hs],
        ⟨la, pa, hsa, hfa, hla⟩,
        ⟨lb ++ pb.take pre.length, pb.drop pre.length, ?_, List.forall₂_drop_append _ _ _ hfb,
          fun h => absurd (h.symm.trans hs) (by decide)⟩⟩
      rw [hsb]
      simp

namespace Link

variable (gen : MaskGen)

/-- The invariant of a connection under any calls. -/
structure ShutInv (l : Link) : Prop where
  client : l.client.Settled
  server : l.server.Settled
  clientRole : l.client.ep.role = .client
  serverRole : l.server.ep.role = .server
  toServer : Drains l.client l.server
  toClient : Drains l.server l.client

theorem shutInv_init : ShutInv init :=
  ⟨⟨⟨rfl, rfl⟩, rfl, .inl rfl, fun _ h => nomatch h⟩, ⟨⟨rfl, rfl⟩, rfl, .inl rfl, fun _ h => nomatch h⟩,
    rfl, rfl, ⟨[], [], rfl, .nil, fun _ => rfl⟩, ⟨[], [], rfl, .nil, fun _ => rfl⟩⟩

/-- One call keeps the invariant; only the caller's own `close` changes a
state. -/
theorem step_shutInv {l : Link} (h : ShutInv l) (side : Side) (op : Op) :
    ShutInv (l.step gen side op) ∧
      ((l.step gen side op).client.ep.state = .active ↔
        l.client.ep.state = .active ∧ (side, op) ≠ (.client, .close)) ∧
      ((l.step gen side op).server.ep.state = .active ↔
        l.server.ep.state = .active ∧ (side, op) ≠ (.server, .close)) := by
  have hr : l.client.ep.role ≠ l.server.ep.role := by rw [h.clientRole, h.serverRole]; decide
  cases side with
  | client =>
    obtain ⟨h₁, h₂, h₃, h₄, h₅⟩ := act_settles gen h.client hr h.toServer h.toClient op
    exact ⟨⟨h₁, h.server.act gen _ op, h₂.trans h.clientRole, h.serverRole, h₄, h₅⟩, by simpa using h₃,
      by simp [step, End.act]⟩
  | server =>
    obtain ⟨h₁, h₂, h₃, h₄, h₅⟩ := act_settles gen h.server (Ne.symm hr) h.toClient h.toServer op
    exact ⟨⟨h.client.act gen _ op, h₁, h.clientRole, h₂.trans h.serverRole, h₅, h₄⟩,
      by simp [step, End.act], by simpa using h₃⟩

theorem run_shutInv : ∀ {l : Link} (sched : List (Side × Op)), ShutInv l →
    ShutInv (l.run gen sched) ∧
      ((l.run gen sched).client.ep.state = .active ↔
        l.client.ep.state = .active ∧ (Side.client, Op.close) ∉ sched) ∧
      ((l.run gen sched).server.ep.state = .active ↔
        l.server.ep.state = .active ∧ (Side.server, Op.close) ∉ sched)
  | _, [], h => ⟨h, by simp [run], by simp [run]⟩
  | _, (side, op) :: rest, h => by
    obtain ⟨h', hc, hs⟩ := step_shutInv gen h side op
    obtain ⟨h'', hc', hs'⟩ := run_shutInv rest h'
    refine ⟨h'', hc'.trans ?_, hs'.trans ?_⟩
    · rw [hc, List.mem_cons, not_or, and_assoc, ne_comm]
    · rw [hs, List.mem_cons, not_or, and_assoc, ne_comm]

/-- Two endpoints under any schedule of reads, writes and closes on either
side. Each side is active exactly until its own user calls `close`: no Close
frame ever crosses, for `close` sends none. What each side reads is what the
other wrote, in order, but for messages it dropped, which it drops only once
it has closed, and those still in its channel, which it accepts and would read
back as written. Every frame either side writes is a final Text or Binary
frame. -/
theorem link_reads_prefix_of_writes (sched : List (Side × Op)) :
    ((init.run gen sched).client.ep.state = .active ↔ (Side.client, Op.close) ∉ sched) ∧
    ((init.run gen sched).server.ep.state = .active ↔ (Side.server, Op.close) ∉ sched) ∧
    (∃ lost pending, (init.run gen sched).client.sent = (init.run gen sched).server.received ++ lost ++ pending ∧
      List.Forall₂ (fun m w => w.Accepted .server ∧ w.isMasked = true ∧ w.opcode = .data m.opData ∧
        w.isFinal = true ∧ w.unmaskedPayload = m.intoData) pending (init.run gen sched).server.inbox ∧
      ((Side.server, Op.close) ∉ sched → lost = [])) ∧
    (∃ lost pending, (init.run gen sched).server.sent = (init.run gen sched).client.received ++ lost ++ pending ∧
      List.Forall₂ (fun m w => w.Accepted .client ∧ w.isMasked = false ∧ w.opcode = .data m.opData ∧
        w.isFinal = true ∧ w.unmaskedPayload = m.intoData) pending (init.run gen sched).client.inbox ∧
      ((Side.client, Op.close) ∉ sched → lost = [])) ∧
    WritesData (init.run gen sched).client.ep ∧ WritesData (init.run gen sched).server.ep := by
  obtain ⟨hi, hc, hs⟩ := run_shutInv gen sched shutInv_init
  have hc' : (init.run gen sched).client.ep.state = .active ↔ (Side.client, Op.close) ∉ sched := by
    simpa [init, fromRawSocket] using hc
  have hs' : (init.run gen sched).server.ep.state = .active ↔ (Side.server, Op.close) ∉ sched := by
    simpa [init, fromRawSocket] using hs
  obtain ⟨lc, pc, hsc, hfc, hlc⟩ := hi.toServer
  obtain ⟨ls, ps, hss, hfs, hls⟩ := hi.toClient
  refine ⟨hc', hs', ⟨lc, pc, hsc, hfc.imp fun m w hw => ?_, fun h => hlc (hs'.mpr h)⟩,
    ⟨ls, ps, hss, hfs.imp fun m w hw => ?_, fun h => hls (hc'.mpr h)⟩, hi.client.data, hi.server.data⟩
  · exact ⟨hw.accepted (by rw [hi.clientRole]; decide) rfl rfl, hw.mask.1 hi.clientRole, hw.opcode,
      hw.isFinal, hw.unmaskedPayload⟩
  · exact ⟨hw.accepted (by rw [hi.serverRole]; decide) rfl rfl,
      by simp [Frame.isMasked, hw.mask.2 hi.serverRole], hw.opcode, hw.isFinal, hw.unmaskedPayload⟩

end Link

end Tungstenite
