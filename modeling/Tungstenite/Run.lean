import Tungstenite.Protocol

/-!
# Runs of one endpoint

A run is a sequence of calls (`Op`) from `from_raw_socket`, with frames from
the peer arriving at any time (`Reachable`); `run` is a run on a fixed stream.
`readMessage_rel` is the induction over `read_message`'s loop, proved once:
what one turn of the loop keeps, a whole call keeps.

Between calls nothing waits to be sent (`reachable_quiet`), and every Pong the
socket wrote answers the Ping read just before it (`PongInv`).
-/

namespace Tungstenite

/-- A call the endpoint's user makes. -/
inductive Op
  | read
  | write (msg : Message)
  | close

/-- The frames in a socket's record that it wrote. -/
def writes (t : List SocketEvent) : List Frame :=
  t.filterMap fun | .write w => some w | .read _ _ => none

@[simp] theorem writes_append (t u : List SocketEvent) : writes (t ++ u) = writes t ++ writes u :=
  List.filterMap_append _ _ _

@[simp] theorem writes_read (f : Frame) (s : WebSocketState) : writes [.read f s] = [] := rfl

@[simp] theorem writes_write (f : Frame) : writes [.write f] = [f] := rfl

@[simp] theorem writes_map_write (fs : List Frame) : writes (fs.map .write) = fs := by
  induction fs with
  | nil => rfl
  | cons f fs ih => simpa [writes] using ih

namespace WebSocket

variable (gen : MaskGen)

/-- One call on the frames the socket has still to read: the message
`read_message` returns (none for the other calls) or the error, the endpoint
after the call and the frames left. -/
def call (ws : WebSocket) (input : List Frame) : Op → Except Error (Option Message) × WebSocket × List Frame
  | .read =>
    let r := ws.readMessage gen input
    (r.1.map some, r.2.1, r.2.2)
  | .write msg => (.ok none, ws.writeMessage gen msg, input)
  | .close => (.ok none, ws.close, input)

theorem call_read_ok {ws : WebSocket} {input : List Frame} {m : Message} :
    (ws.call gen input .read).1 = .ok (some m) ↔ (ws.readMessage gen input).1 = .ok m := by
  simp only [call]
  cases (ws.readMessage gen input).1 <;> simp [Except.map]

/-- A sequence of calls on a fixed stream: the results in order, then the
endpoint and the frames left. -/
def run (ws : WebSocket) (input : List Frame) :
    List Op → List (Except Error (Option Message)) × WebSocket × List Frame
  | [] => ([], ws, input)
  | op :: ops =>
    let c := ws.call gen input op
    let rs := c.2.1.run c.2.2 ops
    (c.1 :: rs.1, rs.2)

/-- The endpoints runs from `from_raw_socket` reach, with the frames the socket
has still to read; the peer may send more at any time. -/
inductive Reachable : WebSocket → List Frame → Prop
  | init (role : Role) (input : List Frame) : Reachable (fromRawSocket role) input
  | arrive {ws : WebSocket} {input : List Frame} (more : List Frame) :
      Reachable ws input → Reachable ws (input ++ more)
  | call {ws : WebSocket} {input : List Frame} (op : Op) :
      Reachable ws input → Reachable (ws.call gen input op).2.1 (ws.call gen input op).2.2

theorem Reachable.run {ws : WebSocket} {input : List Frame} (h : Reachable gen ws input) :
    ∀ ops, Reachable gen (ws.run gen input ops).2.1 (ws.run gen input ops).2.2
  | [] => h
  | op :: ops => (h.call op).run ops

/-- What one turn of `read_message`'s loop keeps (a flush, or a flush then a
frame read), a whole call keeps. -/
theorem readMessage_rel (P : WebSocket → WebSocket → Prop) (trans : ∀ {a b c}, P a b → P b c → P a c)
    (flush : ∀ a, P a (a.sendPending gen))
    (turn : ∀ a f, P a ((a.sendPending gen).readMessageFrame f).2) :
    ∀ (input : List Frame) (ws : WebSocket), P ws (ws.readMessage gen input).2.1
  | [], ws => flush ws
  | f :: rest, ws => by
    have h := turn ws f
    simp only [readMessage]
    split <;> rename_i heq <;> rw [heq] at h
    · exact h
    · exact h
    · exact trans h (readMessage_rel P trans flush turn rest _)

/-- The frames a call reads come off the front of the stream; what it leaves is
the rest. -/
theorem readMessage_rest (ws : WebSocket) :
    ∀ input : List Frame, ∃ pre, input = pre ++ (ws.readMessage gen input).2.2
  | [] => ⟨[], rfl⟩
  | f :: rest => by
    simp only [readMessage]
    split
    · exact ⟨[f], rfl⟩
    · exact ⟨[f], rfl⟩
    · rename_i ws' _
      obtain ⟨pre, h⟩ := readMessage_rest ws' rest
      exact ⟨f :: pre, by simp [← h]⟩

/-- A read call after its first turn: it returns that turn's error or
message, or goes on from the endpoint the turn left. -/
theorem readMessage_cons (ws : WebSocket) (f : Frame) (rest : List Frame) :
    ws.readMessage gen (f :: rest) =
      match ((ws.sendPending gen).readMessageFrame f).1 with
      | .error e => (.error e, ((ws.sendPending gen).readMessageFrame f).2, rest)
      | .ok (some msg) => (.ok msg, ((ws.sendPending gen).readMessageFrame f).2, rest)
      | .ok none => ((ws.sendPending gen).readMessageFrame f).2.readMessage gen rest := by
  simp only [readMessage]
  generalize (ws.sendPending gen).readMessageFrame f = p
  rcases p with ⟨e | _ | m, b⟩ <;> rfl

/-! ## Nothing waits between calls -/

/-- Neither a pong nor a queued frame waits to be sent. -/
def Quiet (ws : WebSocket) : Prop := ws.pong = none ∧ ws.sendQueue = []

theorem sendPending_of_quiet {ws : WebSocket} (h : Quiet ws) : ws.sendPending gen = ws := by
  obtain ⟨out, h₁, h₂⟩ := sendPending_spec gen ws
  rw [h.1, h.2] at h₂
  cases h₂
  obtain ⟨hp, hq⟩ := h
  rw [h₁]; cases ws; simp_all

theorem quiet_sendPending (ws : WebSocket) : Quiet (ws.sendPending gen) := ⟨by simp, by simp⟩

/-- A frame that does not let the loop go on changes neither the pong nor the
queue. -/
theorem readMessageFrame_quiet {ws : WebSocket} {f : Frame} (hq : Quiet ws)
    (hr : (ws.readMessageFrame f).1 ≠ .ok none) : Quiet (ws.readMessageFrame f).2 := by
  rcases readMessageFrame_cases ws f with h | ⟨-, -, h⟩ | ⟨h', -⟩ | ⟨h', -⟩
  · rw [h]; exact hq
  · rw [h]; exact hq
  all_goals exact absurd h' hr

/-- After `read_message` nothing waits to be sent. -/
theorem readMessage_quiet : ∀ (input : List Frame) (ws : WebSocket), Quiet (ws.readMessage gen input).2.1
  | [], ws => quiet_sendPending gen ws
  | f :: rest, ws => by
    simp only [readMessage]
    split <;> rename_i heq
    all_goals first
      | exact readMessage_quiet rest _
      | have := @readMessageFrame_quiet _ f (quiet_sendPending gen ws) (by rw [heq]; simp)
        rwa [heq] at this

theorem writeMessage_quiet (ws : WebSocket) (msg : Message) : Quiet (ws.writeMessage gen msg) :=
  quiet_sendPending gen _

theorem reachable_quiet {ws : WebSocket} {input : List Frame} (h : Reachable gen ws input) : Quiet ws := by
  induction h with
  | init role input => exact ⟨rfl, rfl⟩
  | arrive _ _ ih => exact ih
  | call op _ ih =>
    cases op with
    | read => exact readMessage_quiet gen _ _
    | write msg => exact writeMessage_quiet gen _ msg
    | close =>
      simp only [call, close]
      split <;> exact ih

theorem close_eq (ws : WebSocket) :
    ws.close = if ws.state = .active then { ws with state := .closedByUs } else ws := by
  unfold close; split <;> simp_all

@[simp] theorem close_socket (ws : WebSocket) : ws.close.socket = ws.socket := by
  unfold close; split <;> rfl

@[simp] theorem close_pong (ws : WebSocket) : ws.close.pong = ws.pong := by
  unfold close; split <;> rfl

@[simp] theorem close_sendQueue (ws : WebSocket) : ws.close.sendQueue = ws.sendQueue := by
  unfold close; split <;> rfl

@[simp] theorem close_role (ws : WebSocket) : ws.close.role = ws.role := by
  unfold close; split <;> rfl

end WebSocket

/-! ## Pongs answer pings -/

/-- Every Pong the record shows written follows, with nothing in between, the
read of a Ping made while active, and carries its unmasked payload. -/
def PongsAnswer (t : List SocketEvent) : Prop :=
  ∀ pre w post, t = pre ++ .write w :: post → w.opcode = .control .pong →
    ∃ pre' f, pre = pre' ++ [.read f .active] ∧ f.opcode = .control .ping ∧
      w.unmaskedPayload = f.unmaskedPayload

theorem PongsAnswer.snoc {t : List SocketEvent} {e : SocketEvent} (h : PongsAnswer t)
    (he : ∀ w, e = .write w → w.opcode = .control .pong → ∃ pre' f, t = pre' ++ [.read f .active] ∧
      f.opcode = .control .ping ∧ w.unmaskedPayload = f.unmaskedPayload) :
    PongsAnswer (t ++ [e]) := by
  intro pre w post heq hw
  rcases List.eq_nil_or_concat post with rfl | ⟨post', e', rfl⟩
  · obtain ⟨rfl, h₂⟩ := List.append_inj' heq rfl
    exact he w (by simpa using h₂) hw
  · rw [List.concat_eq_append, ← List.cons_append, ← List.append_assoc] at heq
    exact h pre w post' (List.append_inj' heq rfl).1 hw

theorem PongsAnswer.append_writes {t : List SocketEvent} {ws : List Frame} (h : PongsAnswer t)
    (hw : ∀ w ∈ ws, w.opcode ≠ .control .pong) : PongsAnswer (t ++ ws.map .write) := by
  induction ws generalizing t with
  | nil => simpa using h
  | cons w ws ih =>
    rw [List.map_cons, ← List.singleton_append, ← List.append_assoc]
    exact ih (h.snoc fun w' he hp => absurd (by cases he; exact hp) (hw w (List.mem_cons_self _ _)))
      fun w' hm => hw w' (List.mem_cons_of_mem _ hm)

/-- Written frames keep their opcodes. -/
theorem forall₂_written_opcode {role : Role} {fs out : List Frame}
    (h : List.Forall₂ (Written role) fs out) {w : Frame} (hw : w ∈ out) :
    ∃ g ∈ fs, w.opcode = g.opcode := by
  induction h with
  | nil => cases hw
  | cons hr _ ih =>
    rcases List.mem_cons.mp hw with rfl | hw
    · exact ⟨_, List.mem_cons_self _ _, hr.opcode⟩
    · obtain ⟨g, hg, he⟩ := ih hw
      exact ⟨g, List.mem_cons_of_mem _ hg, he⟩

/-- The invariant of reachable endpoints on pongs: the record's pongs answer
pings, a waiting pong answers the frame just read, and no Pong is queued. -/
structure PongInv (ws : WebSocket) : Prop where
  answers : PongsAnswer ws.socket
  fresh : ∀ p, ws.pong = some p → ∃ pre f, ws.socket = pre ++ [.read f .active] ∧
    f.opcode = .control .ping ∧ p = Frame.pong f.unmaskedPayload
  noPongQueued : ∀ g ∈ ws.sendQueue, g.opcode ≠ .control .pong

namespace WebSocket

variable (gen : MaskGen)

theorem sendPending_pongInv {ws : WebSocket} (h : PongInv ws) : PongInv (ws.sendPending gen) := by
  obtain ⟨out, h₁, h₂⟩ := sendPending_spec gen ws
  rw [h₁]
  refine ⟨?_, (fun p hp => by cases hp), (fun g hg => by cases hg)⟩
  show PongsAnswer (ws.socket ++ out.map .write)
  cases hp : ws.pong with
  | none =>
    rw [hp] at h₂
    refine h.answers.append_writes fun w hw => ?_
    obtain ⟨g, hg, he⟩ := forall₂_written_opcode h₂ hw
    exact he ▸ h.noPongQueued g (by simpa using hg)
  | some p =>
    rw [hp] at h₂
    obtain ⟨pre, f, hs, hf, rfl⟩ := h.fresh p hp
    cases h₂ with
    | cons hw h₂ =>
      rename_i w out
      rw [List.map_cons, ← List.singleton_append, ← List.append_assoc]
      refine (h.answers.snoc fun w' he _ => ?_).append_writes fun w' hw' => ?_
      · cases he
        exact ⟨pre, f, hs, hf, by rw [hw.unmaskedPayload]; rfl⟩
      · obtain ⟨g, hg, he⟩ := forall₂_written_opcode h₂ hw'
        exact he ▸ h.noPongQueued g hg

/-- One turn of the loop keeps the invariant: the frame read after the flush
may leave a pong answering it, or a Close reply in the queue. -/
theorem turn_pongInv {ws : WebSocket} (h : PongInv ws) (f : Frame) :
    PongInv ((ws.sendPending gen).readMessageFrame f).2 := by
  have h' := sendPending_pongInv gen h
  have hq := quiet_sendPending gen ws
  generalize ws.sendPending gen = b at h' hq
  have hb := @PongsAnswer.snoc _ (.read f b.state) h'.answers fun w he => by cases he
  have hnone : ∀ p, b.pong = some p → False := fun p hp => by rw [hq.1] at hp; cases hp
  rcases readMessageFrame_cases b f with he | ⟨-, -, he⟩ | ⟨-, -, -, r, -, hr, he⟩ | ⟨-, ha, hp, he⟩ <;>
    rw [he]
  · exact ⟨hb, fun p hp => (hnone p hp).elim, h'.noPongQueued⟩
  · exact ⟨hb, fun p hp => (hnone p hp).elim, h'.noPongQueued⟩
  · refine ⟨hb, fun p hp => (hnone p hp).elim, fun g hg => ?_⟩
    rcases List.mem_append.mp hg with hg | hg
    · exact h'.noPongQueued g hg
    · simp only [List.mem_singleton] at hg; subst hg; simp [hr]
  · exact ⟨hb, fun p hp' => ⟨b.socket, f, by simp [ha], hp, by cases hp'; rfl⟩,
      h'.noPongQueued⟩

theorem reachable_pongInv {ws : WebSocket} {input : List Frame} (h : Reachable gen ws input) :
    PongInv ws := by
  induction h with
  | init role input =>
    exact ⟨fun pre w post h => by simp [fromRawSocket] at h, (fun p hp => by cases hp),
      (fun g hg => by cases hg)⟩
  | arrive _ _ ih => exact ih
  | @call ws input op _ ih =>
    cases op with
    | read =>
      show PongInv (ws.readMessage gen input).2.1
      exact readMessage_rel gen (fun a b => PongInv a → PongInv b) (fun h₁ h₂ h => h₂ (h₁ h))
        (fun a => sendPending_pongInv gen) (fun a f h => turn_pongInv gen h f) input ws ih
    | write msg =>
      refine sendPending_pongInv gen ⟨ih.answers, ih.fresh, fun g hg => ?_⟩
      rcases List.mem_append.mp hg with hg | hg
      · exact ih.noPongQueued g hg
      · simp only [List.mem_singleton] at hg; subst hg
        cases msg <;> simp [Message.opData]
    | close => exact ⟨by simpa [call] using ih.answers, by simpa [call] using ih.fresh,
        by simpa [call] using ih.noPongQueued⟩

end WebSocket

/-! ## What `send_pending` writes -/

/-- What the peer reads of a frame the endpoint queued: its opcode, fin bit
and payload, masked exactly when the endpoint is a client. -/
def Sent (role : Role) (f w : Frame) : Prop :=
  w.opcode = f.opcode ∧ w.isFinal = f.isFinal ∧ (w.isMasked = true ↔ role = .client) ∧
    w.unmaskedPayload = f.payload

theorem Written.sent {role : Role} {f w : Frame} (hf : f.mask = none) (h : Written role f w) :
    Sent role f w := by
  refine ⟨h.opcode, h.isFinal, ?_, h.unmaskedPayload⟩
  cases role
  · simp [Frame.isMasked, h.mask.2 rfl, hf]
  · simp [h.mask.1 rfl]

/-- Nothing waiting to be sent carries a key: the endpoint builds every frame
it queues unmasked. -/
structure Unmasked (ws : WebSocket) : Prop where
  pong : ∀ p, ws.pong = some p → p.mask = none
  queue : ∀ g ∈ ws.sendQueue, g.mask = none

/-- The most recent Ping the record shows read while active. -/
def lastActivePing (t : List SocketEvent) : Option Frame :=
  t.foldl (fun acc e => match e with
    | .read f .active => if f.opcode = .control .ping then some f else acc
    | _ => acc) none

theorem lastActivePing_append_ping (pre : List SocketEvent) {f : Frame}
    (h : f.opcode = .control .ping) : lastActivePing (pre ++ [.read f .active]) = some f := by
  simp [lastActivePing, h]

namespace WebSocket

variable (gen : MaskGen)

theorem Quiet.unmasked {ws : WebSocket} (h : Quiet ws) : Unmasked ws :=
  ⟨(fun p hp => by rw [h.1] at hp; cases hp), (fun g hg => by rw [h.2] at hg; cases hg)⟩

/-- The endpoints `send_pending` is called on: by `read_message`, first on a
reachable endpoint, then after each frame that lets its loop go on; by
`write_message`, on a reachable endpoint with the message's frame queued. -/
inductive FlushPoint : WebSocket → Prop
  | read {ws : WebSocket} {input : List Frame} : Reachable gen ws input → FlushPoint ws
  | next {ws : WebSocket} (f : Frame) : FlushPoint ws →
      ((ws.sendPending gen).readMessageFrame f).1 = .ok none →
      FlushPoint ((ws.sendPending gen).readMessageFrame f).2
  | write {ws : WebSocket} {input : List Frame} (msg : Message) : Reachable gen ws input →
      FlushPoint { ws with sendQueue := ws.sendQueue ++ [Frame.message msg.intoData (.data msg.opData) true] }

/-- A frame read after a flush leaves at most a pong or a Close reply waiting,
both unmasked. -/
theorem turn_unmasked (ws : WebSocket) (f : Frame) :
    Unmasked ((ws.sendPending gen).readMessageFrame f).2 := by
  have hq := (quiet_sendPending gen ws).unmasked
  generalize ws.sendPending gen = b at hq
  rcases readMessageFrame_cases b f with he | ⟨-, -, he⟩ | ⟨-, -, -, r, hr, -, he⟩ | ⟨-, -, -, he⟩ <;>
    rw [he]
  · exact ⟨hq.pong, hq.queue⟩
  · exact ⟨hq.pong, hq.queue⟩
  · refine ⟨hq.pong, fun g hg => ?_⟩
    rcases List.mem_append.mp hg with hg | hg
    · exact hq.queue g hg
    · rw [List.mem_singleton.mp hg, hr]
  · exact ⟨(fun p hp => by cases hp; rfl), hq.queue⟩

theorem flushPoint_unmasked {ws : WebSocket} (h : FlushPoint gen ws) : Unmasked ws := by
  induction h with
  | read h => exact (reachable_quiet gen h).unmasked
  | next f _ _ _ => exact turn_unmasked gen _ f
  | write msg h =>
    have hq := reachable_quiet gen h
    refine ⟨hq.unmasked.pong, fun g hg => ?_⟩
    simp only [hq.2, List.nil_append, List.mem_singleton] at hg
    rw [hg]; rfl

/-- `send_pending` on frames queued unmasked writes the pong then the queue,
each as `Sent` says. -/
theorem sendPending_sent {ws : WebSocket} (h : Unmasked ws) :
    ∃ out, ws.sendPending gen =
        { ws with socket := ws.socket ++ out.map .write, pong := none, sendQueue := [] } ∧
      List.Forall₂ (Sent ws.role) (ws.pong.toList ++ ws.sendQueue) out := by
  obtain ⟨out, h₁, h₂⟩ := sendPending_spec gen ws
  have hm : ∀ g ∈ ws.pong.toList ++ ws.sendQueue, g.mask = none := by
    intro g hg
    rcases List.mem_append.mp hg with hg | hg
    · exact h.pong g (Option.mem_toList.mp hg)
    · exact h.queue g hg
  exact ⟨out, h₁, ((List.forall₂_and_left _ _).mpr ⟨hm, h₂⟩).imp fun _ _ h => h.2.sent h.1⟩

/-- Every Pong in a reachable endpoint's record answers the latest Ping read
while active before it. -/
theorem reachable_pong_lastActivePing {ws : WebSocket} {input : List Frame}
    (h : Reachable gen ws input) {pre post : List SocketEvent} {w : Frame}
    (hs : ws.socket = pre ++ .write w :: post) (hw : w.opcode = .control .pong) :
    ∃ f, lastActivePing pre = some f ∧ w.unmaskedPayload = f.unmaskedPayload := by
  obtain ⟨pre', f, rfl, hf, hp⟩ := (reachable_pongInv gen h).answers pre w post hs hw
  exact ⟨f, lastActivePing_append_ping pre' hf, hp⟩

theorem send_pending_writes_pong_then_queue :
    (∀ ws, Unmasked ws → ∃ out, ws.sendPending gen =
        { ws with socket := ws.socket ++ out.map .write, pong := none, sendQueue := [] } ∧
      List.Forall₂ (fun f w => w.opcode = f.opcode ∧ w.isFinal = f.isFinal ∧
        (w.isMasked = true ↔ ws.role = .client) ∧ w.unmaskedPayload = f.payload)
        (ws.pong.toList ++ ws.sendQueue) out) ∧
    (∀ ws, FlushPoint gen ws → ∃ out, ws.sendPending gen =
        { ws with socket := ws.socket ++ out.map .write, pong := none, sendQueue := [] } ∧
      List.Forall₂ (fun f w => w.opcode = f.opcode ∧ w.isFinal = f.isFinal ∧
        (w.isMasked = true ↔ ws.role = .client) ∧ w.unmaskedPayload = f.payload)
        (ws.pong.toList ++ ws.sendQueue) out) ∧
    (∀ ws input, Reachable gen ws input → ∀ pre w post, ws.socket = pre ++ .write w :: post →
      w.opcode = .control .pong →
      ∃ f, lastActivePing pre = some f ∧ w.unmaskedPayload = f.unmaskedPayload) :=
  ⟨fun _ h => sendPending_sent gen h, fun _ h => sendPending_sent gen (flushPoint_unmasked gen h),
    fun _ _ h _ _ _ hs hw => reachable_pong_lastActivePing gen h hs hw⟩

end WebSocket

end Tungstenite
