import Tungstenite.Run

/-!
# The closing handshake

The state leaves Active at most once, by `close` or by a Close read while
active, and then stays; an endpoint that is not active reads frames without
effect and returns no message (`state_leaves_active_once`).

`write_message` checks no state: an endpoint that answered its peer's Close
still writes the data frames it is given after the reply
(`server_writes_data_after_close_reply`). Such a call comes after an error,
since the read call that answers the Close always ends in one: under the
specification's policy on errors, which allows only `close` after one, the
Close is the last frame written (`close_written_last`).

The end of the stream is the reset error whatever was read or written before:
after a complete closing handshake it is not reported as a clean close
(`eof_after_closing_handshake`).
-/

namespace Tungstenite

namespace WebSocket

variable (gen : MaskGen)

/-- A read call on an endpoint that is not active writes nothing and changes
nothing but its record of reads; it ends in an error. -/
theorem readMessage_of_inactive {ws : WebSocket} (h : ws.state ≠ .active) (hq : Quiet ws) :
    ∀ input, ∃ read : List Frame, (ws.readMessage gen input).2.1 =
        { ws with socket := ws.socket ++ read.map fun f => .read f ws.state } ∧
      ∀ m, (ws.readMessage gen input).1 ≠ .ok m
  | [] => ⟨[], by simp [readMessage, sendPending_of_quiet gen hq], by simp [readMessage]⟩
  | f :: rest => by
    obtain ⟨hr, hm⟩ := readMessageFrame_inactive ws f h
    simp only [readMessage, sendPending_of_quiet gen hq]
    split <;> rename_i heq <;> rw [heq] at hr hm
    · exact ⟨[f], by simpa [recordRead] using hr, by simp⟩
    · exact absurd rfl (hm _)
    · subst hr
      obtain ⟨read, h₁, h₂⟩ := @readMessage_of_inactive (ws.recordRead f) h hq rest
      exact ⟨f :: read, by rw [h₁]; simp [recordRead], h₂⟩

/-- A read call on an endpoint that is not active flushes what waits, then
writes nothing more, keeps its state and ends in an error. -/
theorem readMessage_inactive : ∀ (input : List Frame) (ws : WebSocket), ws.state ≠ .active →
    (ws.readMessage gen input).2.1.state = ws.state ∧
      writes (ws.readMessage gen input).2.1.socket = writes (ws.sendPending gen).socket ∧
      ∃ e, (ws.readMessage gen input).1 = .error e
  | [], _, _ => ⟨by simp [readMessage], rfl, _, rfl⟩
  | f :: rest, ws, h => by
    obtain ⟨hr, hm⟩ := readMessageFrame_inactive (ws.sendPending gen) f (by simpa using h)
    have hq : Quiet ((ws.sendPending gen).recordRead f) := quiet_sendPending gen ws
    rw [readMessage_cons]
    split <;> rename_i heq <;> rw [hr]
    · exact ⟨by simp [recordRead], by simp [recordRead], _, rfl⟩
    · exact absurd heq (hm _)
    · obtain ⟨h₁, h₂, h₃⟩ := readMessage_inactive rest ((ws.sendPending gen).recordRead f)
        (by simpa [recordRead] using h)
      refine ⟨by simpa [recordRead] using h₁, ?_, h₃⟩
      rw [h₂, sendPending_of_quiet gen hq]
      simp [recordRead]

/-- A read call that takes an active endpoint out of Active ends in an error:
after the peer's Close it reads frames without effect until one fails or the
stream ends. -/
theorem readMessage_leaves_active : ∀ (input : List Frame) (ws : WebSocket), ws.state = .active →
    (ws.readMessage gen input).2.1.state ≠ .active → ∃ e, (ws.readMessage gen input).1 = .error e
  | [], ws, ha, hs => absurd (by simpa [readMessage] using ha) hs
  | f :: rest, ws, ha, hs => by
    rw [readMessage_cons] at hs ⊢
    split at hs
    · exact ⟨_, rfl⟩
    · rename_i heq
      rcases readMessageFrame_state (ws.sendPending gen) f with e | ⟨-, hc, -⟩
      · exact absurd (e.trans (by simpa using ha)) hs
      · obtain ⟨-, d, hd⟩ := readMessageFrame_some _ _ heq
        rw [hd] at hc; cases hc
    · rcases readMessageFrame_state (ws.sendPending gen) f with e | ⟨-, -, e⟩
      · exact readMessage_leaves_active rest _ (e.trans (by simpa using ha)) hs
      · exact (readMessage_inactive gen rest _ (by rw [e]; decide)).2.2

/-- How a read call moves the endpoint: its record grows by `mid`, and its
state stays or leaves Active by a Close the call read while active. -/
def Moves (a b : WebSocket) : Prop :=
  ∃ mid, b.socket = a.socket ++ mid ∧ (b.state = a.state ∨
    a.state = .active ∧ b.state = .closedByPeer ∧
      ∃ f, f.opcode = .control .close ∧ .read f .active ∈ mid)

theorem Moves.trans {a b c : WebSocket} (h₁ : Moves a b) (h₂ : Moves b c) : Moves a c := by
  obtain ⟨m₁, hs₁, e₁ | ⟨ha, hb, f, hf, hm⟩⟩ := h₁ <;>
    obtain ⟨m₂, hs₂, e₂ | ⟨hb', hc, f', hf', hm'⟩⟩ := h₂ <;>
    refine ⟨m₁ ++ m₂, by rw [hs₂, hs₁, List.append_assoc], ?_⟩
  · exact .inl (e₂.trans e₁)
  · exact .inr ⟨e₁ ▸ hb', hc, f', hf', List.mem_append_right _ hm'⟩
  · exact .inr ⟨ha, e₂.trans hb, f, hf, List.mem_append_left _ hm⟩
  · rw [hb] at hb'; cases hb'

theorem moves_sendPending (a : WebSocket) : Moves a (a.sendPending gen) := by
  obtain ⟨out, h, -⟩ := sendPending_spec gen a
  exact ⟨out.map .write, by rw [h], .inl (by simp)⟩

theorem moves_turn (a : WebSocket) (f : Frame) :
    Moves a ((a.sendPending gen).readMessageFrame f).2 := by
  refine (moves_sendPending gen a).trans ⟨[.read f (a.sendPending gen).state], by simp, ?_⟩
  rcases readMessageFrame_state (a.sendPending gen) f with h | ⟨ha, hc, h⟩
  · exact .inl h
  · exact .inr ⟨by simpa using ha, h, f, hc, by rw [ha]; exact List.mem_singleton_self _⟩

theorem state_leaves_active_once {ws : WebSocket} {input : List Frame} (h : Reachable gen ws input)
    (op : Op) :
    (∃ mid, (ws.call gen input op).2.1.socket = ws.socket ++ mid ∧
      ((ws.call gen input op).2.1.state = ws.state ∨
        ws.state = .active ∧ op = .close ∧ (ws.call gen input op).2.1.state = .closedByUs ∨
        ws.state = .active ∧ op = .read ∧ (ws.call gen input op).2.1.state = .closedByPeer ∧
          (∃ f, f.opcode = .control .close ∧ .read f .active ∈ mid) ∧
          ∃ e, (ws.call gen input op).1 = .error e) ∧
      (ws.state ≠ .active → (ws.call gen input op).2.1.state = ws.state ∧
        (∀ m, (ws.call gen input op).1 ≠ .ok (some m)) ∧
        ∀ w, .write w ∈ mid → w.opcode ≠ .control .pong)) ∧
    ∀ (a : WebSocket) (f : Frame), a.state ≠ .active →
      (a.readMessageFrame f).2.pong = a.pong ∧ ∀ m, (a.readMessageFrame f).1 ≠ .ok (some m) := by
  refine ⟨?_, fun a f ha => ⟨by rw [(readMessageFrame_inactive a f ha).1]; rfl, (readMessageFrame_inactive a f ha).2⟩⟩
  have hq := reachable_quiet gen h
  cases op with
  | read =>
    by_cases ha : ws.state = .active
    · obtain ⟨mid, hs, e | ⟨-, hc, hf⟩⟩ := readMessage_rel gen Moves Moves.trans (moves_sendPending gen)
        (moves_turn gen) input ws
      · exact ⟨mid, hs, .inl e, fun h => absurd ha h⟩
      · obtain ⟨e, he⟩ := readMessage_leaves_active gen input ws ha (by rw [hc]; decide)
        exact ⟨mid, hs, .inr (.inr ⟨ha, rfl, hc, hf, e, by simp [call, he, Except.map]⟩), fun h => absurd ha h⟩
    · obtain ⟨read, h₁, h₂⟩ := readMessage_of_inactive gen ha hq input
      refine ⟨read.map fun f => .read f ws.state, by simp [call, h₁], .inl (by simp [call, h₁]),
        fun _ => ⟨by simp [call, h₁], fun m hm => h₂ m ((call_read_ok gen).mp hm), by simp⟩⟩
  | write msg =>
    obtain ⟨out, h₁, h₂⟩ := sendPending_spec gen
      { ws with sendQueue := ws.sendQueue ++ [Frame.message msg.intoData (.data msg.opData) true] }
    simp only [hq.1, hq.2, Option.toList_none, List.nil_append] at h₂
    obtain _ | ⟨hw, _ | _⟩ := h₂
    rename_i w
    refine ⟨[.write w], by simp [call, writeMessage, h₁], .inl (by simp [call, writeMessage]),
      fun _ => ⟨by simp [call, writeMessage], by simp [call], fun w' hw' => ?_⟩⟩
    simp only [List.mem_singleton, SocketEvent.write.injEq] at hw'
    rw [hw', hw.opcode]
    cases msg <;> simp [Message.opData]
  | close =>
    by_cases ha : ws.state = .active
    · exact ⟨[], by simp [call], .inr (.inl ⟨ha, rfl, by simp [call, close_eq, ha]⟩),
        fun h => absurd ha h⟩
    · have hc : (ws.call gen input .close).2.1 = ws := by simp [call, close_eq, ha]
      exact ⟨[], by simp [hc], .inl (by rw [hc]), fun _ => ⟨by rw [hc], by simp [call], by simp⟩⟩

/-- A server that answered its client's Close, then reads a Ping and a Text
frame: it stays closed by its peer and returns no message. -/
theorem state_leaves_active_once_after_close :
    (((fromRawSocket .server).call (fun _ => ⟨0, 0, 0, 0⟩)
        [⟨true, false, false, false, .control .close, some ⟨1, 2, 3, 4⟩, []⟩] .read).2.1.call
        (fun _ => ⟨0, 0, 0, 0⟩)
        [⟨true, false, false, false, .control .ping, some ⟨1, 2, 3, 4⟩, [5]⟩,
          ⟨true, false, false, false, .data .text, some ⟨1, 2, 3, 4⟩, [105]⟩] .read).2.1.state = .closedByPeer ∧
    ∀ m, (((fromRawSocket .server).call (fun _ => ⟨0, 0, 0, 0⟩)
        [⟨true, false, false, false, .control .close, some ⟨1, 2, 3, 4⟩, []⟩] .read).2.1.call
        (fun _ => ⟨0, 0, 0, 0⟩)
        [⟨true, false, false, false, .control .ping, some ⟨1, 2, 3, 4⟩, [5]⟩,
          ⟨true, false, false, false, .data .text, some ⟨1, 2, 3, 4⟩, [105]⟩] .read).1 ≠ .ok (some m) := by
  obtain ⟨⟨_, _, -, h⟩, -⟩ := state_leaves_active_once (fun _ => ⟨0, 0, 0, 0⟩)
    (.arrive [⟨true, false, false, false, .control .ping, some ⟨1, 2, 3, 4⟩, [5]⟩,
        ⟨true, false, false, false, .data .text, some ⟨1, 2, 3, 4⟩, [105]⟩]
      (.call .read (.init .server [⟨true, false, false, false, .control .close, some ⟨1, 2, 3, 4⟩, []⟩]))) .read
  obtain ⟨hs, hm, -⟩ := h (by decide)
  exact ⟨hs.trans rfl, hm⟩

/-! ## The Close written last -/

/-- No frame of the list is a Close. -/
def NoClose (fs : List Frame) : Prop := ∀ w ∈ fs, w.opcode ≠ .control .close

/-- A Close, if the list holds one, is its last frame: the list holds at most
one Close, and nothing after it. -/
def CloseLast (fs : List Frame) : Prop :=
  ∀ pre w post, fs = pre ++ w :: post → w.opcode = .control .close → post = []

theorem NoClose.closeLast {fs : List Frame} (h : NoClose fs) : CloseLast fs :=
  fun _ w _ he hw => absurd hw (h w (he ▸ List.mem_append_right _ (List.mem_cons_self _ _)))

theorem NoClose.closeLast_snoc {fs : List Frame} (h : NoClose fs) (w : Frame) : CloseLast (fs ++ [w]) := by
  intro pre w' post he hw'
  rcases List.eq_nil_or_concat post with rfl | ⟨post', x, rfl⟩
  · rfl
  · rw [List.concat_eq_append, ← List.cons_append, ← List.append_assoc] at he
    exact absurd hw' (h w' ((List.append_inj' he rfl).1 ▸ List.mem_append_right _ (List.mem_cons_self _ _)))

/-- `send_pending` writes what waits, so it writes no Close where none waits. -/
theorem noClose_sendPending {ws : WebSocket} (h : NoClose (writes ws.socket ++ ws.pong.toList ++ ws.sendQueue)) :
    NoClose (writes (ws.sendPending gen).socket) := by
  obtain ⟨out, h₁, h₂⟩ := sendPending_spec gen ws
  rw [h₁, writes_append, writes_map_write]
  intro w hw
  rcases List.mem_append.mp hw with hw | hw
  · exact h w (List.mem_append_left _ (List.mem_append_left _ hw))
  · obtain ⟨g, hg, he⟩ := forall₂_written_opcode h₂ hw
    rw [List.append_assoc] at h
    exact he ▸ h g (List.mem_append_right _ hg)

/-- One turn from an active endpoint where no Close waits or was written: it
stays active with still none, or it reads the peer's Close and queues the
reply, with nothing else waiting. -/
theorem turn_noClose {ws : WebSocket} (f : Frame) (ha : ws.state = .active)
    (hn : NoClose (writes ws.socket ++ ws.pong.toList ++ ws.sendQueue)) :
    (((ws.sendPending gen).readMessageFrame f).2.state = .active ∧
      NoClose (writes ((ws.sendPending gen).readMessageFrame f).2.socket ++
        ((ws.sendPending gen).readMessageFrame f).2.pong.toList ++
        ((ws.sendPending gen).readMessageFrame f).2.sendQueue)) ∨
    (((ws.sendPending gen).readMessageFrame f).1 = .ok none ∧
      ((ws.sendPending gen).readMessageFrame f).2.state = .closedByPeer ∧
      NoClose (writes ((ws.sendPending gen).readMessageFrame f).2.socket) ∧
      ((ws.sendPending gen).readMessageFrame f).2.pong = none ∧
      ∃ reply, ((ws.sendPending gen).readMessageFrame f).2.sendQueue = [reply]) := by
  have hb := noClose_sendPending gen hn
  have hq := quiet_sendPending gen ws
  rcases readMessageFrame_cases (ws.sendPending gen) f with he | ⟨-, -, he⟩ | ⟨hr, -, -, r, -, -, he⟩ |
    ⟨-, -, -, he⟩ <;> rw [he]
  · exact .inl ⟨by simpa [recordRead] using ha, by simpa [recordRead, hq.1, hq.2] using hb⟩
  · exact .inl ⟨by simpa [recordRead] using ha, by simpa [recordRead, hq.1, hq.2] using hb⟩
  · exact .inr ⟨hr, rfl, by simpa [recordRead] using hb, hq.1, r, by simp [hq.2]⟩
  · refine .inl ⟨by simpa [recordRead] using ha, ?_⟩
    simp only [recordRead, writes_append, writes_read, List.append_nil, hq.2, Option.toList_some]
    exact List.forall_mem_append.mpr ⟨hb, by simp [Frame.pong]⟩

/-- A read call on an active endpoint where no Close waits or was written: it
stays active and writes no Close, or it reads the peer's Close, writes the
reply last and ends in an error. -/
theorem readMessage_noClose : ∀ (input : List Frame) (ws : WebSocket), ws.state = .active →
    NoClose (writes ws.socket ++ ws.pong.toList ++ ws.sendQueue) →
    ((ws.readMessage gen input).2.1.state = .active ∧ NoClose (writes (ws.readMessage gen input).2.1.socket)) ∨
    ((∃ e, (ws.readMessage gen input).1 = .error e) ∧ CloseLast (writes (ws.readMessage gen input).2.1.socket))
  | [], ws, ha, hn => .inl ⟨by simpa [readMessage] using ha, noClose_sendPending gen hn⟩
  | f :: rest, ws, ha, hn => by
    rw [readMessage_cons]
    rcases turn_noClose gen f ha hn with ⟨hs, hb⟩ | ⟨hr, hs, hw, hp, reply, hq⟩
    · have hw : NoClose (writes ((ws.sendPending gen).readMessageFrame f).2.socket) :=
        fun w h => hb w (List.mem_append_left _ (List.mem_append_left _ h))
      split
      · exact .inl ⟨hs, hw⟩
      · exact .inl ⟨hs, hw⟩
      · exact readMessage_noClose rest _ hs hb
    · rw [hr]
      obtain ⟨-, h₂, h₃⟩ := readMessage_inactive gen rest _ (by rw [hs]; decide)
      refine .inr ⟨h₃, ?_⟩
      obtain ⟨out, h₄, h₅⟩ := sendPending_spec gen ((ws.sendPending gen).readMessageFrame f).2
      rw [hp, hq] at h₅
      obtain _ | ⟨-, _ | _⟩ := h₅
      rw [h₂, h₄, writes_append, writes_map_write]
      exact hw.closeLast_snoc _

/-- The calls keep the specification's policy on errors (§7): once a call has
returned an error, the only calls after it are `close`. -/
def KeepsPolicy : WebSocket → List Frame → List Op → Prop
  | _, _, [] => True
  | ws, input, op :: ops =>
    ((∃ e, (ws.call gen input op).1 = .error e) → ∀ o ∈ ops, o = .close) ∧
      KeepsPolicy (ws.call gen input op).2.1 (ws.call gen input op).2.2 ops

/-- A run that keeps the policy, from an endpoint with nothing waiting that
wrote no Close, or wrote one last and is only closed after it, writes a Close
last if at all. -/
theorem run_closeLast : ∀ (ops : List Op) (ws : WebSocket) (input : List Frame), Quiet ws →
    KeepsPolicy gen ws input ops →
    (NoClose (writes ws.socket) ∨ CloseLast (writes ws.socket) ∧ ∀ o ∈ ops, o = .close) →
    CloseLast (writes (ws.run gen input ops).2.1.socket)
  | [], _, _, _, _, h => h.elim NoClose.closeLast And.left
  | op :: ops, ws, input, hq, ⟨hp, hk⟩, h => by
    have hq' : Quiet (ws.call gen input op).2.1 := by
      cases op with
      | read => exact readMessage_quiet gen input ws
      | write msg => exact writeMessage_quiet gen ws msg
      | close => exact ⟨by simpa [call] using hq.1, by simpa [call] using hq.2⟩
    have hn : NoClose (writes ws.socket) → NoClose (writes ws.socket ++ ws.pong.toList ++ ws.sendQueue) := by
      simp [hq.1, hq.2]
    refine run_closeLast ops _ _ hq' hk ?_
    rcases h with h | ⟨hc, hops⟩
    · cases op with
      | read =>
        by_cases ha : ws.state = .active
        · rcases readMessage_noClose gen input ws ha (hn h) with ⟨-, h'⟩ | ⟨⟨e, he⟩, h'⟩
          · exact .inl h'
          · exact .inr ⟨h', hp ⟨e, by simp [call, he, Except.map]⟩⟩
        · obtain ⟨-, hw, -⟩ := readMessage_inactive gen input ws ha
          exact .inl (by simpa [call, hw, sendPending_of_quiet gen hq] using h)
      | write msg =>
        refine .inl (noClose_sendPending gen fun w hw => ?_)
        simp only [hq.1, hq.2, Option.toList_none, List.append_nil, List.nil_append, List.mem_append,
          List.mem_singleton] at hw
        rcases hw with hw | rfl
        · exact h w hw
        · cases msg <;> simp [Message.opData]
      | close => exact .inl (by simpa [call] using h)
    · obtain rfl := hops op (List.mem_cons_self _ _)
      exact .inr ⟨by simpa [call] using hc, fun o ho => hops o (List.mem_cons_of_mem _ ho)⟩

/-- Under the policy on errors of the specification, an endpoint writes a
Close only as its last frame: at most one Close, and no data frame or Pong
after it. The read call that answers the peer's Close always ends in an error,
so the policy leaves only `close` after it. -/
theorem close_written_last (role : Role) (input : List Frame) (ops : List Op)
    (h : KeepsPolicy gen (fromRawSocket role) input ops) :
    CloseLast (writes ((fromRawSocket role).run gen input ops).2.1.socket) ∧
    ∀ ws input', Reachable gen ws input' → ws.state = .active →
      (ws.call gen input' .read).2.1.state ≠ .active → ∃ e, (ws.call gen input' .read).1 = .error e := by
  refine ⟨run_closeLast gen ops _ input ⟨rfl, rfl⟩ h (.inl fun w hw => by cases hw), fun ws input' _ ha hs => ?_⟩
  obtain ⟨e, he⟩ := readMessage_leaves_active gen input' ws ha hs
  exact ⟨e, by simp [call, he, Except.map]⟩

/-- A server reads its client's Close, which ends the call at the end of the
stream, and is then closed. -/
theorem close_written_last_server :
    KeepsPolicy (fun _ => ⟨0, 0, 0, 0⟩) (fromRawSocket .server)
        [⟨true, false, false, false, .control .close, some ⟨1, 2, 3, 4⟩, []⟩] [.read, .close] ∧
    CloseLast (writes ((fromRawSocket .server).run (fun _ => ⟨0, 0, 0, 0⟩)
        [⟨true, false, false, false, .control .close, some ⟨1, 2, 3, 4⟩, []⟩] [.read, .close]).2.1.socket) := by
  have h : KeepsPolicy (fun _ => ⟨0, 0, 0, 0⟩) (fromRawSocket .server)
      [⟨true, false, false, false, .control .close, some ⟨1, 2, 3, 4⟩, []⟩] [.read, .close] :=
    ⟨fun _ => by simp, fun _ => by simp, trivial⟩
  exact ⟨h, (close_written_last _ .server _ _ h).1⟩

/-- A server that read its client's Close, answered it, and is then given a
message, against the policy, writes the message's frame after its Close. -/
theorem server_writes_data_after_close_reply :
    writes ((fromRawSocket .server).run (fun _ => ⟨0, 0, 0, 0⟩)
      [⟨true, false, false, false, .control .close, some ⟨1, 2, 3, 4⟩, []⟩]
      [.read, .write (.binary [])]).2.1.socket =
      [Frame.close none, Frame.message [] (.data .binary) true] ∧
    ¬ CloseLast (writes ((fromRawSocket .server).run (fun _ => ⟨0, 0, 0, 0⟩)
      [⟨true, false, false, false, .control .close, some ⟨1, 2, 3, 4⟩, []⟩]
      [.read, .write (.binary [])]).2.1.socket) := by
  have h : writes ((fromRawSocket .server).run (fun _ => ⟨0, 0, 0, 0⟩)
      [⟨true, false, false, false, .control .close, some ⟨1, 2, 3, 4⟩, []⟩]
      [.read, .write (.binary [])]).2.1.socket =
      [Frame.close none, Frame.message [] (.data .binary) true] := rfl
  refine ⟨h, fun hl => ?_⟩
  rw [h] at hl
  exact List.cons_ne_nil _ _ (hl [] _ _ rfl rfl)

/-- For either role, a valid Close frame from the peer completes the closing
handshake: the endpoint reads it and writes its Close reply. At the end of the
stream that follows, `read_message` still reports that the connection was reset
without a closing handshake, not a clean close. -/
theorem eof_after_closing_handshake (role : Role) {f : Frame} {cl : Option (CloseCode × Utf8String)}
    (hc : f.opcode = .control .close) (hfin : f.isFinal = true) (hrsv : f.hasRsv = false)
    (hm : f.isMasked = true ↔ role = .server) (hlen : f.payload.length ≤ 125)
    (hcl : f.removeMask.intoClose = .ok cl) :
    ∃ ws, (fromRawSocket role).run gen [f] [.read] = ([.error eofError], ws, []) ∧
      (∃ w ∈ writes ws.socket, w.opcode = .control .close) ∧ SocketEvent.read f .active ∈ ws.socket := by
  have hq : Quiet (fromRawSocket role) := ⟨rfl, rfl⟩
  have hfr : (fromRawSocket role).readMessageFrame f =
      (.ok none, { (fromRawSocket role).recordRead f with state := .closedByPeer, sendQueue := [closeReply cl] }) := by
    simp [readMessageFrame, processFrame, hrsv, unmaskIncoming_of_masked hm, hc, onControl, hfin,
      Nat.not_lt.mpr hlen, hcl, doClose, fromRawSocket, recordRead, Except.map]
  obtain ⟨out, hsp, hw⟩ := sendPending_spec gen
    { (fromRawSocket role).recordRead f with state := .closedByPeer, sendQueue := [closeReply cl] }
  obtain _ | ⟨hw, _ | _⟩ := hw
  rename_i w
  refine ⟨sendPending gen
      { (fromRawSocket role).recordRead f with state := .closedByPeer, sendQueue := [closeReply cl] },
    by simp [run, call, readMessage, sendPending_of_quiet gen hq, hfr, Except.map], ?_, ?_⟩ <;> rw [hsp]
  · exact ⟨w, by simp [writes, fromRawSocket], by rw [hw.opcode, closeReply_opcode]⟩
  · simp [recordRead, fromRawSocket]

/-- A server that reads a masked empty Close frame and then reaches the end of
its stream. -/
theorem eof_after_closing_handshake_server :
    ∃ ws, (fromRawSocket .server).run (fun _ => ⟨0, 0, 0, 0⟩)
        [⟨true, false, false, false, .control .close, some ⟨1, 2, 3, 4⟩, []⟩] [.read] =
        ([.error eofError], ws, []) ∧
      (∃ w ∈ writes ws.socket, w.opcode = .control .close) ∧
      SocketEvent.read ⟨true, false, false, false, .control .close, some ⟨1, 2, 3, 4⟩, []⟩ .active ∈ ws.socket :=
  eof_after_closing_handshake _ .server rfl rfl rfl (iff_of_true rfl rfl) (by decide) rfl

end WebSocket

end Tungstenite
