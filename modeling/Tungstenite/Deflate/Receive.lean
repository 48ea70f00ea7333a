import Tungstenite.Deflate.Extension
import Tungstenite.Deflate.Loop

/-!
# Receiving compressed frames

What `on_receive_frame` does with a data frame on an enabled extension once it
has taken the compressed path, that is with a message in progress or RSV1 set:

* `onReceiveFrame_push`: a frame that is not final is pushed onto the fragment
  list and nothing is returned, whatever its opcode and whatever the list
  holds;
* `onReceiveFrame_last`: a final Continuation frame, unless the list is full
  and may not grow, ends the message: the fragments and it are decompressed as
  one and completed to a message of the first fragment's opcode, and the list
  is emptied;
* `receiveFrames`, a run of `on_receive_frame` over a list of frames, and
  `receiveFrames_push`: a run of frames that are not final pushes them all;
* `receive_compressed_message`: a whole compressed message received on an
  extension with none in progress gives nothing for each frame but the last,
  and for the last the message decompressed from all the payloads.

Nothing on the compressed path checks an opcode against the list, and the
capacity is checked only at a final Continuation:

* `receive_accepts_frames_outside_message`: a Text or Binary frame inside a
  message, and a Continuation with RSV1 outside one, are taken as fragments;
* `fragments_outgrow_capacity`: the list grows past `fragments_capacity`, and
  a message longer than it is decompressed all the same;
* `orphan_continuation_panics`: a final Continuation with RSV1 and no message
  in progress is completed with its own opcode, which `complete_message`
  refuses by a panic, as soon as the decompressor accepts its payload.
-/

namespace Tungstenite

namespace DeflateExt

variable (F : Flate)

/-- `on_receive_frame` on each frame in turn: the results in order and the
extension after them; a panic, or a loop out of fuel, ends the run. -/
def receiveFrames (fuel : Nat) : DeflateExt → List Frame →
    Outcome (DeflateExt × List (Except DeflateExtensionError (Option Message)))
  | ext, [] => .ret (ext, [])
  | ext, frame :: frames =>
    (onReceiveFrame F fuel ext frame).bind fun r =>
      (receiveFrames fuel r.1 frames).map fun rs => (rs.1, r.2 :: rs.2)

variable {F}

/-- On the compressed path, a data frame that is not final is pushed. -/
theorem onReceiveFrame_push (fuel : Nat) {ext : DeflateExt} {frame : Frame} {d : OpData}
    (hd : frame.opcode = .data d) (hc : (ext.enabled && (!ext.fragments.isEmpty || frame.rsv1)) = true)
    (hf : frame.isFinal = false) :
    onReceiveFrame F fuel ext frame = .ret ({ ext with fragments := ext.fragments ++ [frame] }, .ok none) := by
  simp [onReceiveFrame, hd, hc, hf]

/-- On the compressed path, a final Continuation frame that the list may take
ends the message: every fragment's payload, in order, with the trailer, is
decompressed into twice their size, completed to a message of the first
fragment's opcode, and the list is emptied. -/
theorem onReceiveFrame_last (fuel : Nat) {ext : DeflateExt} {frame : Frame}
    (hd : frame.opcode = .data .continue)
    (hc : (ext.enabled && (!ext.fragments.isEmpty || frame.rsv1)) = true) (hf : frame.isFinal = true)
    (hcap : ext.config.fragmentsGrow = true ∨ ext.config.fragmentsCapacity ≠ ext.fragments.length) :
    onReceiveFrame F fuel ext frame =
      inflateMessage F fuel { ext with fragments := [] }
        (((ext.fragments ++ [frame]).map (·.payload)).flatten ++ trailer)
        ((ext.fragments ++ [frame]).foldl (fun len f => len + f.payload.length) 0 * 2)
        (ext.fragments.headD frame).opcode := by
  have hfull : (!ext.config.fragmentsGrow && ext.config.fragmentsCapacity == ext.fragments.length) = false := by
    rcases hcap with h | h <;> simp [h]
  simp only [onReceiveFrame, hd, hc, hf, hfull, if_true, if_false, Bool.not_true, Bool.false_eq_true]
  cases ext.fragments <;> rfl

/-- A run of frames that are not final, the first of them on the compressed
path, pushes them all and returns nothing for them; the run goes on from the
extension holding them. -/
theorem receiveFrames_push_append (fuel : Nat) (rest : List Frame) :
    ∀ {ext : DeflateExt} {frames : List Frame}, ext.enabled = true →
      (ext.fragments ≠ [] ∨ ∃ f ∈ frames.head?, f.rsv1 = true) →
      (∀ f ∈ frames, f.isFinal = false ∧ ∃ d, f.opcode = .data d) →
      receiveFrames F fuel ext (frames ++ rest) =
        (receiveFrames F fuel { ext with fragments := ext.fragments ++ frames } rest).map
          fun r => (r.1, frames.map (fun _ => .ok none) ++ r.2)
  | ext, [], _, _, _ => by
    rw [List.append_nil]
    show receiveFrames F fuel ext rest = (receiveFrames F fuel ext rest).map _
    cases receiveFrames F fuel ext rest <;> rfl
  | ext, f :: fs, he, hs, hnf => by
    obtain ⟨hf, d, hd⟩ := hnf f (.head _)
    have hc : (ext.enabled && (!ext.fragments.isEmpty || f.rsv1)) = true := by
      rcases hs with h | ⟨g, hg, hr⟩
      · simp [he, List.isEmpty_iff, h]
      · simp only [List.head?_cons, Option.mem_def, Option.some.injEq] at hg
        subst hg
        simp [he, hr]
    have ih := @receiveFrames_push_append fuel rest { ext with fragments := ext.fragments ++ [f] } fs he
      (.inl (by simp)) fun g hg => hnf g (.tail _ hg)
    rw [List.cons_append]
    simp only [receiveFrames, onReceiveFrame_push fuel hd hc hf, Outcome.ret_bind]
    rw [ih, Outcome.map_map]
    simp [Function.comp_def]

/-- A run of frames that are not final, the first of them on the compressed
path, pushes them all and returns nothing. -/
theorem receiveFrames_push (fuel : Nat) {ext : DeflateExt} {frames : List Frame} (he : ext.enabled = true)
    (hs : ext.fragments ≠ [] ∨ ∃ f ∈ frames.head?, f.rsv1 = true)
    (hnf : ∀ f ∈ frames, f.isFinal = false ∧ ∃ d, f.opcode = .data d) :
    receiveFrames F fuel ext frames =
      .ret ({ ext with fragments := ext.fragments ++ frames }, frames.map fun _ => .ok none) := by
  simpa [receiveFrames] using receiveFrames_push_append fuel [] he hs hnf

/-- One compressed message, a first frame with RSV1 then frames that are not
final and a final Continuation, on an extension with no message in progress:
nothing is returned for the frames before the last, and for the last the
payloads of all of them, in order, with the trailer, decompressed and completed
to a message of the first frame's opcode. -/
theorem receive_compressed_message (fuel : Nat) {ext : DeflateExt} {first last : Frame} {mid : List Frame}
    (he : ext.enabled = true) (h0 : ext.fragments = [])
    (hfirst : first.rsv1 = true ∧ first.isFinal = false ∧ ∃ d, first.opcode = .data d)
    (hmid : ∀ f ∈ mid, f.isFinal = false ∧ ∃ d, f.opcode = .data d)
    (hlast : last.opcode = .data .continue ∧ last.isFinal = true)
    (hcap : ext.config.fragmentsGrow = true ∨ ext.config.fragmentsCapacity ≠ mid.length + 1) :
    receiveFrames F fuel ext (first :: mid ++ [last]) =
      (inflateMessage F fuel ext (((first :: mid ++ [last]).map (·.payload)).flatten ++ trailer)
          ((first :: mid ++ [last]).foldl (fun len f => len + f.payload.length) 0 * 2) first.opcode).map
        fun r => (r.1, (first :: mid).map (fun _ => .ok none) ++ [r.2]) := by
  have hnf : ∀ f ∈ first :: mid, f.isFinal = false ∧ ∃ d, f.opcode = .data d := by
    simpa [hfirst.2.1, hfirst.2.2] using hmid
  have hext : { ext with fragments := [] } = ext := by cases ext; cases h0; rfl
  have hl := @onReceiveFrame_last F fuel { ext with fragments := first :: mid } last hlast.1 (by simp [he]) hlast.2
    (by simpa using hcap)
  rw [receiveFrames_push_append fuel [last] he (.inr ⟨first, rfl, hfirst.1⟩) hnf]
  simp only [receiveFrames, h0, List.nil_append, Outcome.map_ret, Outcome.bind_ret, Outcome.map_map, hl, hext]
  rfl

/-- A compressed Text message of two frames on a new extension. -/
theorem receive_compressed_message_two_frames :
    receiveFrames (Flate.silent .ok) 1
        ⟨true, DeflateConfig.default, [], Inflator.new, Deflator.new .fast, PlainTextExt.new none⟩
        [⟨false, true, false, false, .data .text, none, [0]⟩, ⟨true, false, false, false, .data .continue, none, [0]⟩] =
      (inflateMessage (Flate.silent .ok) 1
          ⟨true, DeflateConfig.default, [], Inflator.new, Deflator.new .fast, PlainTextExt.new none⟩
          ([0, 0] ++ trailer) 4 (.data .text)).map fun r => (r.1, [.ok none, r.2]) :=
  @receive_compressed_message _ 1 _ ⟨false, true, false, false, .data .text, none, [0]⟩
    ⟨true, false, false, false, .data .continue, none, [0]⟩ [] rfl rfl ⟨rfl, rfl, _, rfl⟩ (by simp) ⟨rfl, rfl⟩
    (.inl rfl)

/-- A data frame that is not final and does not fit the message in progress,
a Text or Binary frame while a compressed message is in progress or a
Continuation with RSV1 while none is, is not refused: it is pushed onto the
fragment list, and nothing is returned. -/
theorem receive_accepts_frames_outside_message (fuel : Nat) {ext : DeflateExt} {frame : Frame}
    (he : ext.enabled = true) (hf : frame.isFinal = false)
    (hout : ext.fragments ≠ [] ∧ (frame.opcode = .data .text ∨ frame.opcode = .data .binary) ∨
      ext.fragments = [] ∧ frame.opcode = .data .continue ∧ frame.rsv1 = true) :
    onReceiveFrame F fuel ext frame = .ret ({ ext with fragments := ext.fragments ++ [frame] }, .ok none) := by
  have hc : (ext.enabled && (!ext.fragments.isEmpty || frame.rsv1)) = true := by
    rcases hout with ⟨hne, -⟩ | ⟨-, -, hr⟩ <;> simp [he, List.isEmpty_iff, *]
  obtain ⟨d, hd⟩ : ∃ d, frame.opcode = .data d := by
    rcases hout with ⟨-, hd | hd⟩ | ⟨-, hd, -⟩ <;> exact ⟨_, hd⟩
  exact onReceiveFrame_push fuel hd hc hf

/-- A Text frame while a compressed Text message is in progress is taken as
its second fragment. -/
theorem receive_accepts_frames_outside_message_text :
    onReceiveFrame (Flate.silent .ok) 0
        ⟨true, DeflateConfig.default, [⟨false, true, false, false, .data .text, none, [1]⟩], Inflator.new,
          Deflator.new .fast, PlainTextExt.new none⟩
        ⟨false, false, false, false, .data .text, none, [2]⟩ =
      .ret (⟨true, DeflateConfig.default,
          [⟨false, true, false, false, .data .text, none, [1]⟩, ⟨false, false, false, false, .data .text, none, [2]⟩],
          Inflator.new, Deflator.new .fast, PlainTextExt.new none⟩, .ok none) :=
  receive_accepts_frames_outside_message 0 rfl rfl (.inl ⟨List.cons_ne_nil _ _, .inl rfl⟩)

/-- Frames that are not final, the first compressed, are all taken, however
many the list then holds: past `fragments_capacity` it keeps growing, and a
final Continuation then goes to the decompressor like any other, the check of
the capacity being only that the list does not hold exactly that many. -/
theorem fragments_outgrow_capacity (fuel : Nat) {ext : DeflateExt} {frames : List Frame} {last : Frame}
    (he : ext.enabled = true) (hstart : ext.fragments ≠ [] ∨ ∃ f ∈ frames.head?, f.rsv1 = true)
    (hnf : ∀ f ∈ frames, f.isFinal = false ∧ ∃ d, f.opcode = .data d)
    (hcap : ext.config.fragmentsCapacity < ext.fragments.length + frames.length)
    (hd : last.opcode = .data .continue) (hf : last.isFinal = true) :
    receiveFrames F fuel ext frames =
        .ret ({ ext with fragments := ext.fragments ++ frames }, frames.map fun _ => .ok none) ∧
      ∃ data capacity opcode, onReceiveFrame F fuel { ext with fragments := ext.fragments ++ frames } last =
        inflateMessage F fuel { ext with fragments := [] } data capacity opcode := by
  have hne : ext.fragments ++ frames ≠ [] := fun h => by
    simp only [List.append_eq_nil] at h
    simp [h.1, h.2] at hcap
  refine ⟨receiveFrames_push fuel he hstart hnf, _, _, _,
    onReceiveFrame_last fuel hd (by simp [he, List.isEmpty_iff, hne]) hf (.inr ?_)⟩
  simp only [List.length_append]
  omega

/-- With room for one fragment and no growing, a compressed Text message of
three frames is taken whole and decompressed. -/
theorem fragments_outgrow_capacity_three_frames :
    receiveFrames (Flate.silent .ok) 1
        ⟨true, ⟨some maxMessageSize, 15, false, true, 1, false, false, false, .best⟩, [], Inflator.new,
          Deflator.new .fast, PlainTextExt.new none⟩
        [⟨false, true, false, false, .data .text, none, [0]⟩, ⟨false, false, false, false, .data .continue, none, [0]⟩] =
        .ret (⟨true, ⟨some maxMessageSize, 15, false, true, 1, false, false, false, .best⟩,
            [⟨false, true, false, false, .data .text, none, [0]⟩,
              ⟨false, false, false, false, .data .continue, none, [0]⟩], Inflator.new,
            Deflator.new .fast, PlainTextExt.new none⟩, [.ok none, .ok none]) ∧
      ∃ data capacity opcode, onReceiveFrame (Flate.silent .ok) 1
          ⟨true, ⟨some maxMessageSize, 15, false, true, 1, false, false, false, .best⟩,
            [⟨false, true, false, false, .data .text, none, [0]⟩,
              ⟨false, false, false, false, .data .continue, none, [0]⟩], Inflator.new,
            Deflator.new .fast, PlainTextExt.new none⟩
          ⟨true, false, false, false, .data .continue, none, [0]⟩ =
        inflateMessage (Flate.silent .ok) 1
          ⟨true, ⟨some maxMessageSize, 15, false, true, 1, false, false, false, .best⟩, [], Inflator.new,
            Deflator.new .fast, PlainTextExt.new none⟩ data capacity opcode :=
  fragments_outgrow_capacity 1 rfl (.inr ⟨_, rfl, rfl⟩)
    (by simp only [List.mem_cons, List.mem_singleton, List.not_mem_nil, or_false]
        rintro f (rfl | rfl) <;> exact ⟨rfl, _, rfl⟩)
    (by decide) rfl rfl

/-- A final Continuation frame with RSV1 and no message in progress, when the
decompressor accepts its payload, makes `on_receive_frame` panic: the message
is completed with the Continuation opcode, which `complete_message` does not
take. -/
theorem orphan_continuation_panics (fuel : Nat) {ext : DeflateExt} {frame : Frame}
    (he : ext.enabled = true) (h0 : ext.fragments = [])
    (hcap : ext.config.fragmentsGrow = true ∨ ext.config.fragmentsCapacity ≠ 0)
    (hd : frame.opcode = .data .continue) (hf : frame.isFinal = true) (hr : frame.rsv1 = true)
    (hok : ∃ i out, ext.inflator.decompress F fuel (frame.payload ++ trailer)
      (ByteVec.withCapacity (frame.payload.length * 2)) = .ret (i, .ok out)) :
    onReceiveFrame F fuel ext frame = .panic "Bug: message is not text nor binary" := by
  obtain ⟨i, out, hok⟩ := hok
  rw [onReceiveFrame_last fuel hd (by simp [he, hr]) hf (by rw [h0]; exact hcap)]
  simp [inflateMessage, h0, hok, completeMessage, hd, IncompleteMessageType.ofOpData, Outcome.map]

/-- The empty SYNC-flushed block `00 00 00 FF FF`, sent as one final
Continuation frame with RSV1 (payload `00`), on a fresh extension. -/
theorem orphan_continuation_panics_empty_block :
    onReceiveFrame (Flate.silent .ok) 1
        ⟨true, DeflateConfig.default, [], Inflator.new, Deflator.new .fast, PlainTextExt.new none⟩
        ⟨true, true, false, false, .data .continue, none, [0]⟩ =
      .panic "Bug: message is not text nor binary" :=
  orphan_continuation_panics 1 rfl rfl (.inl rfl) rfl rfl rfl ⟨_, _, rfl⟩

end DeflateExt

end Tungstenite
