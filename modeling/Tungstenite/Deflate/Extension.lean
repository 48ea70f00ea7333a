import Tungstenite.Message
import Tungstenite.Deflate.Codec

/-!
# The permessage-deflate extension on frames

`DeflateExt` and what it does to data frames (`extensions/deflate.rs`):

* `onSendFrame`: an enabled extension compresses a data frame's payload with
  a SYNC flush into a vector as large as the payload, cuts the last four bytes
  off and sets RSV1;
* `onReceiveFrame`: compressed frames are collected up to a final one; then
  their payloads, with the four bytes put back, are decompressed and completed
  to a message; other frames go to the plain assembler (`PlainTextExt`).

`send_empty_payload_panics`: every enabled extension, sending a data frame with
an empty payload, panics. The compressor is given no output space, so the
output is empty (`compress_empty_payload_lacks_trailer`) and the length less
four underflows.
-/

namespace Tungstenite

/-- Modelled from the spec: `MAX_MESSAGE_SIZE`, 64 MiB (§6). -/
def maxMessageSize : Nat := 64 <<< 20

/-- `DeflateConfig`. -/
structure DeflateConfig where
  maxMessageSize : Option Nat
  maxWindowBits : UInt8
  requestNoContextTakeover : Bool
  acceptNoContextTakeover : Bool
  fragmentsCapacity : Nat
  fragmentsGrow : Bool
  compressReset : Bool
  decompressReset : Bool
  compressionLevel : Compression
  deriving DecidableEq, Repr

/-- `DeflateConfig::default`. -/
def DeflateConfig.default : DeflateConfig :=
  ⟨some Tungstenite.maxMessageSize, 15, false, true, 10, true, false, false, .best⟩

/-- `DeflateExtensionError`, each with its text. -/
inductive DeflateExtensionError
  | deflateError (msg : String)
  | inflateError (msg : String)
  | negotiationError (msg : String)
  deriving DecidableEq, Repr

/-- Modelled from the spec: the text of an `Error` (its `Display`, in
`error.rs`, not in the sources), with the messages of §7's kinds. -/
def Error.toString : Error → String
  | .connectionClosed => "Connection closed normally"
  | .protocol msg => "WebSocket protocol error: " ++ msg
  | .capacity msg => "Space limit exceeded: " ++ msg
  | .utf8 => "UTF-8 encoding error"
  | .extension msg => "Extension error: " ++ msg

/-- Modelled from the spec: `PlainTextExt` (`extensions/uncompressed.rs`, not
in the sources), the assembler of uncompressed messages: the message being
assembled and the size limit (§4.2, §4.3). -/
structure PlainTextExt where
  incomplete : Option IncompleteMessage
  maxMessageSize : Option Nat
  deriving DecidableEq

namespace PlainTextExt

/-- `PlainTextExt::new`. -/
def new (maxMessageSize : Option Nat) : PlainTextExt := ⟨none, maxMessageSize⟩

/-- A message of kind `kind` started by `frame`. -/
def startMessage (ext : PlainTextExt) (kind : IncompleteMessageType) (frame : Frame) :
    PlainTextExt × Except Error (Option Message) :=
  match (IncompleteMessage.new kind).extend frame.payload ext.maxMessageSize with
  | .error e => (ext, .error e)
  | .ok msg =>
    if frame.isFinal then (ext, msg.complete.map some)
    else ({ ext with incomplete := some msg }, .ok none)

/-- Modelled from the spec: `PlainTextExt::on_receive_frame` on a data frame,
the assembler of §4.2 with the endpoint's rules for fragments (§3). -/
def onReceiveFrame (ext : PlainTextExt) (frame : Frame) (data : OpData) :
    PlainTextExt × Except Error (Option Message) :=
  match data, ext.incomplete with
  | .continue, some msg =>
    match msg.extend frame.payload ext.maxMessageSize with
    | .error e => (ext, .error e)
    | .ok msg =>
      if frame.isFinal then ({ ext with incomplete := none }, msg.complete.map some)
      else ({ ext with incomplete := some msg }, .ok none)
  | .continue, none => (ext, .error (.protocol "Continue frame but nothing to continue"))
  | c, some _ =>
    (ext, .error (.protocol ("Received " ++ c.name ++ " while waiting for more fragments")))
  | .text, none => ext.startMessage .text frame
  | .binary, none => ext.startMessage .binary frame
  | .reserved i, none => (ext, .error (.protocol ("Unknown data frame type " ++ toString i)))

end PlainTextExt

/-- `DeflateExt`. -/
structure DeflateExt where
  enabled : Bool
  config : DeflateConfig
  fragments : List Frame
  inflator : Inflator
  deflator : Deflator
  uncompressedExtension : PlainTextExt
  deriving DecidableEq

/-- `0x00 0x00 0xFF 0xFF`, which ends every SYNC-flushed DEFLATE output. -/
def trailer : Bytes := [0, 0, 255, 255]

/-- `usize` subtraction, with the overflow check of a debug build. -/
def usizeSub (a b : Nat) : Outcome Nat :=
  if b ≤ a then .ret (a - b) else .panic "attempt to subtract with overflow"

namespace DeflateExt

/-- `DeflateExt::new`: disabled, no fragments, a decompressor with flate2's
window and a fast compressor. -/
def new (config : DeflateConfig) : DeflateExt :=
  ⟨false, config, [], Inflator.new, Deflator.new .fast, PlainTextExt.new config.maxMessageSize⟩

variable (F : Flate)

/-- `rsv1`. -/
def rsv1 (ext : DeflateExt) : Bool := ext.enabled

/-- `complete_message`: the bytes completed to a message of the opcode's
kind, under the size limit; a panic for an opcode that is not Text or
Binary. -/
def completeMessage (ext : DeflateExt) (data : Bytes) (opcode : OpCode) :
    Outcome (Except Error Message) :=
  match opcode with
  | .data d =>
    match IncompleteMessageType.ofOpData d with
    | some kind => .ret (((IncompleteMessage.new kind).extend data ext.config.maxMessageSize).bind
        IncompleteMessage.complete)
    | none => .panic "Bug: message is not text nor binary"
  | .control _ => .panic "Bug: message is not text nor binary"

/-- `on_send_frame`. -/
def onSendFrame (fuel : Nat) (ext : DeflateExt) (frame : Frame) :
    Outcome (DeflateExt × Except DeflateExtensionError Frame) :=
  if ext.enabled then
    match frame.opcode with
    | .data _ =>
      (ext.deflator.compress F fuel frame.payload (ByteVec.withCapacity frame.payload.length)).bind
        fun
        | (d, .error e) => .ret ({ ext with deflator := d }, .error (.deflateError e))
        | (d, .ok compressed) =>
          (usizeSub compressed.len 4).map fun n =>
            ({ ext with deflator := if ext.config.compressReset then d.reset else d },
              .ok { frame with payload := compressed.data.take n, rsv1 := true })
    | .control _ => .ret (ext, .ok frame)
  else .ret (ext, .ok frame)

/-- The end of `on_receive_frame` for a compressed message: `data`
decompressed into a vector of capacity `capacity`, completed to a message of
kind `opcode`; the decompressor reset afterwards when so configured. -/
def inflateMessage (fuel : Nat) (ext : DeflateExt) (data : Bytes) (capacity : Nat)
    (opcode : OpCode) : Outcome (DeflateExt × Except DeflateExtensionError (Option Message)) :=
  (ext.inflator.decompress F fuel data (ByteVec.withCapacity capacity)).bind fun
    | (i, .error e) => .ret ({ ext with inflator := i }, .error (.inflateError e))
    | (i, .ok out) =>
      (ext.completeMessage out.data opcode).map fun message =>
        ({ ext with inflator := if ext.config.decompressReset then i.reset else i },
          match message with
          | .ok m => .ok (some m)
          | .error e => .error (.deflateError e.toString))

/-- `on_receive_frame`. -/
def onReceiveFrame (fuel : Nat) (ext : DeflateExt) (frame : Frame) :
    Outcome (DeflateExt × Except DeflateExtensionError (Option Message)) :=
  match frame.opcode with
  | .control _ => .panic "internal error: entered unreachable code"
  | .data d =>
    if ext.enabled && (!ext.fragments.isEmpty || frame.rsv1) then
      if !frame.isFinal then .ret ({ ext with fragments := ext.fragments ++ [frame] }, .ok none)
      else match d with
        | .continue =>
          if !ext.config.fragmentsGrow && ext.config.fragmentsCapacity == ext.fragments.length then
            .ret (ext, .error (.deflateError "Exceeded max fragments."))
          else
            let fragments := ext.fragments ++ [frame]
            let size := fragments.foldl (fun len frame => len + frame.payload.length) 0
            match fragments.head? with
            | none => .panic "called Option::unwrap() on a None value"
            | some first =>
              inflateMessage F fuel { ext with fragments := [] }
                ((fragments.map (·.payload)).flatten ++ trailer) (size * 2) first.opcode
        | _ =>
          inflateMessage F fuel ext (frame.payload ++ trailer) ((frame.payload ++ trailer).length * 2)
            frame.opcode
    else
      let (u, r) := ext.uncompressedExtension.onReceiveFrame frame d
      .ret ({ ext with uncompressedExtension := u }, r.mapError fun e => .deflateError e.toString)

/-- An enabled extension sending a data frame with an empty payload panics,
whatever its compressor: the output vector has capacity zero, so the
compressor is given no space and writes nothing, and `len - 4` underflows. -/
theorem send_empty_payload_panics (fuel : Nat) (ext : DeflateExt) (d : OpData) :
    onSendFrame F (fuel + 1) { ext with enabled := true } (Frame.message [] (.data d) true) =
      .panic "attempt to subtract with overflow" := by
  simp [onSendFrame, Deflator.compress, drive, F.compress_no_space, usizeSub, ByteVec.len,
    Outcome.map, Outcome.bind]

/-- `compress` called as `on_send_frame` calls it on the empty payload, with
an output of capacity zero, returns at once whatever the compressor: its one
call is given no space, so the output is empty, not the compressor's flushed
output and its trailer, and `len - 4` underflows. -/
theorem compress_empty_payload_lacks_trailer (fuel : Nat) (d : Deflator) :
    ∃ d' out, d.compress F (fuel + 1) [] (ByteVec.withCapacity ([] : Bytes).length) = .ret (d', .ok out) ∧
      d'.history = d.history ++ [⟨[], 0⟩] ∧ out.data = [] ∧
      usizeSub out.len 4 = .panic "attempt to subtract with overflow" :=
  ⟨{ d with history := d.history ++ [⟨[], 0⟩] }, ByteVec.withCapacity 0,
    by simp [Deflator.compress, drive, F.compress_no_space, Outcome.map], rfl, rfl, rfl⟩

end DeflateExt

end Tungstenite
