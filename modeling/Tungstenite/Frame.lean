import Tungstenite.Basic

/-!
# Frames

A WebSocket frame (RFC 6455 §5.2) as the endpoint handles it: header bits,
opcode, masking key and payload. `frame.rs` and `frame/coding.rs` are not in
the sources; what `protocol/mod.rs` and `extensions/deflate.rs` call of them
is modelled from the specification (§3, §4.1, §6):

* `applyMask`: the masking of RFC 6455 §5.3, an involution
  (`applyMask_applyMask`);
* `Frame.format`: a frame as the peer's parser reads it back from the bytes
  `format` writes: same header and key, payload masked by the key;
  `Frame.unmaskedPayload` undoes it (`unmaskedPayload_format`);
* `Frame.message`, `Frame.pong`, `Frame.close`: the frames the endpoint
  builds, all unmasked;
* `Frame.intoClose`: the close code and reason of a received Close frame.
-/

namespace Tungstenite

/-- A frame's four-byte masking key. -/
structure MaskKey where
  b₀ : UInt8
  b₁ : UInt8
  b₂ : UInt8
  b₃ : UInt8
  deriving DecidableEq, Repr

/-- Byte `i mod 4` of the key, `mask[i & 3]`. -/
def MaskKey.get (k : MaskKey) (i : Nat) : UInt8 :=
  match i % 4 with
  | 0 => k.b₀
  | 1 => k.b₁
  | 2 => k.b₂
  | _ => k.b₃

/-- `apply_mask` from payload offset `i`: each byte XORed with the key's byte
at its offset. -/
def applyMaskFrom (k : MaskKey) : Nat → Bytes → Bytes
  | _, [] => []
  | i, b :: bs => (b ^^^ k.get i) :: applyMaskFrom k (i + 1) bs

/-- `apply_mask`: the payload XORed byte by byte with the key. -/
def applyMask (k : MaskKey) (buf : Bytes) : Bytes := applyMaskFrom k 0 buf

theorem xor_xor_cancel (b k : UInt8) : b ^^^ k ^^^ k = b := by
  obtain ⟨b⟩ := b; obtain ⟨k⟩ := k
  show UInt8.mk (b ^^^ k ^^^ k) = _
  rw [BitVec.xor_assoc, BitVec.xor_self, BitVec.xor_zero]

@[simp] theorem applyMaskFrom_applyMaskFrom (k : MaskKey) (i : Nat) (bs : Bytes) :
    applyMaskFrom k i (applyMaskFrom k i bs) = bs := by
  induction bs generalizing i with
  | nil => rfl
  | cons b bs ih => simp only [applyMaskFrom, xor_xor_cancel, ih]

/-- Unmasking a masked payload gives it back (§8, invariant 3). -/
@[simp] theorem applyMask_applyMask (k : MaskKey) (bs : Bytes) :
    applyMask k (applyMask k bs) = bs :=
  applyMaskFrom_applyMaskFrom k 0 bs

@[simp] theorem length_applyMaskFrom (k : MaskKey) (i : Nat) (bs : Bytes) :
    (applyMaskFrom k i bs).length = bs.length := by
  induction bs generalizing i with
  | nil => rfl
  | cons b bs ih => simp only [applyMaskFrom, List.length_cons, ih]

@[simp] theorem length_applyMask (k : MaskKey) (bs : Bytes) :
    (applyMask k bs).length = bs.length :=
  length_applyMaskFrom k 0 bs

/-! ## Opcodes -/

/-- `coding::Data`: the opcodes of data frames, reserved ones with their
number. -/
inductive OpData
  | «continue»
  | text
  | binary
  | reserved (n : UInt8)
  deriving DecidableEq, Repr

/-- `coding::Control`: the opcodes of control frames. -/
inductive OpCtl
  | close
  | ping
  | pong
  | reserved (n : UInt8)
  deriving DecidableEq, Repr

/-- `coding::OpCode`. -/
inductive OpCode
  | data (d : OpData)
  | control (c : OpCtl)
  deriving DecidableEq, Repr

/-- The name of a data opcode in error messages; the specification names
them Continuation, Text and Binary. -/
def OpData.name : OpData → String
  | .continue => "Continuation"
  | .text => "Text"
  | .binary => "Binary"
  | .reserved n => "Reserved " ++ toString n

/-- A close code, the `u16` of a Close frame's body. -/
structure CloseCode where
  code : UInt16
  deriving DecidableEq, Repr

namespace CloseCode

/-- `CloseCode::Normal`. -/
def normal : CloseCode := ⟨1000⟩

/-- `CloseCode::Protocol`. -/
def protocol : CloseCode := ⟨1002⟩

/-- Modelled from the spec: `CloseCode::is_allowed` (in `coding.rs`, not in
the sources). Codes 1000–1011 other than 1004, 1005 and 1006, and 3000–4999,
may be sent by a peer (§6, close code policy). -/
def isAllowed (c : CloseCode) : Bool :=
  (1000 ≤ c.code && c.code ≤ 1011 && c.code != 1004 && c.code != 1005 && c.code != 1006) ||
    (3000 ≤ c.code && c.code ≤ 4999)

/-- The two bytes of the code, big-endian. -/
def toBytes (c : CloseCode) : Bytes := [(c.code >>> 8).toUInt8, c.code.toUInt8]

/-- The code a Close frame's first two bytes carry. -/
def ofBytes (hi lo : UInt8) : CloseCode := ⟨hi.toUInt16 <<< 8 ||| lo.toUInt16⟩

end CloseCode

/-! ## Frames -/

/-- A frame: the header bits, the opcode, the masking key if the frame is
masked, and the payload. Received frames carry their payload as it came
off the wire (masked by `mask`); frames the endpoint builds carry it in
clear until `format` masks it. -/
structure Frame where
  isFinal : Bool
  rsv1 : Bool
  rsv2 : Bool
  rsv3 : Bool
  opcode : OpCode
  mask : Option MaskKey
  payload : Bytes
  deriving DecidableEq, Repr

namespace Frame

/-- `is_masked`. -/
def isMasked (f : Frame) : Bool := f.mask.isSome

/-- Some reserved bit is set. -/
def hasRsv (f : Frame) : Bool := f.rsv1 || f.rsv2 || f.rsv3

/-- `remove_mask`: unmask the payload and clear the key. -/
def removeMask (f : Frame) : Frame :=
  match f.mask with
  | some k => { f with payload := applyMask k f.payload, mask := none }
  | none => f

/-- `set_mask`, with the key it generates. -/
def setMask (f : Frame) (k : MaskKey) : Frame := { f with mask := some k }

/-- Modelled from the spec: the frame the peer's parser reads back from what
`format` writes (§4.1): the same header and key, the payload masked by the
key when there is one. -/
def format (f : Frame) : Frame :=
  match f.mask with
  | some k => { f with payload := applyMask k f.payload }
  | none => f

/-- The payload with its mask removed. -/
def unmaskedPayload (f : Frame) : Bytes := f.removeMask.payload

/-- `Frame::message`: an unmasked frame with no reserved bits. -/
def message (data : Bytes) (code : OpCode) (finished : Bool) : Frame :=
  ⟨finished, false, false, false, code, none, data⟩

/-- `Frame::pong`. -/
def pong (data : Bytes) : Frame := message data (.control .pong) true

/-- `Frame::close`: the code and reason, or an empty body. -/
def close (msg : Option (CloseCode × Utf8String)) : Frame :=
  let payload := match msg with
    | some (code, reason) => code.toBytes ++ reason.bytes
    | none => []
  message payload (.control .close) true

/-- Modelled from the spec: `into_close`, the code and reason of a Close
frame's body (RFC 6455 §5.5.1): none for an empty body, an error for a
one-byte body or a reason that is not UTF-8. -/
def intoClose (f : Frame) : Except Error (Option (CloseCode × Utf8String)) :=
  match f.payload with
  | [] => .ok none
  | [_] => .error (.protocol "Invalid close sequence")
  | hi :: lo :: rest =>
    if h : Utf8.valid rest = true then .ok (some (CloseCode.ofBytes hi lo, ⟨rest, h⟩))
    else .error .utf8

@[simp] theorem removeMask_opcode (f : Frame) : f.removeMask.opcode = f.opcode := by
  cases h : f.mask <;> simp [removeMask, h]

@[simp] theorem removeMask_isFinal (f : Frame) : f.removeMask.isFinal = f.isFinal := by
  cases h : f.mask <;> simp [removeMask, h]

@[simp] theorem removeMask_mask (f : Frame) : f.removeMask.mask = none := by
  cases h : f.mask <;> simp [removeMask, h]

@[simp] theorem removeMask_rsv (f : Frame) : f.removeMask.hasRsv = f.hasRsv := by
  cases h : f.mask <;> simp [removeMask, hasRsv, h]

@[simp] theorem length_removeMask_payload (f : Frame) : f.removeMask.payload.length = f.payload.length := by
  cases h : f.mask <;> simp [removeMask, h]

@[simp] theorem format_opcode (f : Frame) : f.format.opcode = f.opcode := by
  cases h : f.mask <;> simp [format, h]

@[simp] theorem format_isFinal (f : Frame) : f.format.isFinal = f.isFinal := by
  cases h : f.mask <;> simp [format, h]

@[simp] theorem format_mask (f : Frame) : f.format.mask = f.mask := by
  cases h : f.mask <;> simp [format, h]

@[simp] theorem format_rsv (f : Frame) : f.format.hasRsv = f.hasRsv := by
  cases h : f.mask <;> simp [format, hasRsv, h]

/-- What the peer unmasks is what was formatted. -/
@[simp] theorem unmaskedPayload_format (f : Frame) : f.format.unmaskedPayload = f.payload := by
  cases h : f.mask <;> simp [format, unmaskedPayload, removeMask, h]

@[simp] theorem unmaskedPayload_of_mask_none {f : Frame} (h : f.mask = none) :
    f.unmaskedPayload = f.payload := by
  simp [unmaskedPayload, removeMask, h]

@[simp] theorem setMask_payload (f : Frame) (k : MaskKey) : (f.setMask k).payload = f.payload := rfl
@[simp] theorem setMask_opcode (f : Frame) (k : MaskKey) : (f.setMask k).opcode = f.opcode := rfl
@[simp] theorem setMask_isFinal (f : Frame) (k : MaskKey) : (f.setMask k).isFinal = f.isFinal := rfl
@[simp] theorem setMask_mask (f : Frame) (k : MaskKey) : (f.setMask k).mask = some k := rfl
@[simp] theorem setMask_hasRsv (f : Frame) (k : MaskKey) : (f.setMask k).hasRsv = f.hasRsv := rfl

@[simp] theorem message_opcode (d : Bytes) (c : OpCode) (b : Bool) : (message d c b).opcode = c := rfl
@[simp] theorem message_isFinal (d : Bytes) (c : OpCode) (b : Bool) : (message d c b).isFinal = b := rfl
@[simp] theorem message_mask (d : Bytes) (c : OpCode) (b : Bool) : (message d c b).mask = none := rfl
@[simp] theorem message_payload (d : Bytes) (c : OpCode) (b : Bool) : (message d c b).payload = d := rfl
@[simp] theorem message_hasRsv (d : Bytes) (c : OpCode) (b : Bool) : (message d c b).hasRsv = false := rfl

@[simp] theorem close_opcode (m : Option (CloseCode × Utf8String)) :
    (close m).opcode = .control .close := rfl
@[simp] theorem close_mask (m : Option (CloseCode × Utf8String)) : (close m).mask = none := rfl

end Frame

end Tungstenite
