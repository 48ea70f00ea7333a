import Tungstenite.Basic

/-!
# The DEFLATE codec loops

`Deflator::compress` and `Inflator::decompress` drive a flate2 stream object
(`Compress`, `Decompress`) in a loop that grows a `Vec<u8>` as it fills:

* `ByteVec`: a `Vec<u8>` with its capacity, `reserve` growing it as
  `RawVec` does;
* `Flate`: the calls of flate2's two stream objects with a SYNC flush, each
  object's state being the parameters it was built with and the calls made on
  it since (`History`). What a call reports (`Chunk`) carries flate2's
  guarantee: it consumed at most its input and wrote at most the free space it
  was given; given no free space, the compressor reports `BufError`
  (`compress_no_space`);
* `Outcome`: how a call of the code ends: it returns or panics, or the model's
  loop used up its fuel;
* `drive`: the loop, which `Deflator.compress` and `Inflator.decompress` run
  with their own object.
-/

namespace Tungstenite

/-- How a call of the code ends: it returns a value or panics; `div` is a run
of one of the model's loops that used up its fuel before the loop ended. -/
inductive Outcome (α : Type) where
  | ret (a : α)
  | panic (msg : String)
  | div
  deriving DecidableEq, Repr

namespace Outcome

/-- Run `f` on the value returned; a panic or a used-up fuel stays. -/
def bind (o : Outcome α) (f : α → Outcome β) : Outcome β :=
  match o with
  | .ret a => f a
  | .panic msg => .panic msg
  | .div => .div

/-- The value returned, changed by `f`. -/
def map (f : α → β) (o : Outcome α) : Outcome β := o.bind (.ret ∘ f)

@[simp] theorem ret_bind (a : α) (f : α → Outcome β) : (ret a).bind f = f a := rfl
@[simp] theorem panic_bind (m : String) (f : α → Outcome β) : (panic m).bind f = panic m := rfl
@[simp] theorem div_bind (f : α → Outcome β) : (div : Outcome α).bind f = div := rfl
@[simp] theorem map_ret (f : α → β) (a : α) : (ret a).map f = ret (f a) := rfl
@[simp] theorem bind_ret (o : Outcome α) (f : α → β) : o.bind (fun a => ret (f a)) = o.map f := rfl
@[simp] theorem map_map (o : Outcome α) (f : α → β) (g : β → γ) : (o.map f).map g = o.map (g ∘ f) := by
  cases o <;> rfl

end Outcome

/-- A `Vec<u8>`: its bytes, and its capacity, never below their number. -/
structure ByteVec where
  data : Bytes
  capacity : Nat
  le : data.length ≤ capacity

namespace ByteVec

/-- `Vec::with_capacity`. -/
def withCapacity (n : Nat) : ByteVec := ⟨[], n, Nat.zero_le n⟩

/-- `len`. -/
def len (v : ByteVec) : Nat := v.data.length

/-- `Vec::reserve`: nothing when `additional` bytes fit, else the capacity
grows to the largest of twice itself, the length needed and 8
(`RawVec::grow_amortized` for bytes). -/
def reserve (v : ByteVec) (additional : Nat) : ByteVec :=
  if additional ≤ v.capacity - v.len then v
  else ⟨v.data, max 8 (max (2 * v.capacity) (v.len + additional)), by
    simp only [len] at *; omega⟩

/-- The bytes a call wrote into the free space, made part of the vector by
`set_len`. -/
def extend (v : ByteVec) (out : Bytes) (h : out.length ≤ v.capacity - v.len) : ByteVec :=
  ⟨v.data ++ out, v.capacity, by have := v.le; simp only [len, List.length_append] at *; omega⟩

@[simp] theorem withCapacity_data (n : Nat) : (withCapacity n).data = [] := rfl
@[simp] theorem withCapacity_capacity (n : Nat) : (withCapacity n).capacity = n := rfl
@[simp] theorem len_withCapacity (n : Nat) : (withCapacity n).len = 0 := rfl
@[simp] theorem extend_data (v : ByteVec) (out : Bytes) (h) : (v.extend out h).data = v.data ++ out := rfl
@[simp] theorem extend_nil (v : ByteVec) (h) : v.extend [] h = v := by simp [extend]

/-- Reserving room for nothing changes nothing. -/
@[simp] theorem reserve_zero (v : ByteVec) : v.reserve 0 = v := by
  simp [reserve]

end ByteVec

/-- `flate2::Status`. -/
inductive Status
  | ok
  | bufError
  | streamEnd
  deriving DecidableEq, Repr

/-- What one call of a flate2 stream object reports, for `n` bytes of input
and `space` bytes of free output: the bytes it consumed (the difference of
`total_in`), the bytes it wrote, and its status. -/
structure Chunk (n space : Nat) where
  consumed : Nat
  out : Bytes
  status : Status
  consumed_le : consumed ≤ n
  out_le : out.length ≤ space

/-- A call made on a flate2 stream object: the input it was given and the free
output space. -/
structure Call where
  input : Bytes
  space : Nat
  deriving DecidableEq, Repr

/-- The calls made on a stream object since it was built or last reset, oldest
first. With the parameters it was built with they are its state: flate2's
objects are deterministic, and `reset` makes one as it was built. -/
abbrev History := List Call

/-- `flate2::Compression`, a level from 0 to 9. -/
structure Compression where
  level : UInt32
  deriving DecidableEq, Repr

/-- `Compression::fast`. -/
def Compression.fast : Compression := ⟨1⟩

/-- `Compression::best`. -/
def Compression.best : Compression := ⟨9⟩

/-- flate2 as the extension uses it, raw DEFLATE with no zlib header, SYNC
flush on every call. `compress level bits h input space` is what
`compress_vec` reports on a compressor built with `level` and `bits` after the
calls `h`, given `input` and `space` bytes of free output, or the error's
text; `decompress bits h input space` is `decompress` likewise. -/
structure Flate where
  compress : Compression → UInt8 → History → (input : Bytes) → (space : Nat) →
    Except String (Chunk input.length space)
  decompress : UInt8 → History → (input : Bytes) → (space : Nat) →
    Except String (Chunk input.length space)
  /-- Given no free output space, flate2's `compress` reports `BufError`
  having consumed and written nothing: both `deflate`s it may run
  (miniz_oxide's and zlib's) return a buffer error at once, and flate2 maps it
  to `BufError`. -/
  compress_no_space : ∀ level bits h input space, space = 0 →
    compress level bits h input space = .ok ⟨0, [], .bufError, Nat.zero_le _, Nat.zero_le _⟩

/-- The loop of `Deflator::compress` and `Inflator::decompress`, which differ
only in the call they make. When `output` is full it reserves room for the
whole input again; the call writes into the free space and the input it
consumed is split off; the loop returns after a call with status Ok or
BufError that wrote nothing and left no input, and panics with any other
status, the status being the panic's payload. It makes at most `fuel` calls,
and returns the stream's calls with its own added. -/
def drive (call : History → (input : Bytes) → (space : Nat) → Except String (Chunk input.length space))
    (inputLen : Nat) : Nat → History → Bytes → ByteVec → Outcome (History × Except String ByteVec)
  | 0, _, _, _ => .div
  | fuel + 1, h, readBuff, output =>
    let output := if output.len = output.capacity then output.reserve inputLen else output
    let h' := h ++ [⟨readBuff, output.capacity - output.len⟩]
    match call h readBuff (output.capacity - output.len) with
    | .error e => .ret (h', .error e)
    | .ok c =>
      match c.status with
      | .streamEnd => .panic "StreamEnd"
      | _ =>
        if c.out.isEmpty && (readBuff.drop c.consumed).isEmpty then
          .ret (h', .ok (output.extend c.out c.out_le))
        else drive call inputLen fuel h' (readBuff.drop c.consumed) (output.extend c.out c.out_le)

/-- `Deflator`, through the flate2 `Compress` it holds: the level and window
bits it was built with, and the calls made on it. -/
structure Deflator where
  level : Compression
  windowBits : UInt8
  history : History
  deriving DecidableEq, Repr

/-- `Inflator`, through the flate2 `Decompress` it holds: the window bits it
was built with, and the calls made on it. -/
structure Inflator where
  windowBits : UInt8
  history : History
  deriving DecidableEq, Repr

namespace Deflator

/-- A `Deflator` over `Compress::new_with_window_bits(level, false, bits)`. -/
def newWithWindowBits (level : Compression) (bits : UInt8) : Deflator := ⟨level, bits, []⟩

/-- `Deflator::new`: `Compress::new`, with flate2's window of 15 bits. -/
def new (compression : Compression) : Deflator := newWithWindowBits compression 15

/-- `Deflator::reset`. -/
def reset (d : Deflator) : Deflator := { d with history := [] }

/-- `Deflator::compress`. -/
def compress (F : Flate) (fuel : Nat) (d : Deflator) (input : Bytes) (output : ByteVec) :
    Outcome (Deflator × Except String ByteVec) :=
  (drive (F.compress d.level d.windowBits) input.length fuel d.history input output).map
    fun r => ({ d with history := r.1 }, r.2)

end Deflator

namespace Inflator

/-- An `Inflator` over `Decompress::new_with_window_bits(false, bits)`. -/
def newWithWindowBits (bits : UInt8) : Inflator := ⟨bits, []⟩

/-- `Inflator::new`: `Decompress::new`, with flate2's window of 15 bits. -/
def new : Inflator := newWithWindowBits 15

/-- `Inflator::reset`; the flag it passes, no zlib header, is the one every
decompressor here is built with. -/
def reset (i : Inflator) : Inflator := { i with history := [] }

/-- `Inflator::decompress`. -/
def decompress (F : Flate) (fuel : Nat) (i : Inflator) (input : Bytes) (output : ByteVec) :
    Outcome (Inflator × Except String ByteVec) :=
  (drive (F.decompress i.windowBits) input.length fuel i.history input output).map
    fun r => ({ i with history := r.1 }, r.2)

end Inflator

end Tungstenite
