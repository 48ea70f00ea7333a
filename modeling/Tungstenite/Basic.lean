import Mathlib.Data.List.Forall2

/-!
# Bytes, UTF-8 text and errors

The vocabulary every other module uses: byte strings (`Bytes`), the UTF-8
check a text message must pass (`Utf8.valid`, RFC 3629 §4), UTF-8 strings as
bytes that carry that check (`Utf8String`, Rust's `String`), and the crate's
error type (`Error`).

`error.rs`, the module that declares the error type, is not in the sources;
its variants here are those the specification's error taxonomy names.
-/

namespace Tungstenite

/-- A byte string, Rust's `Vec<u8>`. -/
abbrev Bytes := List UInt8

namespace Utf8

/-- How a character starts: from its first octet, the number of continuation
octets that follow and the range the first of them must lie in (RFC 3629 §4);
`none` when no character starts with this octet. -/
def lead (a : UInt8) : Option (Nat × UInt8 × UInt8) :=
  if a ≤ 0x7F then some (0, 0x80, 0xBF)
  else if 0xC2 ≤ a ∧ a ≤ 0xDF then some (1, 0x80, 0xBF)
  else if a = 0xE0 then some (2, 0xA0, 0xBF)
  else if 0xE1 ≤ a ∧ a ≤ 0xEC then some (2, 0x80, 0xBF)
  else if a = 0xED then some (2, 0x80, 0x9F)
  else if 0xEE ≤ a ∧ a ≤ 0xEF then some (2, 0x80, 0xBF)
  else if a = 0xF0 then some (3, 0x90, 0xBF)
  else if 0xF1 ≤ a ∧ a ≤ 0xF3 then some (3, 0x80, 0xBF)
  else if a = 0xF4 then some (3, 0x80, 0x8F)
  else none

/-- The rest of a text is valid with `owed` continuation octets still owed,
the next of them in `lo..hi` and the others in `%x80-BF`. -/
def validFrom : Nat → UInt8 → UInt8 → Bytes → Bool
  | 0, _, _, [] => true
  | 0, _, _, a :: rest =>
    match lead a with
    | some (n, lo, hi) => validFrom n lo hi rest
    | none => false
  | _ + 1, _, _, [] => false
  | n + 1, lo, hi, b :: rest => lo ≤ b && b ≤ hi && validFrom n 0x80 0xBF rest

/-- Whether `bs` is a sequence of UTF-8 characters: what `String::from_utf8`
accepts. -/
def valid (bs : Bytes) : Bool := validFrom 0 0x80 0xBF bs

example : valid [0x48, 0xC3, 0xA9, 0xE2, 0x82, 0xAC] = true := by decide
example : valid [0xC3] = false ∧ valid [0xED, 0xA0, 0x80] = false := by decide

end Utf8

/-- A UTF-8 string, Rust's `String`: bytes that are valid UTF-8. -/
structure Utf8String where
  bytes : Bytes
  valid : Utf8.valid bytes = true
  deriving DecidableEq

/-- The bytes of an ASCII literal. -/
def ascii (s : String) : Bytes := s.toList.map fun c => c.toNat.toUInt8

namespace Utf8String

/-- The empty string. -/
def empty : Utf8String := ⟨[], rfl⟩

/-- The reason "Protocol violation", sent in the close reply to a code that
is not allowed. -/
def protocolViolation : Utf8String := ⟨ascii "Protocol violation", by decide⟩

end Utf8String

/-- The crate's error type, as far as the modelled code raises it: protocol
violations with their messages, a message over its size limit, text that is
not UTF-8, and the extension's errors with their messages. -/
inductive Error
  | connectionClosed
  | protocol (msg : String)
  | capacity (msg : String)
  | utf8
  | extension (msg : String)
  deriving DecidableEq, Repr

/-- The error `read_message` reports when the frame socket reaches the end of
its stream. -/
def eofError : Error := .protocol "Connection reset without closing handshake"

end Tungstenite
