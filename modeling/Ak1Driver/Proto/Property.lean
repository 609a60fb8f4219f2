import Ak1Driver.Lib.Bytes
import Ak1Driver.Proto.Buffers

/-! The values of the ASIO property set, as both sides lay them out: a read is
answered by a header and a period of input frames, a write carries a period of
output frames. Samples are 24-bit audio in the high bits of an `i32`, whose
bytes are in the machine's order, the least significant one first. -/

namespace Ak1Driver.Proto.Property
open Lib.Bytes Lib.Chunks

abbrev maxPeriodFrames : Nat := 8192
abbrev sampleBytes : Nat := 4
/-- The header, which is the number of frames that follow. -/
abbrev headerBytes : Nat := 4

def readValueBytes (periodFrames : Nat) : Nat := headerBytes + periodFrames * inputs * sampleBytes

def toNeBytes (word : Int32) : Vector UInt8 sampleBytes :=
  ⟨(encode sampleBytes (word.toInt % 2 ^ 32).toNat).toArray, by simp⟩

def fromNeBytes (bytes : Vector UInt8 sampleBytes) : Int32 := Int32.ofInt (decode bytes.toList)

theorem fromNeBytes_toNeBytes (word : Int32) : fromNeBytes (toNeBytes word) = word := by
  have bits : decode (toNeBytes word).toList = (word.toInt % 2 ^ 32).toNat := by
    apply (decode_encode _ _).trans
    exact Nat.mod_eq_of_lt (show (word.toInt % 2 ^ 32).toNat < 2 ^ 32 by omega)
  have low := Int32.le_toInt word
  have high := Int32.toInt_lt word
  apply Int32.toInt_inj.mp
  rw [fromNeBytes, bits, Int32.toInt_ofInt, Int32.size, Int.bmod_def]
  omega

variable {channels : Nat}

/-- The bytes of a frame in memory. -/
def frameBytes (frame : Vector Int32 channels) : Vector UInt8 (channels * sampleBytes) :=
  ⟨(joined (frame.toList.map toNeBytes)).toArray, by simp⟩

def frameOf (bytes : Vector UInt8 (channels * sampleBytes)) : Vector Int32 channels :=
  ⟨((asChunks sampleBytes bytes.toList).map fromNeBytes).toArray, by simp⟩

theorem frameOf_frameBytes (frame : Vector Int32 channels) : frameOf (frameBytes frame) = frame := by
  have cut : asChunks sampleBytes (joined (frame.toList.map toNeBytes)) = frame.toList.map toNeBytes := by
    have whole := asChunks_of_joined (by decide) (frame.toList.map toNeBytes) (by decide : ([] : List UInt8).length < sampleBytes)
    rwa [List.append_nil] at whole
  have same : ((asChunks sampleBytes (frameBytes frame).toList).map fromNeBytes) = frame.toList := by
    rw [frameBytes, Vector.toList_mk, List.toList_toArray, cut, List.map_map]
    exact (List.map_congr_left fun word _ => fromNeBytes_toNeBytes word).trans (List.map_id _)
  apply Vector.toList_inj.mp
  rw [frameOf, Vector.toList_mk, List.toList_toArray]
  exact same

/-- A sample as the host sees it. -/
def shiftUp (sample : Int) : Int32 := Int32.ofInt (sample * 2 ^ 8)

/-- A word of the host as a sample. -/
def shiftDown (word : Int32) : Int := word.toInt / 2 ^ 8

theorem shiftDown_fits (word : Int32) : Fits24 (shiftDown word) := by
  have low := Int32.le_toInt word
  have high := Int32.toInt_lt word
  rw [Fits24, shiftDown]
  omega

theorem shiftDown_shiftUp {sample : Int} (fits : Fits24 sample) : shiftDown (shiftUp sample) = sample := by
  obtain ⟨low, high⟩ := fits
  have small : (sample * 2 ^ 8).bmod (2 ^ 32) = sample * 2 ^ 8 := by
    apply Int.bmod_eq_of_le <;> omega
  rw [shiftDown, shiftUp, Int32.toInt_ofInt]
  exact (congrArg (· / 2 ^ 8) small).trans (Int.mul_ediv_cancel _ (by decide))

end Ak1Driver.Proto.Property
