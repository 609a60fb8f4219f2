import Mathlib.Tactic.IntervalCases
import Ak1Driver.Proto.Mode2

/-! The documented layout of the sample bytes, stated without reference to how
they are coded: what a capture packet and a whole playback stream look like,
and how to read a playback stream back. -/

namespace Ak1Driver.Layout
open Proto Proto.Mode2 Lib.Chunks

/-- Byte `place` of the low 24 bits, byte 0 being the most significant. -/
def be24 (sample : Int) (place : Nat) : UInt8 := UInt8.ofNat ((sample % 2 ^ 24).toNat / 256 ^ (2 - place))

def signed24 (bits : Nat) : Int := if bits < 2 ^ 23 then bits else bits - 2 ^ 24

/-- The signed 24-bit number of three bytes. -/
def sample24 (b0 b1 b2 : UInt8) : Int := signed24 (b0.toNat * 256 ^ 2 + b1.toNat * 256 + b2.toNat)

/-- The check byte of a stream: the stream's number above a bit that is set in
every even block. -/
def check (stream block : Nat) : UInt8 := UInt8.ofNat (2 * stream + if block % 2 = 0 then 1 else 0)

/-- One sample of each stream, byte by byte, after the check bytes of block `index`. -/
def block (index : Nat) (first second : Int) : List UInt8 :=
  [check 0 index, check 1 index, be24 first 0, be24 second 0, be24 first 1, be24 second 1, be24 first 2, be24 second 2]

/-- A capture frame: the right samples in the even block, the left ones in the odd block. -/
def captureFrame (frame : Frame channels) : List UInt8 := block 0 frame[1] frame[3] ++ block 1 frame[0] frame[2]

def capture (frames : List (Frame channels)) : List UInt8 := frames.flatMap captureFrame

/-- A playback frame: the left samples in the even block, the right ones in the odd block. -/
def playbackFrame (frame : Frame channels) : List UInt8 := block 0 frame[0] frame[2] ++ block 1 frame[1] frame[3]

/-- The playback stream of `frames`; it begins with the tail of a silent sample. -/
def playback (frames : List (Frame channels)) : List UInt8 := List.replicate 4 0 ++ frames.flatMap playbackFrame

def frameOf (left0 right0 left1 right1 : Int) : Frame channels := #v[left0, right0, left1, right1]

def leftFirst (bytes : Vector UInt8 frameBytes) : Frame channels :=
  frameOf (sample24 bytes[2] bytes[4] bytes[6]) (sample24 bytes[10] bytes[12] bytes[14])
    (sample24 bytes[3] bytes[5] bytes[7]) (sample24 bytes[11] bytes[13] bytes[15])

def rightFirst (bytes : Vector UInt8 frameBytes) : Frame channels :=
  frameOf (sample24 bytes[10] bytes[12] bytes[14]) (sample24 bytes[2] bytes[4] bytes[6])
    (sample24 bytes[11] bytes[13] bytes[15]) (sample24 bytes[3] bytes[5] bytes[7])

/-- Reads a playback stream: its whole frames after the tail it begins with. -/
def readPlayback (bytes : List UInt8) : List (Frame channels) := (asChunks frameBytes (bytes.drop 4)).map leftFirst

theorem be24_toNat (sample : Int) (place : Nat) :
    (be24 sample place).toNat = (sample % 2 ^ 24).toNat / 256 ^ (2 - place) % 256 := by
  simp [be24]

theorem signed24_bits {sample : Int} (fits : Fits24 sample) : signed24 (sample % 2 ^ 24).toNat = sample := by
  obtain ⟨lower, upper⟩ := fits
  simp only [signed24]
  split <;> omega

theorem bits_signed24 {bits : Nat} (fits : bits < 2 ^ 24) : (signed24 bits % 2 ^ 24).toNat = bits := by
  simp only [signed24]
  split <;> omega

theorem sample24_be24 {sample : Int} (fits : Fits24 sample) :
    sample24 (be24 sample 0) (be24 sample 1) (be24 sample 2) = sample := by
  have rejoined : ∀ bits < 2 ^ 24, bits / 256 ^ 2 % 256 * 256 ^ 2 + bits / 256 % 256 * 256 + bits % 256 = bits := by
    intro bits fits
    omega
  simp only [sample24, be24_toNat, Nat.sub_zero, Nat.reduceSub, Nat.pow_one, Nat.pow_zero, Nat.div_one]
  rw [rejoined _ (by omega)]
  exact signed24_bits fits

theorem be24_sample24 (b0 b1 b2 : UInt8) :
    be24 (sample24 b0 b1 b2) 0 = b0 ∧ be24 (sample24 b0 b1 b2) 1 = b1 ∧ be24 (sample24 b0 b1 b2) 2 = b2 := by
  have h0 := b0.toNat_lt
  have h1 := b1.toNat_lt
  have h2 := b2.toNat_lt
  have bits := @bits_signed24 (b0.toNat * 256 ^ 2 + b1.toNat * 256 + b2.toNat) (by omega)
  simp only [← UInt8.toNat_inj, be24_toNat, sample24, bits]
  omega

theorem checkByte_eq {stream : Nat} (inside : stream < streams) (block : Nat) :
    checkByte stream block = check stream block := by
  have known : ∀ other < streams, ∀ odd : Bool, (UInt8.ofNat other <<< 1) ||| (if odd then 0 else 1) =
      UInt8.ofNat (2 * other + if odd then 0 else 1) := by decide
  have found := known stream inside (decide (block % 2 ≠ 0))
  by_cases even : block % 2 = 0 <;> simpa [checkByte, check, even] using found

@[simp] theorem check_even (stream index : Nat) : check stream (2 * index) = check stream 0 := by
  simp [check]

@[simp] theorem check_odd (stream index : Nat) : check stream (2 * index + 1) = check stream 1 := by
  simp [check, Nat.add_mod]

theorem fromBe24_eq (b0 b1 b2 : UInt8) : fromBe24 b0 b1 b2 = sample24 b0 b1 b2 := by
  have h0 := b0.toNat_lt
  have h1 := b1.toNat_lt
  have h2 := b2.toNat_lt
  have shifted : b0.toNat * 2 ^ 24 + b1.toNat * 2 ^ 16 + b2.toNat * 2 ^ 8 =
      (b0.toNat * 256 ^ 2 + b1.toNat * 256 + b2.toNat) * 2 ^ 8 := by omega
  simp only [fromBe24, sample24, shifted]
  generalize b0.toNat * 256 ^ 2 + b1.toNat * 256 + b2.toNat = bits
  simp only [signed32, signed24]
  split <;> split <;> omega

theorem toBe24_eq (sample : Int) : toBe24 sample = (be24 sample 0, be24 sample 1, be24 sample 2) := by
  have top : bits32 sample / 2 ^ 16 % 256 = (sample % 2 ^ 24).toNat / 256 ^ (2 - 0) % 256 := by
    simp only [bits32]
    omega
  have middle : bits32 sample / 2 ^ 8 % 256 = (sample % 2 ^ 24).toNat / 256 ^ (2 - 1) % 256 := by
    simp only [bits32]
    omega
  have bottom : bits32 sample % 256 = (sample % 2 ^ 24).toNat / 256 ^ (2 - 2) % 256 := by
    simp only [bits32]
    omega
  simp only [toBe24, Prod.mk.injEq, ← UInt8.toNat_inj, be24_toNat, UInt8.toNat_ofNat']
  exact ⟨top, middle, bottom⟩

theorem frame_eta (frame : Frame channels) : frameOf frame[0] frame[1] frame[2] frame[3] = frame := by
  apply Vector.ext
  intro channel inside
  have bound : channel < 4 := inside
  interval_cases channel <;> rfl

theorem bytes_eta (bytes : Vector UInt8 frameBytes) :
    #v[bytes[0], bytes[1], bytes[2], bytes[3], bytes[4], bytes[5], bytes[6], bytes[7],
      bytes[8], bytes[9], bytes[10], bytes[11], bytes[12], bytes[13], bytes[14], bytes[15]] = bytes := by
  apply Vector.ext
  intro place inside
  have bound : place < 16 := inside
  interval_cases place <;> rfl

/-- `captureFrame`, with the number of its bytes. -/
def captureBytes (frame : Frame channels) : Vector UInt8 frameBytes :=
  #v[check 0 0, check 1 0, be24 frame[1] 0, be24 frame[3] 0, be24 frame[1] 1, be24 frame[3] 1, be24 frame[1] 2, be24 frame[3] 2,
    check 0 1, check 1 1, be24 frame[0] 0, be24 frame[2] 0, be24 frame[0] 1, be24 frame[2] 1, be24 frame[0] 2, be24 frame[2] 2]

theorem capture_joined (frames : List (Frame channels)) : capture frames = joined (frames.map captureBytes) := by
  rw [capture, joined, List.flatMap_map]
  rfl

theorem rightFirst_captureBytes {frame : Frame channels} (fits : FrameFits24 frame) :
    rightFirst (captureBytes frame) = frame := by
  have left0 := sample24_be24 (fits 0 (by decide))
  have right0 := sample24_be24 (fits 1 (by decide))
  have left1 := sample24_be24 (fits 2 (by decide))
  have right1 := sample24_be24 (fits 3 (by decide))
  have read : rightFirst (captureBytes frame) =
      frameOf (sample24 (be24 frame[0] 0) (be24 frame[0] 1) (be24 frame[0] 2))
        (sample24 (be24 frame[1] 0) (be24 frame[1] 1) (be24 frame[1] 2))
        (sample24 (be24 frame[2] 0) (be24 frame[2] 1) (be24 frame[2] 2))
        (sample24 (be24 frame[3] 0) (be24 frame[3] 1) (be24 frame[3] 2)) := by
    simp only [rightFirst, captureBytes, Vector.getElem_mk, List.getElem_toArray, List.getElem_cons_succ,
      List.getElem_cons_zero]
  rw [read, left0, right0, left1, right1]
  exact frame_eta frame

theorem captureBytes_rightFirst {bytes : Vector UInt8 frameBytes}
    (first0 : bytes[0] = check 0 0) (first1 : bytes[1] = check 1 0) (second0 : bytes[8] = check 0 1)
    (second1 : bytes[9] = check 1 1) : captureBytes (rightFirst bytes) = bytes := by
  have right0 := be24_sample24 bytes[2] bytes[4] bytes[6]
  have right1 := be24_sample24 bytes[3] bytes[5] bytes[7]
  have left0 := be24_sample24 bytes[10] bytes[12] bytes[14]
  have left1 := be24_sample24 bytes[11] bytes[13] bytes[15]
  have written : captureFrame (rightFirst bytes) =
      [bytes[0], bytes[1], bytes[2], bytes[3], bytes[4], bytes[5], bytes[6], bytes[7],
        bytes[8], bytes[9], bytes[10], bytes[11], bytes[12], bytes[13], bytes[14], bytes[15]] := by
    simp only [captureFrame, block, rightFirst, frameOf, Vector.getElem_mk, List.getElem_toArray, List.getElem_cons_succ,
      List.getElem_cons_zero, right0, right1, left0, left1, first0, first1, second0, second1, List.cons_append,
      List.nil_append]
  refine Eq.trans ?_ (bytes_eta bytes)
  exact Vector.toList_inj.mp written

/-- Left and right of every stream exchanged, which turns one layout into the other. -/
def swapped (frame : Frame channels) : Frame channels := frameOf frame[1] frame[0] frame[3] frame[2]

theorem swapped_fits {frame : Frame channels} (fits : FrameFits24 frame) : FrameFits24 (swapped frame) := by
  intro channel inside
  have bound : channel < 4 := inside
  interval_cases channel
  · exact fits 1 (by decide)
  · exact fits 0 (by decide)
  · exact fits 3 (by decide)
  · exact fits 2 (by decide)

theorem swapped_swapped (frame : Frame channels) : swapped (swapped frame) = frame := frame_eta frame

theorem swapped_rightFirst (bytes : Vector UInt8 frameBytes) : swapped (rightFirst bytes) = leftFirst bytes := rfl

def playbackBytes (frame : Frame channels) : Vector UInt8 frameBytes := captureBytes (swapped frame)

theorem playback_joined (frames : List (Frame channels)) :
    playback frames = List.replicate 4 0 ++ joined (frames.map playbackBytes) := by
  rw [playback, joined, List.flatMap_map]
  rfl

theorem length_playback (frames : List (Frame channels)) : (playback frames).length = 4 + frames.length * frameBytes := by
  rw [playback_joined, List.length_append, List.length_replicate, length_joined, List.length_map]

theorem leftFirst_playbackBytes {frame : Frame channels} (fits : FrameFits24 frame) :
    leftFirst (playbackBytes frame) = frame := by
  rw [← swapped_rightFirst, playbackBytes, rightFirst_captureBytes (swapped_fits fits), swapped_swapped]

/-- A playback stream reads back; what a cut stream has not yet finished is left out. -/
theorem readPlayback_playback {frames : List (Frame channels)} (fits : ∀ frame ∈ frames, FrameFits24 frame)
    {rest : List UInt8} (short : rest.length < frameBytes) : readPlayback (playback frames ++ rest) = frames := by
  have body : (playback frames ++ rest).drop 4 = joined (frames.map playbackBytes) ++ rest := by
    rw [playback_joined, List.append_assoc]
    exact List.drop_left' List.length_replicate
  rw [readPlayback, body, asChunks_of_joined frameBytes_pos _ short, List.map_map]
  refine (List.map_congr_left ?_).trans (List.map_id frames)
  intro frame member
  exact leftFirst_playbackBytes (fits frame member)

theorem playback_check {frames : List (Frame channels)} {index stream : Nat} (inside : index < 2 * frames.length)
    (known : stream < streams) : (playback frames)[4 + (index * 8 + stream)]? = some (check stream index) := by
  have position : index * 8 + stream = index / 2 * frameBytes + (index % 2 * 8 + stream) := by
    simp only [frameBytes, blockBytes]
    omega
  have offset : index % 2 * 8 + stream < frameBytes := by
    simp only [frameBytes, blockBytes, streams] at *
    omega
  have parity : check stream index = check stream (index % 2) := by
    simp [check]
  have byte : ∀ side < 2, ∀ other < streams, ∀ (frame : Frame channels) (within : side * 8 + other < frameBytes),
      (playbackBytes frame)[side * 8 + other] = check other side := by
    intro side sides other others frame within
    simp only [streams] at others
    interval_cases side <;> interval_cases other <;> rfl
  have chunk : index / 2 < frames.length := by omega
  rw [playback_joined, List.getElem?_append_right (by simp), List.length_replicate, Nat.add_sub_cancel_left, position,
    getElem?_joined _ _ _ offset, parity]
  simp [chunk, byte (index % 2) (Nat.mod_lt _ (by decide)) stream known]

end Ak1Driver.Layout
