import Ak1Driver.Lib.Chunks
import Ak1Driver.Proto.Buffers
import Ak1Driver.Proto.Device

/-! Isochronous sample layout of two stereo streams. A byte is a `UInt8`; the
callbacks of the source carry a state through the frames of a packet. -/

namespace Ak1Driver.Proto.Mode2
open Lib.Chunks

abbrev streams : Nat := 2
abbrev channels : Nat := streams * channelsPerStream
abbrev blockBytes : Nat := 8
abbrev frameBytes : Nat := 2 * blockBytes

def checkMask : UInt8 := 0x3f
def outputPanic : UInt8 := 0x80

theorem frameBytes_pos : 0 < frameBytes := Nat.zero_lt_succ _

abbrev Block := Vector UInt8 blockBytes

def firstBlock (bytes : Vector UInt8 frameBytes) : Block := .ofFn fun place => bytes.get (place.castLE (by decide))

def secondBlock (bytes : Vector UInt8 frameBytes) : Block := .ofFn fun place => bytes.get (place.natAdd blockBytes)

structure CaptureStatus where
  frames : Nat := 0
  checkErrors : Nat := 0
  outputRejected : Bool := false
  deriving DecidableEq, Repr

def checkByte (stream blockIndex : Nat) : UInt8 :=
  (UInt8.ofNat stream <<< 1) ||| (if blockIndex % 2 = 0 then 1 else 0)

def bits32 (sample : Int) : Nat := (sample % 2 ^ 32).toNat

def signed32 (bits : Nat) : Int := if bits < 2 ^ 31 then bits else bits - 2 ^ 32

def fromBe24 (b0 b1 b2 : UInt8) : Int :=
  signed32 (b0.toNat * 2 ^ 24 + b1.toNat * 2 ^ 16 + b2.toNat * 2 ^ 8) / 2 ^ 8

def toBe24 (sample : Int) : UInt8 × UInt8 × UInt8 :=
  (UInt8.ofNat (bits32 sample / 2 ^ 16), UInt8.ofNat (bits32 sample / 2 ^ 8), UInt8.ofNat (bits32 sample))

theorem channel_lt (stream : Fin streams) (side : Fin channelsPerStream) :
    stream.val * channelsPerStream + side.val < channels := by
  have := stream.isLt
  simp only [streams, channels, channelsPerStream] at *
  omega

def framesIn (packetLen : Nat) : Nat := packetLen / frameBytes

/-- One stream's share of a capture block, which is the half `blockInFrame` of its frame. -/
def decodeStream (block : Block) (blockIndex : Nat) (blockInFrame : Fin 2)
    (decoded : CaptureStatus × Frame channels) (stream : Fin streams) : CaptureStatus × Frame channels :=
  have inside : 6 + stream.val < blockBytes := Nat.add_lt_add_left stream.isLt 6
  have channel : stream.val * channelsPerStream + blockInFrame.val < channels := channel_lt stream blockInFrame
  let (status, samples) := decoded
  let check := block[stream.val]
  let status :=
    if check &&& checkMask ≠ checkByte stream blockIndex then { status with checkErrors := status.checkErrors + 1 }
    else status
  let status := { status with outputRejected := status.outputRejected || check &&& outputPanic != 0 }
  let sample := fromBe24 block[2 + stream.val] block[4 + stream.val] block[6 + stream.val]
  (status, samples.set (stream * channelsPerStream + blockInFrame) sample)

/-- Decodes frame number `index` of a capture packet, whose left block comes second. -/
def decodeFrame (index : Nat) (bytes : Vector UInt8 frameBytes) (status : CaptureStatus) :
    CaptureStatus × Frame channels :=
  [secondBlock bytes, firstBlock bytes].zipIdx.foldl
    (fun decoded (block, position) =>
      let blockInFrame : Fin 2 := Fin.ofNat 2 position
      let blockIndex := 2 * index + if blockInFrame = 0 then 1 else 0
      (List.finRange streams).foldl (decodeStream block blockIndex blockInFrame) decoded)
    (status, silence)

def decodeNext (frame : σ → Frame channels → σ) (progress : CaptureStatus × σ)
    (next : Vector UInt8 frameBytes × Nat) : CaptureStatus × σ :=
  let (status, state) := progress
  let (bytes, index) := next
  let (status, samples) := decodeFrame index bytes status
  ({ status with frames := status.frames + 1 }, frame state samples)

/-- Decodes whole frames of a capture packet; trailing partial frames are ignored. -/
def decodeCapture (packet : List UInt8) (frame : σ → Frame channels → σ) (state : σ) : CaptureStatus × σ :=
  (asChunks frameBytes packet).zipIdx.foldl (decodeNext frame) ({}, state)

/-- Carries the tail of the last playback sample from one packet into the next. -/
structure PlaybackEncoder where
  tail : Vector (UInt8 × UInt8) streams := Vector.replicate streams (0, 0)
  deriving DecidableEq, Repr

/-- One stream's share of a playback block. -/
def encodeStream (samples : Frame channels) (blockIndex : Nat) (blockInFrame : Fin 2)
    (encoded : PlaybackEncoder × Block) (stream : Fin streams) : PlaybackEncoder × Block :=
  have inside : 6 + stream.val < blockBytes := Nat.add_lt_add_left stream.isLt 6
  have channel : stream.val * channelsPerStream + blockInFrame.val < channels := channel_lt stream blockInFrame
  let (encoder, block) := encoded
  let (b0, b1, b2) := toBe24 samples[stream.val * channelsPerStream + blockInFrame.val]
  let (t1, t2) := encoder.tail[stream.val]
  let block := block.set stream.val t1
  let block := block.set (2 + stream.val) t2
  let block := block.set (4 + stream.val) (checkByte stream blockIndex)
  let block := block.set (6 + stream.val) b0
  ({ tail := encoder.tail.set stream.val (b1, b2) }, block)

def encodeBlock (samples : Frame channels) (index : Nat) (encoder : PlaybackEncoder) (block : Block)
    (blockInFrame : Fin 2) : PlaybackEncoder × Block :=
  let blockIndex := 2 * index + blockInFrame
  (List.finRange streams).foldl (encodeStream samples blockIndex blockInFrame) (encoder, block)

def encodeFrame (samples : Frame channels) (index : Nat) (encoder : PlaybackEncoder)
    (bytes : Vector UInt8 frameBytes) : PlaybackEncoder × List UInt8 :=
  let (encoder, first) := encodeBlock samples index encoder (firstBlock bytes) 0
  let (encoder, second) := encodeBlock samples index encoder (secondBlock bytes) 1
  (encoder, first.toList ++ second.toList)

def encodeNext (nextFrame : σ → Frame channels × σ) (progress : PlaybackEncoder × List UInt8 × σ)
    (next : Vector UInt8 frameBytes × Nat) : PlaybackEncoder × List UInt8 × σ :=
  let (encoder, written, state) := progress
  let (bytes, index) := next
  let (samples, state) := nextFrame state
  let (encoder, bytes) := encodeFrame samples index encoder bytes
  (encoder, written ++ bytes, state)

/-- Fills `packet` (a whole number of frames) with samples from `nextFrame`. -/
def PlaybackEncoder.encode (encoder : PlaybackEncoder) (packet : List UInt8) (nextFrame : σ → Frame channels × σ)
    (state : σ) : PlaybackEncoder × List UInt8 × σ :=
  let (encoder, written, state) := (asChunks frameBytes packet).zipIdx.foldl (encodeNext nextFrame) (encoder, [], state)
  (encoder, written ++ remainder frameBytes packet, state)

end Ak1Driver.Proto.Mode2
