import Ak1Driver.Lib.Loop
import Ak1Driver.Proto.Device
import Ak1Driver.Proto.Mode2
import Ak1Driver.Proto.Resample

/-! ACX real-time packet streams. The audio engine and the driver share a ring
of packets; the USB engine moves frames in and out of it and reports each
finished packet. The `u64` frame counts are `Nat`, and shifting a sample right
divides it, rounding down. -/

namespace Ak1Driver.Driver
open Proto Proto.Mode2 Lib.Loop

inductive Slot where
  | output12
  | output34
  | input12
  deriving DecidableEq, Repr

abbrev Packets := Nat → Nat → UInt8

structure Ring where
  buffers : Packets
  count : Nat
  packetBytes : Nat
  firstOffset : Nat

structure Cursor where
  frames : Nat
  qpc : UInt64
  packetStartQpc : UInt64

/-- A packet reported as complete. -/
structure PacketComplete where
  packet : Nat
  qpc : UInt64

structure RtStream where
  slot : Slot
  rate : SampleRate
  containerBytes : Nat
  ring : Ring
  cursor : Cursor
  resampler : Resampler 2
  currentPacket : UInt32
  lastPacketStartQpc : UInt64
  notified : List PacketComplete
  /-- Proof data: frames read from the packets or stored in them so far, also
  while there are none. -/
  moved : Nat

namespace RtStream

def new (slot : Slot) (rate : SampleRate) (containerBits : Nat) : RtStream :=
  { slot := slot
    rate := rate
    containerBytes := containerBits / 8
    ring := { buffers := fun _ _ => 0, count := 0, packetBytes := 0, firstOffset := 0 }
    cursor := { frames := 0, qpc := 0, packetStartQpc := 0 }
    resampler := .boxed
    currentPacket := 0
    lastPacketStartQpc := 0
    notified := []
    moved := 0 }

def blockAlign (stream : RtStream) : Nat := 2 * stream.containerBytes

def framesPerPacket (stream : RtStream) : Nat := stream.ring.packetBytes / stream.blockAlign

/-- The packet and the offset in it of the next frame's bytes. -/
def frameBytes (stream : RtStream) : Option (Nat × Nat) :=
  if stream.ring.count = 0 then none
  else
    let frames := stream.cursor.frames
    let index := (frames / stream.framesPerPacket) % stream.ring.count
    let offset := (frames % stream.framesPerPacket) * stream.blockAlign
    let base := if index = 0 then stream.ring.firstOffset else 0
    some (index, base + offset)

theorem frameBytes_eq_none {stream : RtStream} : stream.frameBytes = none ↔ stream.ring.count = 0 := by
  by_cases empty : stream.ring.count = 0
  · simp [frameBytes, empty]
  · simp [frameBytes, empty]

def advance (stream : RtStream) (qpc : UInt64) : RtStream :=
  let cursor := stream.cursor
  if stream.ring.count = 0 then { stream with cursor := { cursor with frames := cursor.frames + 1, qpc } }
  else
    let cursor := if cursor.frames % stream.framesPerPacket = 0 then { cursor with packetStartQpc := qpc } else cursor
    let cursor := { cursor with frames := cursor.frames + 1, qpc }
    if cursor.frames % stream.framesPerPacket = 0 then
      let completed := cursor.frames / stream.framesPerPacket - 1
      { stream with
        cursor := cursor
        currentPacket := UInt32.ofNat (completed + 1)
        lastPacketStartQpc := cursor.packetStartQpc
        notified := stream.notified ++ [⟨completed, qpc⟩] }
    else { stream with cursor }

def signed16 (bits : Nat) : Int := if bits < 2 ^ 15 then bits else bits - 2 ^ 16

def fromLeBytes (bytes : List UInt8) : Nat := bytes.foldr (fun byte rest => byte.toNat + 2 ^ 8 * rest) 0

/-- A sample of the container, as 24 bits. -/
def readSample (stream : RtStream) (packet offset : Nat) : Int :=
  let byte (place : Nat) : UInt8 := stream.ring.buffers packet (offset + place)
  if stream.containerBytes = 2 then signed16 (fromLeBytes [byte 0, byte 1]) * 2 ^ 8
  else signed32 (fromLeBytes [byte 0, byte 1, byte 2, byte 3]) / 2 ^ 8

def renderFrame (stream : RtStream) (qpc : UInt64) : Frame 2 × RtStream :=
  let stream := { stream with moved := stream.moved + 1 }
  match stream.frameBytes with
  | none => (silence, stream)
  | some (packet, offset) =>
    (#v[stream.readSample packet offset, stream.readSample packet (offset + stream.containerBytes)], stream.advance qpc)

def writeByte (buffers : Packets) (packet offset : Nat) (byte : UInt8) : Packets :=
  Function.update buffers packet (Function.update (buffers packet) offset byte)

/-- Stores the low bytes of a value, least significant first. -/
def writeLe (buffers : Packets) (packet offset count : Nat) (value : Int) : Packets :=
  (List.range count).foldl (fun buffers place =>
    writeByte buffers packet (offset + place) (UInt8.ofNat (bits32 value / 256 ^ place))) buffers

def writeSample (stream : RtStream) (packet offset : Nat) (sample : Int) : RtStream :=
  let buffers :=
    if stream.containerBytes = 2 then writeLe stream.ring.buffers packet offset 2 (sample / 2 ^ 8)
    else writeLe stream.ring.buffers packet offset 4 (sample * 2 ^ 8)
  { stream with ring := { stream.ring with buffers } }

def captureFrame (stream : RtStream) (samples : Frame 2) (qpc : UInt64) : RtStream :=
  let stream := { stream with moved := stream.moved + 1 }
  let stream :=
    match stream.frameBytes with
    | none => stream
    | some (packet, offset) =>
      (stream.writeSample packet offset samples[0]).writeSample packet (offset + stream.containerBytes) samples[1]
  stream.advance qpc

def renderTurn (kernel : Kernel) (qpc : UInt64) (stream : RtStream) : RtStream ⊕ (Frame 2 × RtStream) :=
  match stream.resampler.pop kernel with
  | (some frame, resampler) => .inr (frame, { stream with resampler })
  | (none, resampler) =>
    let (frame, stream) := { stream with resampler }.renderFrame qpc
    .inl { stream with resampler := stream.resampler.push frame }

/-- The next frame to play at `cardHz`, converted from the stream's rate if that differs. -/
def render (kernel : Kernel) (fuel : Nat) (stream : RtStream) (cardHz : Nat) (qpc : UInt64) :
    Option (Frame 2 × RtStream) :=
  let hz := stream.rate.hz
  if hz = cardHz then some (stream.renderFrame qpc)
  else
    let resampler :=
      if stream.resampler.rates ≠ (hz, cardHz) then stream.resampler.reset hz cardHz else stream.resampler
    loop (renderTurn kernel qpc) fuel { stream with resampler }

def captureTurn (kernel : Kernel) (qpc : UInt64) (stream : RtStream) : RtStream ⊕ RtStream :=
  match stream.resampler.pop kernel with
  | (some frame, resampler) => .inl ({ stream with resampler }.captureFrame frame qpc)
  | (none, resampler) => .inr { stream with resampler }

/-- Takes a frame captured at `cardHz`, converted to the stream's rate if that differs. -/
def capture (kernel : Kernel) (fuel : Nat) (stream : RtStream) (samples : Frame 2) (cardHz : Nat) (qpc : UInt64) :
    Option RtStream :=
  let hz := stream.rate.hz
  if hz = cardHz then some (stream.captureFrame samples qpc)
  else
    let resampler :=
      if stream.resampler.rates ≠ (cardHz, hz) then stream.resampler.reset cardHz hz else stream.resampler
    loop (captureTurn kernel qpc) fuel { stream with resampler := resampler.push samples }

def reset (stream : RtStream) : RtStream :=
  { stream with
    cursor := { frames := 0, qpc := 0, packetStartQpc := 0 }
    resampler := stream.resampler.clear
    currentPacket := 0
    lastPacketStartQpc := 0 }

end RtStream
end Ak1Driver.Driver
