import Ak1Driver.Driver.Packets
import Ak1Driver.Driver.Processing
import Ak1Driver.Lib.Pages

/-! The ring of packets as its client uses it. A client that plays writes each
packet before its turn, into the place that the packet with its number has in
the ring; a client that records reads the packets that are complete. -/

namespace Ak1Driver.Driver
open Proto Proto.Mode2 Lib.Pages

namespace RtStream

/-- Where a packet begins in its pages. -/
def base (stream : RtStream) (index : Nat) : Nat := if index = 0 then stream.ring.firstOffset else 0

/-- A packet's bytes, as its client has them mapped. -/
def packet (packetBytes : Nat) (stream : RtStream) (index : Nat) : Vector UInt8 packetBytes :=
  .ofFn fun place => stream.ring.buffers index (stream.base index + place)

/-- The client writes a packet. -/
def putPacket (stream : RtStream) (index : Nat) (bytes : Vector UInt8 packetBytes) : RtStream :=
  let base := stream.base index
  let buffer (offset : Nat) : UInt8 :=
    if base ≤ offset then (bytes[offset - base]?).getD (stream.ring.buffers index offset) else stream.ring.buffers index offset
  { stream with ring := { stream.ring with buffers := Function.update stream.ring.buffers index buffer } }

/-- The number of the packet that frames are moved in. -/
def underway (stream : RtStream) : Nat := stream.cursor.frames / stream.framesPerPacket

/-- The packet that was finished last and when its first frame was moved. -/
def evtGetCapturePacket (stream : RtStream) : UInt32 × UInt64 := (stream.currentPacket - 1, stream.lastPacketStartQpc)

end RtStream

/-- A sample of a container of bytes, as 24 bits. -/
def sampleAt (containerBytes : Nat) (byte : Nat → UInt8) : Int :=
  if containerBytes = 2 then RtStream.signed16 (RtStream.fromLeBytes [byte 0, byte 1]) * 2 ^ 8
  else signed32 (RtStream.fromLeBytes [byte 0, byte 1, byte 2, byte 3]) / 2 ^ 8

/-- A frame of a packet in the client's format. -/
def frameAt (containerBytes : Nat) (bytes : Vector UInt8 packetBytes) (frame : Nat) : Frame 2 :=
  let byte (place : Nat) : UInt8 := bytes[frame * (2 * containerBytes) + place]?.getD 0
  #v[sampleAt containerBytes byte, sampleAt containerBytes fun place => byte (containerBytes + place)]

/-- A 24-bit sample as a container keeps it. -/
def contain (containerBytes : Nat) (sample : Int) : Int := if containerBytes = 2 then sample / 2 ^ 8 * 2 ^ 8 else sample

/-- The first `frames` frames of the packets used in turn. -/
def audible (containerBytes count : Nat) (initial : Nat → Vector UInt8 packetBytes)
    (packets : Nat → Option (Vector UInt8 packetBytes)) (frames : Nat) : List (Frame 2) :=
  let framesPerPacket := packetBytes / (2 * containerBytes)
  (List.range frames).map fun frame =>
    frameAt containerBytes (shown count initial packets (frame / framesPerPacket)) (frame % framesPerPacket)

/-- A stream that plays and its client. -/
structure Player (packetBytes : Nat) where
  stream : RtStream
  /-- Proof data: the packets that the client wrote. -/
  packets : Nat → Option (Vector UInt8 packetBytes)
  /-- Proof data: the frames that the card got. -/
  played : List (Frame 2)

namespace Player

def start (packetBytes : Nat) (stream : RtStream) : Player packetBytes := ⟨stream.reset, fun _ => none, []⟩

inductive Event (packetBytes : Nat) where
  | write (number : Nat) (bytes : Vector UInt8 packetBytes)
  | render (qpc : UInt64)

def step (kernel : Kernel) (card : SampleRate) (player : Player packetBytes) : Event packetBytes → Option (Player packetBytes)
  | .write number bytes => some { player with
      stream := player.stream.putPacket (number % player.stream.ring.count) bytes
      packets := Function.update player.packets number (some bytes) }
  | .render qpc => do
    let (frame, stream) ← player.stream.render kernel renderTurns card.hz qpc
    some { player with stream, played := player.played ++ [frame] }

/-- The client writes a packet of which no frame has moved, when its place is no longer in use. -/
def Timely (player : Player packetBytes) : Event packetBytes → Prop
  | .write number _ =>
    player.stream.cursor.frames ≤ number * player.stream.framesPerPacket ∧
      number < player.stream.underway + player.stream.ring.count
  | .render _ => True

instance : ∀ (player : Player packetBytes) (event : Event packetBytes), Decidable (player.Timely event)
  | player, .write number _ => inferInstanceAs (Decidable
      (player.stream.cursor.frames ≤ number * player.stream.framesPerPacket ∧
        number < player.stream.underway + player.stream.ring.count))
  | _, .render _ => inferInstanceAs (Decidable True)

end Player

/-- A stream that records, with an account of the frames captured at the card's rate. -/
structure Recorder where
  stream : RtStream
  /-- Proof data. -/
  captured : List (Frame 2)

namespace Recorder

def start (stream : RtStream) : Recorder := ⟨stream.reset, []⟩

def step (kernel : Kernel) (card : SampleRate) (recorder : Recorder) (event : Frame 2 × UInt64) : Option Recorder := do
  let stream ← recorder.stream.capture kernel captureTurns event.1 card.hz event.2
  some { recorder with stream, captured := recorder.captured ++ [event.1] }

/-- The frames of a packet as the client reads them. -/
def frames (packetBytes : Nat) (recorder : Recorder) (number : Nat) : List (Frame 2) :=
  (List.range recorder.stream.framesPerPacket).map
    (frameAt recorder.stream.containerBytes (recorder.stream.packet packetBytes (number % recorder.stream.ring.count)))

end Recorder
end Ak1Driver.Driver
