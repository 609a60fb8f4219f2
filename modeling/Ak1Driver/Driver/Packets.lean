import Ak1Driver.Driver.Rt
import Ak1Driver.Lib.Transition

/-! The packets of a real-time stream as its client has them: where they lie in
memory, and what the client asks and is told about them while they fill. -/

namespace Ak1Driver.Driver
open Proto Lib.Transition

abbrev pageSize : Nat := 4096
abbrev maxPackets : Nat := 8

inductive RtStatus where
  | success
  | invalidParameter
  | insufficientResources
  | dataLateError
  | dataOverrun
  deriving DecidableEq, Repr

/-- What ACX learns of a packet: the memory that backs it and the bytes of it
that are the packet. -/
structure RtPacket where
  buffer : Nat
  bufferLength : UInt32
  rtPacketOffset : UInt32
  rtPacketSize : UInt32

/-- A stream with the addresses that its ring's buffers have; null is `none`. -/
structure Mapped where
  stream : RtStream
  buffers : Nat → Option Nat

/-- The memory manager's answers to an allocation of packets: whether there is
room to describe them, and the memory of each packet and whether it is mapped. -/
structure Pool where
  described : Bool
  buffer : Nat → Option Nat
  mapped : Nat → Bool

/-- The bytes of whole pages that hold a packet. -/
def allocBytes (packetBytes : Nat) : Nat := (packetBytes + (pageSize - 1)) / pageSize * pageSize

/-- Packet 0 is shifted to end on a page boundary. -/
def describe (packetBytes index buffer : Nat) : RtPacket :=
  { buffer
    bufferLength := UInt32.ofNat (allocBytes packetBytes)
    rtPacketOffset := if index = 0 then UInt32.ofNat (allocBytes packetBytes - packetBytes) else 0
    rtPacketSize := UInt32.ofNat packetBytes }

namespace Mapped

/-- The address of the next frame's bytes. -/
def frameBytes (mapped : Mapped) : Option Nat := do
  let (index, offset) ← mapped.stream.frameBytes
  let buffer ← mapped.buffers index
  some (buffer + offset)

def freePackets (mapped : Mapped) (count : Nat) : Mapped :=
  { stream := { mapped.stream with ring := { mapped.stream.ring with count := 0 } }
    buffers := fun index => if index < count then none else mapped.buffers index }

/-- The packets from number `index` on; `none` if one cannot be had, after which
those before it are freed. The pool's memory is zero. -/
def allocateFrom (pool : Pool) (packetBytes : Nat) : (left index : Nat) → List RtPacket → Mapped →
    Option (List RtPacket) × Mapped
  | 0, _, packets, mapped => (some packets, mapped)
  | left + 1, index, packets, mapped =>
    match pool.buffer index with
    | none => (none, mapped.freePackets index)
    | some buffer =>
      if pool.mapped index then
        let packet := describe packetBytes index buffer
        let ring := { mapped.stream.ring with buffers := Function.update mapped.stream.ring.buffers index fun _ => 0 }
        allocateFrom pool packetBytes left (index + 1) (packets ++ [packet])
          { stream := { mapped.stream with ring }, buffers := Function.update mapped.buffers index (some buffer) }
      else (none, mapped.freePackets index)

def allocatePackets (mapped : Mapped) (pool : Pool) (count packetBytes : Nat) : Except RtStatus (List RtPacket) × Mapped :=
  if count = 0 ∨ maxPackets < count ∨ packetBytes = 0 ∨ packetBytes % mapped.stream.blockAlign ≠ 0 then
    (.error .invalidParameter, mapped)
  else if !pool.described then (.error .insufficientResources, mapped)
  else
    match allocateFrom pool packetBytes count 0 [] mapped with
    | (none, mapped) => (.error .insufficientResources, mapped)
    | (some packets, mapped) =>
      let firstOffset := allocBytes packetBytes - packetBytes
      (.ok packets, { mapped with stream := { mapped.stream with ring := { mapped.stream.ring with count, packetBytes, firstOffset } } })

/-- The stream when its cursor is at a frame. -/
def seek (mapped : Mapped) (frames : Nat) : Mapped :=
  { mapped with stream := { mapped.stream with cursor := { mapped.stream.cursor with frames } } }

end Mapped

namespace RtStream

/-- A frame of the card, as the engine hands it to a stream. -/
inductive Call where
  | render (cardHz : Nat) (qpc : UInt64)
  | capture (samples : Frame 2) (cardHz : Nat) (qpc : UInt64)

def Call.qpc : Call → UInt64
  | .render _ qpc | .capture _ _ qpc => qpc

def call (kernel : Kernel) (fuel : Nat) (stream : RtStream) : Call → Option RtStream
  | .render cardHz qpc => (stream.render kernel fuel cardHz qpc).map (·.2)
  | .capture samples cardHz qpc => stream.capture kernel fuel samples cardHz qpc

def evtSetRenderPacket (stream : RtStream) (packet : UInt32) : RtStatus :=
  let current := stream.currentPacket
  if packet ≤ current then .dataLateError
  else if current + 1 < packet then .dataOverrun
  else .success

end RtStream

/-- A stream and its client. -/
structure Client where
  stream : RtStream
  /-- Proof data: the time stamp of every frame moved since the stream's reset. -/
  stamps : List UInt64
  /-- What the client was told about the packets it submitted. -/
  answers : List RtStatus

namespace Client

def start (stream : RtStream) : Client := ⟨stream.reset, [], []⟩

inductive Event where
  | call (call : RtStream.Call)
  /-- The client has written the packets. -/
  | fill (buffers : Packets)
  /-- The client submits the packet after the one that is under way. -/
  | submit

/-- The number of packets that the stream has completed. -/
def completed (client : Client) : Nat := client.stamps.length / client.stream.framesPerPacket

/-- A frame moved by a call bears the call's time stamp. -/
def step (kernel : Kernel) (fuel : Nat) (client : Client) : Event → Option Client
  | .call call => do
    let stream ← client.stream.call kernel fuel call
    let count := stream.moved - client.stream.moved
    some { client with stream, stamps := client.stamps ++ List.replicate count call.qpc }
  | .fill buffers =>
    some { client with stream := { client.stream with ring := { client.stream.ring with buffers } } }
  | .submit =>
    let answer := client.stream.evtSetRenderPacket (UInt32.ofNat (client.completed + 1))
    some { client with answers := client.answers ++ [answer] }

end Client
end Ak1Driver.Driver
