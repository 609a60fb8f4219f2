import Ak1Driver.Lib.Transition
import Ak1Driver.Proto.Mode2

/-! Isochronous streaming with implicit feedback: every capture transfer that
completes is answered by a playback transfer. An access outside a buffer, an
array or a slice is `none`. The audio side is a parameter: the engine only stamps
times, delivers captured frames and asks for frames to play. -/

namespace Ak1Driver.Driver
open Proto Proto.Mode2 Lib.Transition

abbrev packetsPerTransfer : Nat := 8
def transfers : Nat := 16
abbrev transferBytes : Nat := packetsPerTransfer * maxPacketSize
def usbdStatusSuccess : Int := 0
def microframesPerSecond : Nat := 8000
abbrev maxFramesPerPacket : Nat := maxPacketSize / frameBytes

theorem microframes_pos : 0 < microframesPerSecond := Nat.zero_lt_succ _

/-- The operations on the audio while its lock is held. -/
structure Frames (σ : Type) where
  stamp : σ → UInt64 → σ
  capture : σ → Frame 2 → σ
  render : σ → Frame channels × σ

structure Buffer where
  bytes : List UInt8
  sized : bytes.length = transferBytes

namespace Buffer

def zero : Buffer := ⟨List.replicate transferBytes 0, List.length_replicate⟩

/-- The `len` bytes from `offset`, if the buffer has them all. -/
def slice (buffer : Buffer) (offset len : Nat) : Option (List UInt8) :=
  if offset + len ≤ transferBytes then some ((buffer.bytes.drop offset).take len) else none

def fill (buffer : Buffer) (offset : Nat) (out : List UInt8) : Option Buffer :=
  if fits : offset + out.length ≤ transferBytes then
    some ⟨buffer.bytes.take offset ++ out ++ buffer.bytes.drop (offset + out.length), by
      simp [buffer.sized]
      omega⟩
  else none

end Buffer

structure IsoPacket where
  offset : UInt32
  length : UInt32
  status : Int

structure Transfer where
  packets : Vector IsoPacket packetsPerTransfer
  buffer : Buffer
  bufferLength : UInt32
  busy : Bool

def Transfer.new : Transfer := ⟨Vector.replicate packetsPerTransfer ⟨0, 0, 0⟩, .zero, 0, false⟩

structure Stats where
  frames : UInt32 := 0
  checkErrors : UInt32 := 0
  rejectedPackets : UInt32 := 0
  playbackFailures : UInt32 := 0
  playbackOverruns : UInt32 := 0
  invalidPackets : UInt32 := 0

structure Codec where
  encoder : PlaybackEncoder := {}
  /-- Remainder, in frames times 8000, of the nominal frames per microframe. -/
  nominalRemainder : Nat := 0

/-- Frames the device consumed in a microframe whose capture packet was lost. -/
def Codec.nominalFrames (codec : Codec) (rateHz : Nat) : Nat × Codec :=
  let nominalRemainder := codec.nominalRemainder + rateHz
  (nominalRemainder / microframesPerSecond, { codec with nominalRemainder := nominalRemainder % microframesPerSecond })

structure Sent where
  index : Nat
  transfer : Transfer

structure Engine (σ : Type) where
  rateHz : Nat
  maxPacketBytes : Nat
  qpcPerMicroframe : UInt64
  playbacks : List Transfer
  codec : Codec
  stats : Stats
  audio : σ
  /-- Proof data: every playback transfer sent so far. -/
  sent : List Sent
  /-- Proof data: those that the USB stack took. -/
  taken : List Transfer

namespace Engine
variable {σ : Type}

def start (rate : SampleRate) (maxPacketBytes : Nat) (qpcPerMicroframe : UInt64) (audio : σ) : Engine σ :=
  { rateHz := rate.hz
    maxPacketBytes := maxPacketBytes
    qpcPerMicroframe := qpcPerMicroframe
    playbacks := List.replicate transfers .new
    codec := {}
    stats := {}
    audio := audio
    sent := []
    taken := [] }

def submitCapture (transfer : Transfer) : Transfer :=
  { transfer with
    packets := .ofFn fun i => ⟨UInt32.ofNat (i * maxPacketSize), UInt32.ofNat maxPacketSize, usbdStatusSuccess⟩
    bufferLength := UInt32.ofNat transferBytes }

/-- A capture transfer as the device completes it: any lengths, statuses and
bytes, in the packets laid out by `submitCapture`. -/
def completed (results : Vector (UInt32 × Int) packetsPerTransfer) (buffer : Buffer) : Transfer :=
  let transfer := submitCapture .new
  { transfer with
    packets := transfer.packets.zipWith (fun packet (length, status) => { packet with length, status }) results
    buffer }

structure Decoded where
  frames : Vector (Frame channels) maxFramesPerPacket := Vector.replicate _ silence
  len : Nat := 0

def Decoded.store (decoded : Option Decoded) (frame : Frame channels) : Option Decoded := do
  let decoded ← decoded
  if inside : decoded.len < maxFramesPerPacket then
    some { frames := decoded.frames.set decoded.len frame, len := decoded.len + 1 }
  else none

def Decoded.take (decoded : Decoded) (count : Nat) : Option (List (Frame channels)) :=
  if count ≤ maxFramesPerPacket then some (decoded.frames.toList.take count) else none

/-- What the loop over the packets of a transfer changes. -/
structure Progress (σ : Type) where
  codec : Codec
  stats : Stats
  audio : σ
  playback : Option Transfer
  offset : Nat

def valid (maxPacketBytes : Nat) (packet : IsoPacket) : Bool :=
  packet.status == usbdStatusSuccess && packet.length.toNat ≤ maxPacketBytes && packet.length.toNat % frameBytes == 0

/-- Decodes packet `i` and delivers its frames. Some hosts report lost packets as
successful and full-sized; a packet that cannot be right is played through with
its nominal frame count. -/
def receivePacket (frames : Frames σ) (engine : Engine σ) (capture : Transfer) (qpc : UInt64)
    (progress : Progress σ) (i : Fin packetsPerTransfer) : Option (Nat × Progress σ) := do
  let packet := capture.packets.get i
  let last := UInt64.ofNat packetsPerTransfer - 1
  let audio := frames.stamp progress.audio (qpc - (last - UInt64.ofNat i) * engine.qpcPerMicroframe)
  let received := packet.length.toNat
  let valid := valid engine.maxPacketBytes packet
  let len := if valid then received else 0
  let stats := if valid then progress.stats
    else { progress.stats with invalidPackets := progress.stats.invalidPackets + 1 }
  let data ← capture.buffer.slice packet.offset.toNat len
  let (status, decoded) := decodeCapture data Decoded.store (some {})
  let decoded ← decoded
  let stats := { stats with
    frames := stats.frames + UInt32.ofNat status.frames
    checkErrors := stats.checkErrors + UInt32.ofNat status.checkErrors
    rejectedPackets := stats.rejectedPackets + if status.outputRejected then 1 else 0 }
  -- A lost packet still took device time: keep both streams moving.
  let (frameCount, codec) := if valid then (status.frames, progress.codec) else progress.codec.nominalFrames engine.rateHz
  let clean := valid && status.checkErrors == 0
  let decoded ← decoded.take frameCount
  let audio := decoded.foldl (fun audio frame => frames.capture audio (if clean then #v[frame.get 0, frame.get 1] else silence)) audio
  return (frameCount, { progress with codec, stats, audio })

/-- Renders `frameCount` frames into packet `i` of the playback transfer, if there is one. -/
def replyPacket (frames : Frames σ) (progress : Progress σ) (i : Fin packetsPerTransfer) (frameCount : Nat) :
    Option (Progress σ) := do
  let outLen := frameCount * frameBytes
  match progress.playback with
  | none => return progress
  | some transfer =>
    let packets := transfer.packets.set i
      { transfer.packets.get i with offset := UInt32.ofNat progress.offset, length := UInt32.ofNat outLen }
    let out ← transfer.buffer.slice progress.offset outLen
    let (encoder, out, audio) := progress.codec.encoder.encode out frames.render progress.audio
    let buffer ← transfer.buffer.fill progress.offset out
    return { progress with
      codec := { progress.codec with encoder }
      audio
      playback := some { transfer with packets, buffer }
      offset := progress.offset + outLen }

def answerPacket (frames : Frames σ) (engine : Engine σ) (capture : Transfer) (qpc : UInt64)
    (progress : Progress σ) (i : Fin packetsPerTransfer) : Option (Progress σ) := do
  let (frameCount, progress) ← receivePacket frames engine capture qpc progress i
  replyPacket frames progress i frameCount

/-- Sends the playback transfer at `index` with the `offset` bytes filled in;
`accepted` tells whether the USB stack takes it. -/
def sendAnswer (engine : Engine σ) (index : Nat) (transfer : Transfer) (offset : Nat) (accepted : Bool) : Engine σ :=
  if offset = 0 then { engine with playbacks := engine.playbacks.set index { transfer with busy := false } }
  else
    let transfer := { transfer with bufferLength := UInt32.ofNat offset }
    let engine := { engine with sent := engine.sent ++ [Sent.mk index transfer] }
    if accepted then { engine with playbacks := engine.playbacks.set index transfer, taken := engine.taken ++ [transfer] }
    else { engine with
      stats := { engine.stats with playbackFailures := engine.stats.playbackFailures + 1 }
      playbacks := engine.playbacks.set index { transfer with busy := false } }

/-- Decodes a completed capture transfer and sends the matching playback transfer. -/
def answer (frames : Frames σ) (engine : Engine σ) (capture : Transfer) (qpc : UInt64) (accepted : Bool) :
    Option (Engine σ) := do
  let found := engine.playbacks.findIdx? (!·.busy)
  let playback := found.bind fun index => engine.playbacks[index]?.map ({ · with busy := true })
  let stats := if playback.isNone then { engine.stats with playbackOverruns := engine.stats.playbackOverruns + 1 }
    else engine.stats
  let { codec, stats, audio, playback, offset } ← (List.finRange packetsPerTransfer).foldlM
    (answerPacket frames engine capture qpc)
    { codec := engine.codec, stats, audio := engine.audio, playback, offset := 0 }
  let engine := { engine with codec, stats, audio }
  match found, playback with
  | some index, some transfer => return engine.sendAnswer index transfer offset accepted
  | _, _ => return engine

inductive Event where
  | captured (results : Vector (UInt32 × Int) packetsPerTransfer) (buffer : Buffer) (qpc : UInt64) (accepted : Bool)
  | played (index : Nat)

def step (frames : Frames σ) (engine : Engine σ) : Event → Option (Engine σ)
  | .captured results buffer qpc accepted => engine.answer frames (completed results buffer) qpc accepted
  | .played index => some { engine with playbacks := engine.playbacks.modify index ({ · with busy := false }) }

end Engine
end Ak1Driver.Driver
