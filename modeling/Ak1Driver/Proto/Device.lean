import Mathlib.Data.List.Basic

/-! What the wire protocol says about the card: its sample rates and the
packets it may send. The source's small unsigned types are `Nat` where nothing
can overflow. -/

namespace Ak1Driver.Proto

def maxPacketSize : Nat := 512
abbrev channelsPerStream : Nat := 2

/-- Extra frames per microframe the device may send beyond the nominal rate. -/
def clockDriftTolerance : Nat := 5

inductive SampleRate where
  | hz44100
  | hz48000
  | hz88200
  | hz96000
  | hz192000
  deriving DecidableEq, Repr

def SampleRate.hz : SampleRate → Nat
  | .hz44100 => 44100
  | .hz48000 => 48000
  | .hz88200 => 88200
  | .hz96000 => 96000
  | .hz192000 => 192000

/-- The part of the device's description that the size of its packets depends on. -/
structure DeviceSpec where
  numAnalogAudioOut : UInt8
  numAnalogAudioIn : UInt8
  numDigitalAudioOut : UInt8
  numDigitalAudioIn : UInt8
  dataAlignment : UInt8
  deriving DecidableEq, Repr

namespace DeviceSpec

def captureStreams (spec : DeviceSpec) : Nat :=
  (max spec.numAnalogAudioIn spec.numDigitalAudioIn).toNat / channelsPerStream

def playbackStreams (spec : DeviceSpec) : Nat :=
  (max spec.numAnalogAudioOut spec.numDigitalAudioOut).toNat / channelsPerStream

/-- Stereo streams carried in each packet, in both directions. -/
def streams (spec : DeviceSpec) : Nat := max spec.captureStreams spec.playbackStreams

def wireBytesPerSample (spec : DeviceSpec) : Nat := if 2 ≤ spec.dataAlignment then 4 else 3

/-- Largest isochronous packet the device may send at `rate`. -/
def maxPacketBytes (spec : DeviceSpec) (rate : SampleRate) : Nat :=
  let frames := rate.hz / 8000 + clockDriftTolerance
  let bytes := frames * spec.wireBytesPerSample * channelsPerStream * spec.streams
  min bytes maxPacketSize

theorem maxPacketBytes_le (spec : DeviceSpec) (rate : SampleRate) : spec.maxPacketBytes rate ≤ maxPacketSize :=
  Nat.min_le_right _ _

end DeviceSpec
end Ak1Driver.Proto
