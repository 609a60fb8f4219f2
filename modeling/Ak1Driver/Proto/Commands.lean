import Mathlib.Algebra.Ring.Nat
import Ak1Driver.Proto.Device

/-! The commands to the card, and what it says to them. -/

namespace Ak1Driver.Proto

abbrev depth24 : UInt8 := 2

namespace Command

abbrev getDeviceInfo : UInt8 := 0x01
abbrev readErp : UInt8 := 0x02
abbrev readAnalog : UInt8 := 0x03
abbrev readIo : UInt8 := 0x04
abbrev midiRead : UInt8 := 0x06
abbrev audioParams : UInt8 := 0x09

end Command

/-- Rate selector used by the command `audioParams`; not in ascending order. -/
def SampleRate.code : SampleRate → UInt8
  | .hz44100 => 0
  | .hz48000 => 1
  | .hz96000 => 2
  | .hz192000 => 3
  | .hz88200 => 4

/-- All of the device's description. -/
structure DeviceInfo extends DeviceSpec where
  fwVersion : UInt16
  hwSubtype : UInt8
  numErp : UInt8
  numAnalogIn : UInt8
  numDigitalIn : UInt8
  numDigitalOut : UInt8
  numMidiOut : UInt8
  numMidiIn : UInt8
  deriving DecidableEq, Repr

def fromLeBytes16 (low high : UInt8) : UInt16 := UInt16.ofNat (low.toNat + 2 ^ 8 * high.toNat)

def DeviceInfo.parse : List UInt8 → Option DeviceInfo
  | low :: high :: hwSubtype :: numErp :: numAnalogIn :: numDigitalIn :: numDigitalOut :: numAnalogAudioOut ::
    numAnalogAudioIn :: numDigitalAudioOut :: numDigitalAudioIn :: numMidiOut :: numMidiIn :: dataAlignment :: _ =>
    some
      { fwVersion := fromLeBytes16 low high
        hwSubtype, numErp, numAnalogIn, numDigitalIn, numDigitalOut, numAnalogAudioOut, numAnalogAudioIn
        numDigitalAudioOut, numDigitalAudioIn, numMidiOut, numMidiIn, dataAlignment }
  | _ => none

/-- Selects sample rate, 24-bit depth and the maximum packet size. -/
def audioParamsRequest (rate : SampleRate) (maxPacketBytes : UInt16) : List UInt8 :=
  [Command.audioParams, rate.code, depth24, UInt8.ofNat maxPacketBytes.toNat, UInt8.ofNat (maxPacketBytes.toNat / 2 ^ 8), 1]

inductive Reply where
  | deviceInfo (spec : DeviceInfo)
  | audioParams (accepted : Bool)
  | midiRead (port : UInt8) (data : List UInt8)
  | readIo (payload : List UInt8)
  | readErp (payload : List UInt8)
  | readAnalog (payload : List UInt8)
  | other (command : UInt8) (payload : List UInt8)
  deriving DecidableEq, Repr

def Reply.parse : List UInt8 → Option Reply
  | [] => none
  | command :: payload =>
    if command = Command.getDeviceInfo then (DeviceInfo.parse payload).map .deviceInfo
    else if command = Command.audioParams then payload.head?.map fun flag => .audioParams (flag == 1)
    else if command = Command.midiRead then
      match payload with
      | port :: length :: rest => if length.toNat ≤ rest.length then some (.midiRead port (rest.take length.toNat)) else none
      | _ => none
    else if command = Command.readIo then some (.readIo payload)
    else if command = Command.readErp then some (.readErp payload)
    else if command = Command.readAnalog then some (.readAnalog payload)
    else some (.other command payload)

/-- What a message says about audio parameters. -/
def acknowledges (message : List UInt8) : Option Bool :=
  match Reply.parse message with
  | some (.audioParams accepted) => some accepted
  | _ => none

end Ak1Driver.Proto
