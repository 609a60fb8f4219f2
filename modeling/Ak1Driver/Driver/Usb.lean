import Ak1Driver.Lib.Transition
import Ak1Driver.Proto.Commands

/-! The command pipes of the card, as the driver's calls and the card use them.
Calls come one after another; each waits for its sends and reads, which the
framework ends when the card answers or when their time is up. -/

namespace Ak1Driver.Driver
open Proto

abbrev NtStatus := UInt32

def statusIoTimeout : NtStatus := 0xC00000B5
def statusNotSupported : NtStatus := 0xC00000BB

def ntSuccess (status : NtStatus) : Bool := status < 0x80000000

def syncAttempts : Nat := 4
def replyAttempts : Nat := 8

/-- The bytes that a call sends. -/
structure Request where
  call : Nat
  bytes : List UInt8
  deriving DecidableEq

/-- What the card decided about a request. -/
structure Verdict where
  request : Request
  accepted : Bool
  deriving DecidableEq

/-- A call of `set_audio_params`. -/
structure ParamsCall where
  number : Nat
  rate : SampleRate
  maxPacketBytes : UInt16
  deriving DecidableEq

def ParamsCall.request (call : ParamsCall) : Request := ⟨call.number, audioParamsRequest call.rate call.maxPacketBytes⟩

inductive Returned where
  | setAudioParams (call : ParamsCall) (result : Except NtStatus Unit)
  | sync (result : Except NtStatus DeviceInfo)

/-- Where the driver is, with the attempts left after this one. -/
inductive Caller where
  | idle
  | sending (call : ParamsCall)
  | awaiting (call : ParamsCall) (left : Nat)
  | querying (left : Nat)
  | listening (left : Nat)

/-- Whether a call of `set_audio_params` goes on. -/
def Caller.setting : Caller → Bool
  | .sending _ | .awaiting .. => true
  | _ => false

/-- The driver's calls, the command pipes and the card. -/
structure Ak1Usb where
  caller : Caller
  calls : Nat
  /-- The requests that the card has got and not answered, in order. -/
  asked : List Request
  verdicts : List Verdict
  /-- What the card has said and nobody has read, in order. -/
  pipe : List (List UInt8)
  returned : List Returned

namespace Ak1Usb

def opened : Ak1Usb := { caller := .idle, calls := 0, asked := [], verdicts := [], pipe := [], returned := [] }

inductive Event where
  | setAudioParams (rate : SampleRate) (maxPacketBytes : UInt16)
  | sync
  | sent
  /-- A send fails, and the card may have got the request even so. -/
  | sendFailed (status : NtStatus) (delivered : Bool)
  | received
  | receiveFailed (status : NtStatus)
  /-- The card answers its oldest request. -/
  | answered (message : List UInt8)
  /-- The card says something else, a report or its description. -/
  | reported (message : List UInt8)

def finish (usb : Ak1Usb) (returned : Returned) : Ak1Usb :=
  { usb with caller := .idle, returned := usb.returned ++ [returned] }

/-- The end of a turn of the loop in `set_audio_params`. -/
def await (usb : Ak1Usb) (call : ParamsCall) : Nat → Ak1Usb
  | 0 => usb.finish (.setAudioParams call (.error statusIoTimeout))
  | left + 1 => { usb with caller := .awaiting call left }

/-- The end of a turn of the loop in `sync`. -/
def query (usb : Ak1Usb) : Nat → Ak1Usb
  | 0 => usb.finish (.sync (.error statusIoTimeout))
  | left + 1 => { usb with caller := .querying left }

/-- Unsolicited input reports may arrive before the answer. -/
def hear (usb : Ak1Usb) (call : ParamsCall) (left : Nat) (message : List UInt8) : Ak1Usb :=
  match Reply.parse message with
  | some (.audioParams accepted) =>
    usb.finish (.setAudioParams call (if accepted then .ok () else .error statusNotSupported))
  | _ => usb.await call left

theorem hear_eq (usb : Ak1Usb) (call : ParamsCall) (left : Nat) (message : List UInt8) :
    usb.hear call left message =
      match acknowledges message with
      | some accepted => usb.finish (.setAudioParams call (if accepted then .ok () else .error statusNotSupported))
      | none => usb.await call left := by
  simp only [hear, acknowledges]
  cases Reply.parse message with
  | none => rfl
  | some reply => cases reply <;> rfl

def listen (usb : Ak1Usb) (left : Nat) (message : List UInt8) : Ak1Usb :=
  match Reply.parse message with
  | some (.deviceInfo spec) => usb.finish (.sync (.ok spec))
  | _ => usb.query left

def step (usb : Ak1Usb) : Event → Option Ak1Usb
  | .setAudioParams rate maxPacketBytes =>
    match usb.caller with
    | .idle => some { usb with caller := .sending ⟨usb.calls, rate, maxPacketBytes⟩, calls := usb.calls + 1 }
    | _ => none
  | .sync =>
    match usb.caller with
    | .idle => some (usb.query syncAttempts)
    | _ => none
  | .sent =>
    match usb.caller with
    | .sending call => some ({ usb with asked := usb.asked ++ [call.request] }.await call replyAttempts)
    | .querying left => some { usb with caller := .listening left }
    | _ => none
  | .sendFailed status delivered =>
    if ntSuccess status then none
    else
      match usb.caller with
      | .sending call =>
        let asked := if delivered then usb.asked ++ [call.request] else usb.asked
        some ({ usb with asked }.finish (.setAudioParams call (.error status)))
      | .querying _ => some (usb.finish (.sync (.error status)))
      | _ => none
  | .received =>
    match usb.pipe with
    | [] => none
    | message :: pipe =>
      match usb.caller with
      | .awaiting call left => some ({ usb with pipe }.hear call left message)
      | .listening left => some ({ usb with pipe }.listen left message)
      | _ => none
  | .receiveFailed status =>
    if ntSuccess status then none
    else
      match usb.caller with
      | .awaiting call _ => some (usb.finish (.setAudioParams call (.error status)))
      | .listening left =>
        if status = statusIoTimeout then some (usb.query left) else some (usb.finish (.sync (.error status)))
      | _ => none
  | .answered message =>
    match usb.asked, acknowledges message with
    | request :: asked, some accepted =>
      some { usb with asked, verdicts := usb.verdicts ++ [⟨request, accepted⟩], pipe := usb.pipe ++ [message] }
    | _, _ => none
  | .reported message =>
    if acknowledges message = none then some { usb with pipe := usb.pipe ++ [message] } else none

end Ak1Usb
end Ak1Driver.Driver
