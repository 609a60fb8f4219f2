import Ak1Driver.Driver.Audio
import Ak1Driver.Driver.Stream
import Ak1Driver.Proto.Property

/-! ASIO sessions and the property requests that move their frames. The value of
a request is the client's own memory; a period passes through a buffer of the
driver's, which may not be had. -/

namespace Ak1Driver.Driver.Requests
open Proto Proto.Property Lib.Bytes Lib.Chunks

inductive PropertyStatus where
  | bufferTooSmall
  | insufficientResources
  | invalidBufferSize
  | invalidDeviceRequest
  | invalidDeviceState
  deriving DecidableEq, Repr

/-- A session's frames, moved between the USB engine and the ASIO driver. -/
structure Session where
  owner : Owner
  /-- The client's event, set when a period is complete. -/
  event : Bool
  buffers : Buffers

namespace Session

def new (reserve : Nat → Except TryReserveError Unit) (owner : Owner) (rate : SampleRate) (period : Nat) :
    Except PropertyStatus Session :=
  let transfer := (rate.hz * packetsPerTransfer) ⌈/⌉ microframesPerSecond
  match Buffers.new reserve period transfer with
  | .ok buffers => .ok ⟨owner, false, buffers⟩
  | .error _ => .error .insufficientResources

def capture (session : Session) (frame : Frame inputs) : Session :=
  let (complete, buffers) := session.buffers.capture frame
  { session with buffers, event := session.event || complete }

def render (session : Session) : Frame outputs × Session :=
  let (frame, buffers) := session.buffers.render
  (frame, { session with buffers })

end Session

/-- Room for so many frames. -/
def frameBuffer (reserve : Nat → Bool) (len : Nat) : Except PropertyStatus (List (Frame channels)) :=
  if reserve len then .ok (List.replicate len silence) else .error .insufficientResources

/-- Runs `f` on the session `owner` started. -/
def withAsio (asio : Option Session) (owner : Owner) (f : Session → α × Session) :
    Except PropertyStatus α × Option Session :=
  match asio with
  | some session =>
    if session.owner = owner then
      let (result, session) := f session
      (.ok result, some session)
    else (.error .invalidDeviceState, some session)
  | none => (.error .invalidDeviceState, none)

/-- A property request: the handle it came through and its value, `none` for a null pointer. -/
structure Request where
  file : Option Owner
  value : Option (List UInt8)

/-- Lays out the header and the frames read. -/
def fill (value : List UInt8) (count : Nat) (frames : List (Frame inputs)) : List UInt8 :=
  storeAll (store value 0 (encode headerBytes count)) headerBytes
    ((frames.take count).map fun frame => frameBytes (frame.map shiftUp))

/-- Fills the value with the oldest complete period, if any; returns its length. -/
def read (reserve : Nat → Bool) (asio : Option Session) (request : Request) :
    Except PropertyStatus (Nat × List UInt8) × Option Session :=
  match request.file, request.value with
  | none, _ => (.error .invalidDeviceRequest, asio)
  | some _, none => (.error .bufferTooSmall, asio)
  | some owner, some value =>
    if value.length < headerBytes then (.error .bufferTooSmall, asio)
    else
      let room := value.length - headerBytes
      match frameBuffer reserve (min (room / (inputs * sampleBytes)) maxPeriodFrames) with
      | .error status => (.error status, asio)
      | .ok frames =>
        match withAsio asio owner fun session =>
            let (read, frames, buffers) := session.buffers.read frames
            ((read, frames), { session with buffers }) with
        | (.error status, asio) => (.error status, asio)
        | (.ok (none, _), asio) => (.error .bufferTooSmall, asio)
        | (.ok (some count, frames), asio) =>
          (.ok (headerBytes + count * (inputs * sampleBytes), fill value count frames), asio)

/-- The frames of a value, in the sample format of the card. -/
def writtenFrames (value : List UInt8) : List (Frame outputs) :=
  (asChunks (outputs * sampleBytes) value).map fun bytes => (frameOf bytes).map shiftDown

/-- Queues the value, a period of output. -/
def write (reserve : Nat → Bool) (asio : Option Session) (request : Request) :
    Except PropertyStatus Unit × Option Session :=
  match request.file, request.value with
  | none, _ => (.error .invalidDeviceRequest, asio)
  | some _, none => (.error .invalidBufferSize, asio)
  | some owner, some value =>
    let count := value.length / (outputs * sampleBytes)
    if value.length % (outputs * sampleBytes) ≠ 0 ∨ maxPeriodFrames < count then (.error .invalidBufferSize, asio)
    else
      match (frameBuffer reserve count : Except PropertyStatus (List (Frame outputs))) with
      | .error status => (.error status, asio)
      | .ok _ =>
        match withAsio asio owner fun session =>
            let (queued, buffers) := session.buffers.write (writtenFrames value)
            (queued, { session with buffers }) with
        | (.error status, asio) => (.error status, asio)
        | (.ok queued, asio) => (if queued then .ok () else .error .invalidBufferSize, asio)

end Ak1Driver.Driver.Requests
