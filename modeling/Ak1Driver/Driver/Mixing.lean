import Ak1Driver.Driver.Requests
import Ak1Driver.Driver.Rt
import Ak1Driver.Lib.Transition

/-! The frames that the card plays: the session's, with the streams of both
output pairs added. The streams are kept by address, and a slot holds the
address of the stream that runs in it. -/

namespace Ak1Driver.Driver
open Proto Proto.Mode2 Requests Lib.Transition

def wrap32 (value : Int) : Int := value.bmod (2 ^ 32)

def left (pair : Frame 2) : Int := pair.get ⟨0, Nat.zero_lt_two⟩

def right (pair : Frame 2) : Int := pair.get ⟨1, Nat.one_lt_two⟩

theorem output12_inside : 0 + 1 < channels := by decide

theorem output34_inside : 2 + 1 < channels := by decide

/-- The turns that the loop in `RtStream.render` is given. -/
abbrev renderTurns : Nat := historyFrames

/-- What the audio lock guards of the things that play. -/
structure Mixer where
  asio : Option Requests.Session
  streams : Nat → RtStream
  running : Slot → Option Nat

namespace Mixer

def renderAsio (mixer : Mixer) : Frame channels × Mixer :=
  match mixer.asio with
  | some session =>
    let (frame, session) := session.render
    (frame, { mixer with asio := some session })
  | none => (silence, mixer)

/-- Adds the next frame of the stream that runs in a slot to channel `first` and the one after it. -/
def addStream (kernel : Kernel) (rateHz : Nat) (qpc : UInt64) (slot : Slot) (first : Nat) (inside : first + 1 < channels)
    (frame : Frame channels) (mixer : Mixer) : Option (Frame channels × Mixer) :=
  match mixer.running slot with
  | none => some (frame, mixer)
  | some address => do
    let (pair, stream) ← (mixer.streams address).render kernel renderTurns rateHz qpc
    let frame := frame.set first (wrap32 (frame.get ⟨first, Nat.lt_of_succ_lt inside⟩ + left pair)) (Nat.lt_of_succ_lt inside)
    let frame := frame.set (first + 1) (wrap32 (frame.get ⟨first + 1, inside⟩ + right pair)) inside
    some (frame, { mixer with streams := Function.update mixer.streams address stream })

/-- Next playback frame of all four outputs: the ASIO output plus each pair's
stream, silence where nothing plays. -/
def render (kernel : Kernel) (rateHz : Nat) (qpc : UInt64) (mixer : Mixer) : Option (Frame channels × Mixer) := do
  let (frame, mixer) := mixer.renderAsio
  let (frame, mixer) ← mixer.addStream kernel rateHz qpc .output12 0 output12_inside frame
  let (frame, mixer) ← mixer.addStream kernel rateHz qpc .output34 2 output34_inside frame
  some (frame.map fun sample => clamp sample minSample maxSample, mixer)

/-- The frame that the encoder asks for. -/
def nextFrame (kernel : Kernel) (rateHz : Nat) (qpc : UInt64) (mixer : Mixer) : Frame channels × Mixer :=
  (mixer.render kernel rateHz qpc).getD (silence, mixer)

def withStream (mixer : Mixer) (address : Nat) (change : RtStream → RtStream) : Mixer :=
  { mixer with streams := Function.update mixer.streams address (change (mixer.streams address)) }

/-- Whether a stream runs in any slot. -/
def runs (mixer : Mixer) (address : Nat) : Bool :=
  [Slot.output12, .output34, .input12].any fun slot => mixer.running slot = some address

end Mixer

/-- The mixer with the encoder that the engine feeds from it. -/
structure Mixing where
  mixer : Mixer
  encoder : PlaybackEncoder
  /-- The bytes encoded since the engine started. -/
  wire : List UInt8
  /-- Proof data: the frames they are of. -/
  mixed : List (Frame channels)

namespace Mixing

inductive Event where
  | openAsio (allocate : Nat → Except TryReserveError Unit) (owner : Owner) (rate : SampleRate) (period : Nat)
  | closeAsio
  | captured (frame : Frame inputs)
  | read (reserve : Nat → Bool) (request : Requests.Request)
  | write (reserve : Nat → Bool) (request : Requests.Request)
  | create (address : Nat) (slot : Slot) (rate : SampleRate) (containerBits : Nat)
  /-- Packets are allocated or freed, or the client writes them. -/
  | packets (address : Nat) (ring : Ring)
  | reset (address : Nat)
  | run (address : Nat)
  | pause (slot : Slot)
  | startEngine
  /-- A packet of a playback transfer is filled. -/
  | reply (rate : SampleRate) (qpc : UInt64) (packet : List UInt8)

def start : Mixing := ⟨⟨none, fun _ => .new .output12 .hz44100 32, fun _ => none⟩, {}, [], []⟩

/-- The next frame, added to those mixed so far. -/
def recorded (kernel : Kernel) (rateHz : Nat) (qpc : UInt64) (progress : Mixer × List (Frame channels)) :
    Frame channels × Mixer × List (Frame channels) :=
  let (mixer, mixed) := progress
  let (frame, mixer) := mixer.nextFrame kernel rateHz qpc
  (frame, mixer, mixed ++ [frame])

def reply (kernel : Kernel) (rateHz : Nat) (qpc : UInt64) (packet : List UInt8) (mixing : Mixing) : Mixing :=
  let (encoder, bytes, mixer, mixed) :=
    mixing.encoder.encode packet (recorded kernel rateHz qpc) (mixing.mixer, mixing.mixed)
  { mixer, encoder, wire := mixing.wire ++ bytes, mixed }

def withAsio (mixing : Mixing) (asio : Option Requests.Session) : Mixing :=
  { mixing with mixer := { mixing.mixer with asio } }

def withStream (mixing : Mixing) (address : Nat) (change : RtStream → RtStream) : Mixing :=
  { mixing with mixer := mixing.mixer.withStream address change }

/-- A stream is made where none runs; the engine fills whole frames. -/
def step (kernel : Kernel) (mixing : Mixing) : Event → Option Mixing
  | .openAsio allocate owner rate period =>
    match mixing.mixer.asio, Requests.Session.new allocate owner rate period with
    | none, .ok session => some (mixing.withAsio (some session))
    | _, _ => some mixing
  | .closeAsio => some (mixing.withAsio none)
  | .captured frame => some (mixing.withAsio (mixing.mixer.asio.map (·.capture frame)))
  | .read reserve request => some (mixing.withAsio (Requests.read reserve mixing.mixer.asio request).2)
  | .write reserve request => some (mixing.withAsio (Requests.write reserve mixing.mixer.asio request).2)
  | .create address slot rate containerBits =>
    if mixing.mixer.runs address then none
    else some (mixing.withStream address fun _ => .new slot rate containerBits)
  | .packets address ring => some (mixing.withStream address fun stream => { stream with ring })
  | .reset address => some (mixing.withStream address .reset)
  | .run address =>
    let slot := (mixing.mixer.streams address).slot
    some { mixing with mixer := { mixing.mixer with running := Function.update mixing.mixer.running slot (some address) } }
  | .pause slot => some { mixing with mixer := { mixing.mixer with running := Function.update mixing.mixer.running slot none } }
  | .startEngine => some { mixing with encoder := {}, wire := [], mixed := [] }
  | .reply rate qpc packet =>
    if packet.length % frameBytes = 0 then some (mixing.reply kernel rate.hz qpc packet) else none

end Mixing
end Ak1Driver.Driver
