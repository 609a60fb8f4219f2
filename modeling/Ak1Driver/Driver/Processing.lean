import Ak1Driver.Driver.Mixing
import Ak1Driver.Driver.Stream
import Ak1Driver.Exchange

/-! The streaming engine with the audio it moves. The engine answers transfers
while the clients open and close sessions, read and write periods, and start and
stop streams; the audio lock makes each of these one step. -/

namespace Ak1Driver.Driver
open Proto Proto.Mode2 Proto.Property Lib.Chunks

/-- Whether `prepare_hardware` attaches a card that describes itself so. -/
def attaches (spec : DeviceSpec) : Bool := spec.dataAlignment = 2 && spec.streams = Mode2.streams

/-- The turns that the loop in `RtStream.capture` is given. -/
abbrev captureTurns : Nat := historyFrames

namespace Mixer

def captureAsio (samples : Frame 2) (mixer : Mixer) : Mixer := { mixer with asio := mixer.asio.map (·.capture samples) }

def captureStream (kernel : Kernel) (rateHz : Nat) (qpc : UInt64) (samples : Frame 2) (mixer : Mixer) : Option Mixer :=
  match mixer.running .input12 with
  | none => some mixer
  | some address => do
    let stream ← (mixer.streams address).capture kernel captureTurns samples rateHz qpc
    some { mixer with streams := Function.update mixer.streams address stream }

/-- Delivers a captured frame of inputs 1/2. -/
def capture (kernel : Kernel) (rateHz : Nat) (qpc : UInt64) (samples : Frame 2) (mixer : Mixer) : Option Mixer :=
  (mixer.captureAsio samples).captureStream kernel rateHz qpc samples

/-- The audio after the frame that the engine delivers. -/
def delivered (kernel : Kernel) (rateHz : Nat) (qpc : UInt64) (samples : Frame 2) (mixer : Mixer) : Mixer :=
  (mixer.capture kernel rateHz qpc samples).getD (mixer.captureAsio samples)

end Mixer

/-- What the audio lock guards while a transfer is processed, with an account
of the frames moved. -/
structure Processing where
  mixer : Mixer
  qpc : UInt64
  /-- Proof data: the frames delivered since the engine started. -/
  captured : List (Frame inputs)
  /-- Proof data: the frames played since the engine started. -/
  mixed : List (Frame channels)
  /-- Proof data: what has passed through the session in place, as its client sees it. -/
  history : History
  /-- Proof data: what each frame that the session played was mixed from, and when. -/
  sources : List (Mixer × UInt64)

namespace Processing

def start (mixer : Mixer) : Processing := ⟨mixer, 0, [], [], {}, []⟩

def capture (kernel : Kernel) (rateHz : Nat) (processing : Processing) (samples : Frame 2) : Processing :=
  { processing with
    mixer := processing.mixer.delivered kernel rateHz processing.qpc samples
    captured := processing.captured ++ [samples]
    history := { processing.history with captured := processing.history.captured ++ [samples] } }

def render (kernel : Kernel) (rateHz : Nat) (processing : Processing) : Frame channels × Processing :=
  let (frame, mixer) := processing.mixer.nextFrame kernel rateHz processing.qpc
  (frame, { processing with
    mixer
    mixed := processing.mixed ++ [frame]
    history := { processing.history with played := processing.history.played ++ [processing.mixer.renderAsio.1] }
    sources := processing.sources ++ [(processing.mixer, processing.qpc)] })

/-- The `Frames` of a device that runs at `rateHz`. -/
def frames (kernel : Kernel) (rateHz : Nat) : Frames Processing where
  stamp processing qpc := { processing with qpc }
  capture := capture kernel rateHz
  render := render kernel rateHz

/-- The account of a new session begins. -/
def opened (processing : Processing) (session : Requests.Session) : Processing :=
  { processing with mixer := { processing.mixer with asio := some session }, history := {}, sources := [] }

/-- The frames that the value of a read request holds. -/
def readFrames (value : List UInt8) : List (Frame inputs) :=
  (asChunks (inputs * sampleBytes) (value.drop headerBytes)).map fun bytes => (frameOf bytes).map shiftDown

def read (reserve : Nat → Bool) (request : Requests.Request) (processing : Processing) : Processing :=
  let (result, asio) := Requests.read reserve processing.mixer.asio request
  let processing := { processing with mixer := { processing.mixer with asio } }
  match result with
  | .ok (filled, value) =>
    if filled = headerBytes then processing
    else
      let period := readFrames (value.take filled)
      { processing with history := { processing.history with periods := processing.history.periods ++ [period] } }
  | .error _ => processing

def write (reserve : Nat → Bool) (request : Requests.Request) (processing : Processing) : Processing :=
  let (result, asio) := Requests.write reserve processing.mixer.asio request
  let processing := { processing with mixer := { processing.mixer with asio } }
  match result with
  | .ok () =>
    let answer := Requests.writtenFrames (request.value.getD [])
    { processing with history := { processing.history with answers := processing.history.answers ++ [answer] } }
  | .error _ => processing

inductive Event where
  | openAsio (allocate : Nat → Except TryReserveError Unit) (owner : Owner) (period : Nat)
  | closeAsio
  | read (reserve : Nat → Bool) (request : Requests.Request)
  | write (reserve : Nat → Bool) (request : Requests.Request)
  | create (address : Nat) (slot : Slot) (rate : SampleRate) (containerBits : Nat)
  | packets (address : Nat) (ring : Ring)
  | reset (address : Nat)
  | run (address : Nat)
  | pause (slot : Slot)

/-- A stream changes as it does in `Mixing`. -/
def changed (kernel : Kernel) (processing : Processing) (event : Mixing.Event) : Option Processing :=
  (Mixing.step kernel ⟨processing.mixer, {}, [], []⟩ event).map fun mixing => { processing with mixer := mixing.mixer }

/-- What the clients do while the device runs at `rate`. -/
def step (kernel : Kernel) (rate : SampleRate) (processing : Processing) : Event → Option Processing
  | .openAsio allocate owner period =>
    if period = 0 ∨ maxPeriodFrames < period then some processing
    else
      match processing.mixer.asio, Requests.Session.new allocate owner rate period with
      | none, .ok session => some (processing.opened session)
      | _, _ => some processing
  | .closeAsio => some { processing with mixer := { processing.mixer with asio := none } }
  | .read reserve request => some (processing.read reserve request)
  | .write reserve request => some (processing.write reserve request)
  | .create address slot rate containerBits => processing.changed kernel (.create address slot rate containerBits)
  | .packets address ring => processing.changed kernel (.packets address ring)
  | .reset address => processing.changed kernel (.reset address)
  | .run address => processing.changed kernel (.run address)
  | .pause slot => processing.changed kernel (.pause slot)

end Processing

/-- The engine with the clients of its audio. -/
inductive Traffic.Event where
  | transfer (event : Engine.Event)
  | client (event : Processing.Event)

def Traffic.step (kernel : Kernel) (rate : SampleRate) (engine : Engine Processing) :
    Traffic.Event → Option (Engine Processing)
  | .transfer event => engine.step (Processing.frames kernel rate.hz) event
  | .client event => (engine.audio.step kernel rate event).map fun audio => { engine with audio }

end Ak1Driver.Driver
