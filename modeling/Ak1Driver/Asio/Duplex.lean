import Ak1Driver.Driver.Requests
import Ak1Driver.Lib.Transition

/-! Streaming through the property set: the session in the kernel and the thread
that reads each period, hands it to the host and writes the host's output back.
The card goes on between any two steps of the thread. A channel that the host
uses has a double buffer of its own, so the channel stands for its address. -/

namespace Ak1Driver
open Lib.Transition

namespace Duplex
open Proto Proto.Property Driver.Requests Lib.Bytes Lib.Chunks

inductive Channel where
  | input (channel : Fin inputs)
  | output (channel : Fin outputs)
  deriving DecidableEq

/-- The host's words, by channel and place in its double buffer. -/
abbrev Memory := Channel → Nat → Int32

structure Host where
  bufferFrames : Nat
  inputs : Vector Bool inputs
  outputs : Vector Bool outputs

/-- Streaming state owned by the worker thread. -/
structure State where
  input : List UInt8
  output : List (Vector Int32 outputs)
  index : Nat
  position : Nat

def State.start (frames : Nat) : State :=
  { input := List.replicate (readValueBytes frames) 0
    output := List.replicate frames (Vector.replicate outputs 0)
    index := 0
    position := 0 }

/-- The driver's handle to the card's filter. -/
structure Device where
  owner : Driver.Owner

/-- Reads the oldest input period into `value`; returns its frame count, 0 if none is complete. -/
def Device.read (device : Device) (reserve : Nat → Bool) (asio : Option Session) (value : List UInt8) :
    Option Nat × List UInt8 × Option Session :=
  match Driver.Requests.read reserve asio ⟨some device.owner, some value⟩ with
  | (.error _, asio) => (none, value, asio)
  | (.ok (filled, value), asio) =>
    if filled < headerBytes then (none, value, asio) else (some (decode (value.take headerBytes)), value, asio)

def Device.write (device : Device) (reserve : Nat → Bool) (asio : Option Session) (frames : List (Vector Int32 outputs)) :
    Bool × Option Session :=
  match Driver.Requests.write reserve asio ⟨some device.owner, some (joined (frames.map frameBytes))⟩ with
  | (.error _, asio) => (false, asio)
  | (.ok (), asio) => (true, asio)

/-- Where a frame lies in the half of a double buffer that a switch hands over. -/
def half (host : Host) (state : State) (i : Nat) : Nat := state.index * host.bufferFrames + i

def put (memory : Memory) (channel : Channel) (place : Nat) (word : Int32) : Memory :=
  Function.update memory channel (Function.update (memory channel) place word)

def showFrame (host : Host) (state : State) (memory : Memory) (frame : Vector UInt8 (inputs * sampleBytes)) (i : Nat) :
    Memory :=
  (List.finRange inputs).foldl (fun memory channel =>
    if host.inputs.get channel then put memory (.input channel) (half host state i) ((frameOf frame).get channel) else memory) memory

/-- What `switch` does before it calls the host back: it copies the period to the host's inputs. -/
def handOver (host : Host) (state : State) (memory : Memory) : Memory :=
  let samples := asChunks (inputs * sampleBytes) (state.input.drop headerBytes)
  (samples.take host.bufferFrames).zipIdx.foldl (fun memory (frame, i) => showFrame host state memory frame i) memory

/-- What `switch` does after the callback: it copies the host's outputs. -/
def collect (host : Host) (state : State) (memory : Memory) : State :=
  { state with
    output := state.output.mapIdx fun i _ =>
      .ofFn fun channel => if host.outputs.get channel then memory (.output channel) (half host state i) else 0
    position := state.position + host.bufferFrames
    index := state.index ^^^ 1 }

inductive Place where
  | waiting
  | reading
  | calling
  | writing
  | ended
  deriving DecidableEq

/-- A switch as the host sees it when it is called, and the session's unread
frames before and after the read that led to it. -/
structure Shown where
  position : Nat
  memory : Memory
  unread : List (Frame inputs)
  remaining : List (Frame inputs)

/-- The session's queued frames before and after a write. -/
structure Written where
  before : List (Frame outputs)
  after : List (Frame outputs)

end Duplex

open Duplex in
structure Duplex where
  device : Device
  host : Host
  asio : Option Driver.Requests.Session
  state : State
  memory : Memory
  /-- The position of the latest switch, which the host may ask for. -/
  clock : Nat
  place : Place
  /-- Proof data: what every switch showed the host and found when it returned, and what its write did. -/
  shown : List Shown
  left : List Memory
  written : List Written

namespace Duplex
open Proto Proto.Property Driver.Requests

def start (device : Device) (host : Host) (session : Session) (memory : Memory) : Duplex :=
  { device, host, asio := some session, state := .start host.bufferFrames, memory, clock := 0, place := .waiting
    shown := [], left := [], written := [] }

inductive Event where
  /-- A frame of the card, which captures before it plays. -/
  | card (frame : Frame inputs)
  | wake
  /-- The wait ends with the stop event or fails. -/
  | leave
  | read (reserve : Nat → Bool)
  /-- The host returns from a switch, its memory changed at will. -/
  | returns (memory : Memory)
  | write (reserve : Nat → Bool)
  /-- The session ends. -/
  | close

def unread (duplex : Duplex) : List (Frame inputs) := (duplex.asio.map (·.buffers.unread)).getD []

def queued (duplex : Duplex) : List (Frame outputs) := (duplex.asio.map (·.buffers.queued)).getD []

/-- `switch` up to the callback. -/
def switch (duplex : Duplex) (unread : List (Frame inputs)) : Duplex :=
  let memory := handOver duplex.host duplex.state duplex.memory
  { duplex with
    clock := duplex.state.position
    memory := memory
    place := .calling
    shown := duplex.shown ++ [⟨duplex.state.position, memory, unread, duplex.unread⟩] }

/-- A read of the loop in `drain`, which goes back to the wait if it finds no period. -/
def drain (duplex : Duplex) (reserve : Nat → Bool) : Duplex :=
  let (count, input, asio) := duplex.device.read reserve duplex.asio duplex.state.input
  let after := { duplex with asio, state := { duplex.state with input } }
  match count with
  | none => { after with place := .ended }
  | some count => if count > 0 then after.switch duplex.unread else { after with place := .waiting }

def send (duplex : Duplex) (reserve : Nat → Bool) : Duplex :=
  let (sent, asio) := duplex.device.write reserve duplex.asio duplex.state.output
  let after := { duplex with asio }
  if sent then { after with place := .reading, written := after.written ++ [⟨duplex.queued, after.queued⟩] }
  else { after with place := .ended }

def step (duplex : Duplex) : Event → Option Duplex
  | .card frame => some { duplex with asio := duplex.asio.map fun session => (session.capture frame).render.2 }
  | .wake => if duplex.place = .waiting then some { duplex with place := .reading } else none
  | .leave => if duplex.place = .waiting then some { duplex with place := .ended } else none
  | .read reserve => if duplex.place = .reading then some (duplex.drain reserve) else none
  | .returns memory =>
    if duplex.place = .calling then
      some { duplex with memory, state := collect duplex.host duplex.state memory, place := .writing, left := duplex.left ++ [memory] }
    else none
  | .write reserve => if duplex.place = .writing then some (duplex.send reserve) else none
  | .close => some { duplex with asio := none }

end Duplex
end Ak1Driver
