import Ak1Driver.Asio.Duplex
import Ak1Driver.Driver.Processing

/-! The streaming thread of a host together with the kernel driver that it reads
from and writes to. Between any two steps of the thread the engine may answer
transfers, and the driver's other clients may open and close sessions, make
requests of their own and start and stop streams. -/

namespace Ak1Driver
open Proto Proto.Property Driver Lib.Chunks

structure Studio where
  engine : Engine Processing
  /-- The thread. The session that it finds is the engine's, whatever `asio` says. -/
  worker : Duplex

namespace Studio

/-- `Duplex.start`: the driver begins a session for the thread's handle. -/
def start (allocate : Nat → Except TryReserveError Unit) (rate : SampleRate) (engine : Engine Processing)
    (device : Duplex.Device) (host : Duplex.Host) (memory : Duplex.Memory) : Option Studio :=
  if host.bufferFrames = 0 ∨ maxPeriodFrames < host.bufferFrames then none
  else
    match engine.audio.mixer.asio, Requests.Session.new allocate device.owner rate host.bufferFrames with
    | none, .ok session =>
      some ⟨{ engine with audio := engine.audio.opened session }, Duplex.start device host session memory⟩
    | _, _ => none

inductive Event where
  /-- The card and the driver's other clients. -/
  | kernel (event : Traffic.Event)
  | worker (event : Duplex.Event)

def present (studio : Studio) : Duplex := { studio.worker with asio := studio.engine.audio.mixer.asio }

def readRequest (worker : Duplex) : Requests.Request := ⟨some worker.device.owner, some worker.state.input⟩

def writeRequest (worker : Duplex) : Requests.Request :=
  ⟨some worker.device.owner, some (joined (worker.state.output.map frameBytes))⟩

/-- What the driver makes of the request that a step of the thread sends. -/
def serve (audio : Processing) (worker : Duplex) : Duplex.Event → Processing
  | .read reserve => audio.read reserve (readRequest worker)
  | .write reserve => audio.write reserve (writeRequest worker)
  | _ => audio

def step (kernel : Kernel) (rate : SampleRate) (studio : Studio) : Event → Option Studio
  | .kernel event => (Traffic.step kernel rate studio.engine event).map fun engine => { studio with engine }
  -- The card's frames and the end of the session are the kernel's steps here.
  | .worker (.card _) | .worker .close => none
  | .worker event =>
    (studio.present.step event).map fun worker =>
      ⟨{ studio.engine with audio := serve studio.engine.audio studio.worker event }, worker⟩

end Studio
end Ak1Driver
