import Ak1Driver.Driver.Stream
import Ak1Driver.Lib.Bytes

/-! What an engine counts while it runs, what the driver leaves of it under the
card's key when the engine stops, and what the control panel reads there. -/

namespace Ak1Driver.Driver
open Proto Proto.Mode2 Lib.Bytes Lib.Transition

/-- An engine with the counters of its completion routines. -/
structure Counted (σ : Type) where
  engine : Engine σ
  running : Bool := true
  captureTransfers : UInt32 := 0
  captureFailures : UInt32 := 0
  playbackTransfers : UInt32 := 0

/-- The counters, in the order of the registry value. -/
structure Snapshot where
  captureTransfers : UInt32
  captureFailures : UInt32
  frames : UInt32
  checkErrors : UInt32
  rejectedPackets : UInt32
  playbackTransfers : UInt32
  playbackFailures : UInt32
  playbackOverruns : UInt32
  invalidPackets : UInt32
  deriving DecidableEq, Repr

namespace Snapshot

def toList (snapshot : Snapshot) : List UInt32 :=
  [snapshot.captureTransfers, snapshot.captureFailures, snapshot.frames, snapshot.checkErrors, snapshot.rejectedPackets,
    snapshot.playbackTransfers, snapshot.playbackFailures, snapshot.playbackOverruns, snapshot.invalidPackets]

/-- The words in memory. -/
def toBytes (snapshot : Snapshot) : List UInt8 := snapshot.toList.flatMap fun word => encode 4 word.toNat

end Snapshot

namespace Counted
variable {σ : Type}

def snapshot (counted : Counted σ) : Snapshot :=
  { captureTransfers := counted.captureTransfers
    captureFailures := counted.captureFailures
    frames := counted.engine.stats.frames
    checkErrors := counted.engine.stats.checkErrors
    rejectedPackets := counted.engine.stats.rejectedPackets
    playbackTransfers := counted.playbackTransfers
    playbackFailures := counted.engine.stats.playbackFailures
    playbackOverruns := counted.engine.stats.playbackOverruns
    invalidPackets := counted.engine.stats.invalidPackets }

/-- The framework completes a transfer that it has. Whether it takes what the
routine sends then is told by `sent` and `resubmitted`. -/
inductive Event where
  | captured (results : Vector (UInt32 × Int) packetsPerTransfer) (buffer : Buffer) (qpc : UInt64) (sent resubmitted : Bool)
  | captureFailed
  | played (index : Nat)
  | playbackFailed (index : Nat)
  /-- The engine begins to stop. -/
  | lowered

/-- The transfer is with the framework. -/
def flies (counted : Counted σ) (index : Nat) : Bool := counted.engine.playbacks[index]?.any (·.busy)

def captureComplete (frames : Frames σ) (counted : Counted σ) (results : Vector (UInt32 × Int) packetsPerTransfer)
    (buffer : Buffer) (qpc : UInt64) (sent resubmitted : Bool) : Option (Counted σ) := do
  let counted := { counted with captureTransfers := counted.captureTransfers + 1 }
  if counted.running then
    let engine ← counted.engine.step frames (.captured results buffer qpc sent)
    let counted := { counted with engine }
    return if resubmitted then counted else { counted with captureFailures := counted.captureFailures + 1 }
  else return counted

def playbackComplete (frames : Frames σ) (counted : Counted σ) (index : Nat) (success : Bool) : Option (Counted σ) := do
  let counted := if success then { counted with playbackTransfers := counted.playbackTransfers + 1 }
    else
      let stats := { counted.engine.stats with playbackFailures := counted.engine.stats.playbackFailures + 1 }
      { counted with engine := { counted.engine with stats } }
  let engine ← counted.engine.step frames (.played index)
  return { counted with engine }

def step (frames : Frames σ) (counted : Counted σ) : Event → Option (Counted σ)
  | .captured results buffer qpc sent resubmitted => counted.captureComplete frames results buffer qpc sent resubmitted
  -- Not sent again: once the device is gone the hub completes a resend inline.
  | .captureFailed => some { counted with captureFailures := counted.captureFailures + 1 }
  | .played index => if counted.flies index then counted.playbackComplete frames index true else none
  | .playbackFailed index => if counted.flies index then counted.playbackComplete frames index false else none
  | .lowered => some { counted with running := false }

end Counted

/-- The value after an engine with these counters has stopped. An engine that moved
no audio would hide the one before; the key may be out of reach. -/
def recordStreamStats (snapshot : Snapshot) (reached : Bool) (value : Option (List UInt8)) : Option (List UInt8) :=
  if snapshot.captureTransfers = 0 then value else if reached then some snapshot.toBytes else value

/-- A value of the expected size. -/
def readValue (size : Nat) (value : Option (List UInt8)) : Option (List UInt8) :=
  value.filter (·.length == size)

/-- The counters that the panel shows. Each capture transfer covers 1 ms. -/
structure LastStream where
  captureTransfers : UInt32
  lostPackets : UInt32
  checkErrors : UInt32
  overruns : UInt32
  deriving DecidableEq, Repr

def lastStream (value : Option (List UInt8)) : Option LastStream :=
  (readValue 36 value).map fun bytes =>
    let word (i : Nat) : UInt32 := UInt32.ofNat (decode ((bytes.drop (4 * i)).take 4))
    { captureTransfers := word 0, lostPackets := word 8, checkErrors := word 3, overruns := word 7 }

/-- What happened to one engine, and whether the key was reached when it had stopped. -/
structure Streamed where
  maxPacketBytes : Nat
  events : List Counted.Event
  reached : Bool

/-- The engines that the driver starts one after another, and the value under the key. -/
structure Reporting (σ : Type) where
  counted : Option (Counted σ)
  value : Option (List UInt8)
  /-- Proof data: what has happened to the engine in place. -/
  events : List Counted.Event
  /-- Proof data: what happened to those that have stopped, in order. -/
  past : List Streamed

namespace Reporting
variable {σ : Type}

def start (value : Option (List UInt8)) : Reporting σ := ⟨none, value, [], []⟩

inductive Event (σ : Type) where
  | started (rate : SampleRate) (spec : DeviceSpec) (qpcPerMicroframe : UInt64) (audio : σ)
  | engine (event : Counted.Event)
  /-- No transfer is left with the framework. -/
  | stopped (reached : Bool)

def step (frames : Frames σ) (reporting : Reporting σ) : Event σ → Option (Reporting σ)
  | .started rate spec qpcPerMicroframe audio =>
    match reporting.counted with
    | some _ => none
    | none => some { reporting with
        counted := some { engine := .start rate (spec.maxPacketBytes rate) qpcPerMicroframe audio }
        events := [] }
  | .engine event => do
    let counted ← reporting.counted
    let counted ← counted.step frames event
    some { reporting with counted := some counted, events := reporting.events ++ [event] }
  | .stopped reached => do
    let counted ← reporting.counted
    if counted.running || counted.engine.playbacks.any (·.busy) then none
    else
      some
        { counted := none
          value := recordStreamStats counted.snapshot reached reporting.value
          events := []
          past := reporting.past ++ [⟨counted.engine.maxPacketBytes, reporting.events, reached⟩] }

end Reporting
end Ak1Driver.Driver
