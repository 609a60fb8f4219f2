import Ak1Driver.Lib.Transition
import Ak1Driver.Lib.Tally

/-! The engine's transfers in flight, one atomic operation at a time: completion
routines run at the same time with each other and with the thread that starts
and stops the engine. What a routine does with the packets of a transfer happens
between these operations and is not looked at here. -/

namespace Ak1Driver.Driver.Flight

inductive Pipe where
  | capture
  | playback
  deriving DecidableEq

/-- A transfer, by its number on its pipe. -/
inductive Use where
  | capture (index : Nat)
  | playback (index : Nat)
  deriving DecidableEq

def Use.pipe : Use → Pipe
  | .capture _ => .capture
  | .playback _ => .playback

/-- Where a thread is on its way through `prepare_urb` and `send`. -/
inductive SendPoint where
  | prepare
  | reuse
  | format
  | add
  | submit
  /-- The framework has refused the send, which is still counted. -/
  | refused
  deriving DecidableEq

/-- Where a capture transfer's completion routine is. -/
inductive CapturePoint where
  | arrived (success : Bool)
  /-- At this playback transfer in the search for one that is not busy. -/
  | claiming (index : Nat)
  | filling (claimed : Option Nat)
  | sending (index : Nat) (point : SendPoint)
  | releasing (index : Nat)
  | resubmitting (point : SendPoint)
  | leaving
  deriving DecidableEq

inductive PlaybackPoint where
  | arrived
  | leaving
  deriving DecidableEq

/-- A send that the framework has accepted, and what its completion routine does. -/
inductive Completion where
  | accepted (use : Use)
  | capture (index : Nat) (point : CapturePoint)
  | playback (index : Nat) (point : PlaybackPoint)
  | ended
  deriving DecidableEq

/-- Where the thread is that starts the engine and stops it. -/
inductive Control where
  | fresh
  | submitting (index : Nat) (point : SendPoint)
  | started
  | lowering
  | purging (pipe : Pipe)
  | waiting
  | restarting (pipe : Pipe)
  | stopped
  | freed
  deriving DecidableEq

/-- The source's `u32` counts transfers and routines at work, each of them on a
processor of its own, so `inFlight` is a `Nat`. -/
structure Engine where
  running : Bool
  inFlight : Nat
  captures : Nat
  /-- Of each playback transfer, whether it is busy. -/
  busy : List Bool
  purged : Pipe → Bool
  completions : List Completion
  control : Control

namespace Engine

def new (captures playbacks : Nat) : Engine :=
  { running := false
    inFlight := 0
    captures := captures
    busy := List.replicate playbacks false
    purged := fun _ => false
    completions := []
    control := .fresh }

inductive Event where
  /-- The next operation of the thread that starts and stops. -/
  | control (choice : Bool)
  /-- The framework begins an accepted send's completion routine. -/
  | completed (place : Nat) (success : Bool)
  /-- The next operation of a completion routine. -/
  | routine (place : Nat) (choice : Bool)

/-- The next operation of a send; `choice` is whether the framework does it. In
the end, whether the send succeeded. -/
def send (engine : Engine) (use : Use) (choice : Bool) : SendPoint → Option (Engine × (SendPoint ⊕ Bool))
  | .prepare => some (engine, .inl .reuse)
  | .reuse => some (engine, if choice then .inl .format else .inr false)
  | .format => some (engine, if choice then .inl .add else .inr false)
  | .add => some ({ engine with inFlight := engine.inFlight + 1 }, .inl .submit)
  | .submit =>
    if choice = false then some (engine, .inl .refused)
    else if engine.purged use.pipe then none
    else some ({ engine with completions := engine.completions ++ [.accepted use] }, .inr true)
  | .refused => some ({ engine with inFlight := engine.inFlight - 1 }, .inr false)

def goesTo (engine : Engine) (place : Nat) (completion : Completion) : Engine :=
  { engine with completions := engine.completions.set place completion }

/-- `answer` and the rest of `capture_complete`. -/
def captureComplete (engine : Engine) (place index : Nat) (choice : Bool) : CapturePoint → Option Engine
  | .arrived success =>
    some (engine.goesTo place (.capture index (if success && engine.running then .claiming 0 else .leaving)))
  | .claiming playback =>
    match engine.busy[playback]? with
    | none => some (engine.goesTo place (.capture index (.filling none)))
    | some true => some (engine.goesTo place (.capture index (.claiming (playback + 1))))
    | some false =>
      some ({ engine with busy := engine.busy.set playback true }.goesTo place (.capture index (.filling (some playback))))
  | .filling none => some (engine.goesTo place (.capture index (.resubmitting .prepare)))
  | .filling (some playback) =>
    -- Nothing is sent when no frame was rendered.
    some (engine.goesTo place (.capture index (if choice then .sending playback .prepare else .releasing playback)))
  | .sending playback point => do
    let (engine, next) ← engine.send (.playback playback) choice point
    let following := match next with
      | .inl point => CapturePoint.sending playback point
      | .inr true => .resubmitting .prepare
      | .inr false => .releasing playback
    return engine.goesTo place (.capture index following)
  | .releasing playback =>
    some ({ engine with busy := engine.busy.set playback false }.goesTo place (.capture index (.resubmitting .prepare)))
  | .resubmitting point => do
    let (engine, next) ← engine.send (.capture index) choice point
    let following := match next with
      | .inl point => CapturePoint.resubmitting point
      | .inr _ => .leaving
    return engine.goesTo place (.capture index following)
  | .leaving => some ({ engine with inFlight := engine.inFlight - 1 }.goesTo place .ended)

def playbackComplete (engine : Engine) (place index : Nat) : PlaybackPoint → Engine
  | .arrived => { engine with busy := engine.busy.set index false }.goesTo place (.playback index .leaving)
  | .leaving => { engine with inFlight := engine.inFlight - 1 }.goesTo place .ended

/-- The loop over the capture transfers in `start`. -/
def submit (engine : Engine) (index : Nat) : Engine :=
  { engine with control := if index < engine.captures then .submitting index .prepare else .started }

/-- `start`, then `stop`, then the end of the engine. -/
def controlled (engine : Engine) (choice : Bool) : Control → Option Engine
  | .fresh =>
    -- A transfer may not be to be had.
    if choice then some ({ engine with running := true }.submit 0) else some { engine with control := .freed }
  | .submitting index point => do
    let (engine, next) ← engine.send (.capture index) choice point
    return match next with
      | .inl point => { engine with control := .submitting index point }
      | .inr true => engine.submit (index + 1)
      | .inr false => { engine with control := .lowering }
  | .started => some { engine with control := if engine.running then .lowering else .freed }
  | .lowering => some { engine with running := false, control := .purging .capture }
  | .purging .capture => some { engine with purged := Function.update engine.purged .capture true, control := .purging .playback }
  | .purging .playback => some { engine with purged := Function.update engine.purged .playback true, control := .waiting }
  | .waiting => some { engine with control := if engine.inFlight = 0 then .restarting .capture else .waiting }
  | .restarting .capture =>
    some { engine with purged := Function.update engine.purged .capture false, control := .restarting .playback }
  | .restarting .playback => some { engine with purged := Function.update engine.purged .playback false, control := .stopped }
  | .stopped => some { engine with control := .freed }
  | .freed => none

def step (engine : Engine) : Event → Option Engine
  | .control choice => engine.controlled choice engine.control
  | .completed place success =>
    match engine.completions[place]? with
    | some (.accepted (.capture index)) => some (engine.goesTo place (.capture index (.arrived success)))
    | some (.accepted (.playback index)) => some (engine.goesTo place (.playback index .arrived))
    | _ => none
  | .routine place choice =>
    match engine.completions[place]? with
    | some (.capture index point) => engine.captureComplete place index choice point
    | some (.playback index point) => some (engine.playbackComplete place index point)
    | _ => none

end Engine
end Ak1Driver.Driver.Flight
