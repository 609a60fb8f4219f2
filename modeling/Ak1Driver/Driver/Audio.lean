import Ak1Driver.Driver.Rt
import Ak1Driver.Lib.Transition
import Mathlib.Data.Finset.Card

/-! Ties the ACX streams and the ASIO session to the USB engine. What runs under
the audio lock is one step; an operation that holds the control lock takes
several, and claims and releases of the rate happen in between. Sessions and
engines are reduced to what these operations read of them, the counters of the
source's `u32` to `Nat`, whose unchecked decrement wraps at zero. -/

namespace Ak1Driver.Driver
open Proto Lib.Transition

abbrev Owner := Nat

/-- An endpoint stream, which is told from others by its address. -/
structure Endpoint where
  address : Nat
  slot : Slot
  rate : SampleRate
  deriving DecidableEq, Repr

structure Session where
  owner : Owner
  /-- Proof data: the rate it asked for. -/
  rate : SampleRate
  deriving DecidableEq, Repr

structure Shared where
  streams : Nat
  rate : Option SampleRate
  deriving DecidableEq, Repr

structure Hardware where
  attached : Bool
  engine : Option SampleRate
  prepared : Nat
  deriving DecidableEq, Repr

structure Audio where
  hardware : Hardware
  shared : Shared
  running : Slot → Option Endpoint
  asio : Option Session

def decrement (count : Nat) : Nat := if count = 0 then 2 ^ 32 - 1 else count - 1

namespace Audio

def new : Audio := ⟨⟨false, none, 0⟩, ⟨0, none⟩, fun _ => none, none⟩

def attach (audio : Audio) : Audio := { audio with hardware := { audio.hardware with attached := true } }

/-- Counts a new stream, whose rate becomes the device's if it has none yet. -/
def claimRate (audio : Audio) (rate : SampleRate) : Audio :=
  { audio with shared := ⟨audio.shared.streams + 1, some (audio.shared.rate.getD rate)⟩ }

def releaseRate (audio : Audio) : Audio :=
  let streams := decrement audio.shared.streams
  { audio with shared := ⟨streams, if streams = 0 then none else audio.shared.rate⟩ }

/-- `started` is what becomes of starting the USB engine. -/
def startEngine (audio : Audio) (rate : SampleRate) (started : Bool) : Bool × Audio :=
  if audio.hardware.attached && started then (true, { audio with hardware := { audio.hardware with engine := some rate } })
  else (false, audio)

theorem startEngine_cases (audio : Audio) (rate : SampleRate) (started : Bool) :
    (audio.startEngine rate started = (true, { audio with hardware := { audio.hardware with engine := some rate } }) ∧
      audio.hardware.attached = true ∧ started = true) ∨
    (audio.startEngine rate started = (false, audio) ∧ ¬ (audio.hardware.attached = true ∧ started = true)) := by
  by_cases able : audio.hardware.attached = true ∧ started = true
  · exact Or.inl ⟨if_pos (by simp [able]), able⟩
  · exact Or.inr ⟨if_neg (by simpa using able), able⟩

def stopEngine (audio : Audio) : Audio := { audio with hardware := { audio.hardware with engine := none } }

def countPrepared (audio : Audio) : Audio :=
  { audio with hardware := { audio.hardware with prepared := audio.hardware.prepared + 1 } }

/-- The saturating decrement with which `release` and `stop_asio` leave the engine. -/
def uncountPrepared (audio : Audio) : Audio :=
  let audio := { audio with hardware := { audio.hardware with prepared := audio.hardware.prepared - 1 } }
  if audio.hardware.prepared = 0 then audio.stopEngine else audio

/-- Counts a session and sets its rate; returns the rate before. -/
def claimAsio (audio : Audio) (rate : SampleRate) : Option SampleRate × Audio :=
  (audio.shared.rate, { audio with shared := ⟨audio.shared.streams + 1, some rate⟩ })

/-- Takes a session's claim back after its engine failed to start. -/
def undoAsio (audio : Audio) (previous : Option SampleRate) : Audio :=
  let streams := decrement audio.shared.streams
  { audio with shared := ⟨streams, if streams = 0 then none else previous⟩ }

/-- The session `owner` started, if any, and what is left without it. -/
def takeAsio (audio : Audio) (owner : Owner) : Option (Session × Audio) :=
  match audio.asio with
  | some session => if session.owner = owner then some (session, { audio with asio := none }) else none
  | none => none

def run (audio : Audio) (stream : Endpoint) : Audio :=
  { audio with running := Function.update audio.running stream.slot (some stream) }

def pause (audio : Audio) (stream : Endpoint) : Audio :=
  if audio.running stream.slot = some stream then
    { audio with running := Function.update audio.running stream.slot none }
  else audio

end Audio

/-- Where the operation that holds the control lock is: what it does next. -/
inductive Section where
  | prepare (stream : Endpoint)
  | prepareStart (stream : Endpoint) (rate : SampleRate)
  | release (stream : Endpoint)
  | startAsio (owner : Owner) (rate : SampleRate)
  | claimAsio (owner : Owner) (rate : SampleRate)
  | changeRate (owner : Owner) (rate : SampleRate) (previous : Option SampleRate)
  | asioStart (owner : Owner) (rate : SampleRate) (previous : Option SampleRate)
  | undoAsio (previous : Option SampleRate)
  | restart (restored : SampleRate)
  | setAsio (owner : Owner) (rate : SampleRate)
  | stopAsio (owner : Owner)
  | leaveAsio
  | releaseAsio
  | suspend
  | resume
  | resumeStart (rate : SampleRate)
  deriving DecidableEq, Repr

/-- The audio of a device and everyone who uses it: the streams with the
framework's view of them, and the calls that have not returned. -/
structure Users where
  audio : Audio
  control : Option Section
  created : Finset Endpoint
  prepared : Finset Endpoint
  /-- Prepared streams whose release waits for the control lock. -/
  releasing : Finset Endpoint
  /-- Calls of `stop_asio` that found the session theirs and wait for the control lock. -/
  stopping : List Owner
  suspended : Bool
  /-- Proof data: whether a counter was ever decremented at zero. -/
  underflow : Bool

namespace Users

def start : Users := ⟨.new, none, ∅, ∅, ∅, [], false, false⟩

inductive Event where
  | attach
  | claimRate (stream : Endpoint)
  | releaseRate (stream : Endpoint)
  | run (stream : Endpoint)
  | pause (stream : Endpoint)
  | beginRelease (stream : Endpoint)
  | beginStop (owner : Owner)
  | lock (entered : Section)
  | advance (started : Bool)
  deriving DecidableEq, Repr

def goOn (users : Users) (audio : Audio) (next : Section) : Users := { users with audio, control := some next }

def finish (users : Users) (audio : Audio) : Users := { users with audio, control := none }

def noteStreams (users : Users) : Users :=
  { users with underflow := users.underflow || users.audio.shared.streams == 0 }

def notePrepared (users : Users) : Users :=
  { users with underflow := users.underflow || users.audio.hardware.prepared == 0 }

/-- Streams are prepared once at a time, and released only when prepared. -/
def enter (users : Users) : Section → Option Users
  | .prepare stream =>
    if stream ∈ users.created ∧ stream ∉ users.prepared then some { users with control := some (.prepare stream) } else none
  | .release stream =>
    if stream ∈ users.releasing then some { users with control := some (.release stream) } else none
  | .startAsio owner rate => some { users with control := some (.startAsio owner rate) }
  | .stopAsio owner =>
    if owner ∈ users.stopping then
      some { users with control := some (.stopAsio owner), stopping := users.stopping.erase owner }
    else none
  | .suspend => some { users with control := some .suspend }
  | .resume => some { users with control := some .resume }
  | _ => none

/-- What the operation that holds the control lock does next. -/
def advance (users : Users) (started : Bool) : Section → Users
  | .prepare stream =>
    match users.audio.hardware.engine with
    | none => users.goOn users.audio (.prepareStart stream (users.audio.shared.rate.getD stream.rate))
    | some _ => { users.finish users.audio.countPrepared with prepared := insert stream users.prepared }
  | .prepareStart stream rate =>
    match users.audio.startEngine rate started with
    | (true, audio) => { users.finish audio.countPrepared with prepared := insert stream users.prepared }
    | (false, audio) => users.finish audio
  | .release stream =>
    { users.notePrepared.finish users.audio.uncountPrepared with
      prepared := users.prepared.erase stream
      releasing := users.releasing.erase stream }
  | .startAsio owner rate =>
    if users.audio.asio.isSome then users.finish users.audio else users.goOn users.audio (.claimAsio owner rate)
  | .claimAsio owner rate =>
    let (previous, audio) := users.audio.claimAsio rate
    users.goOn audio (.changeRate owner rate previous)
  | .changeRate owner rate previous =>
    users.goOn (if previous ≠ some rate then users.audio.stopEngine else users.audio) (.asioStart owner rate previous)
  | .asioStart owner rate previous =>
    match users.audio.hardware.engine with
    | some _ => users.goOn users.audio (.setAsio owner rate)
    | none =>
      match users.audio.startEngine rate started with
      | (true, audio) => users.goOn audio (.setAsio owner rate)
      | (false, audio) => users.goOn audio (.undoAsio previous)
  | .undoAsio previous =>
    let audio := users.audio.undoAsio previous
    match audio.shared.rate with
    | some restored =>
      if audio.hardware.prepared > 0 then users.noteStreams.goOn audio (.restart restored)
      else users.noteStreams.finish audio
    | none => users.noteStreams.finish audio
  | .restart restored => users.finish (users.audio.startEngine restored started).2
  | .setAsio owner rate => users.finish { users.audio.countPrepared with asio := some ⟨owner, rate⟩ }
  | .stopAsio owner =>
    match users.audio.takeAsio owner with
    | some (_, audio) => users.goOn audio .leaveAsio
    | none => users.finish users.audio
  | .leaveAsio => users.notePrepared.goOn users.audio.uncountPrepared .releaseAsio
  | .releaseAsio => users.noteStreams.finish users.audio.releaseRate
  | .suspend => { users.finish users.audio.stopEngine with suspended := true }
  | .resume =>
    match users.audio.shared.rate with
    | some rate =>
      if users.audio.hardware.prepared > 0 ∧ users.audio.hardware.engine = none then
        users.goOn users.audio (.resumeStart rate)
      else { users.finish users.audio with suspended := false }
    | none => { users.finish users.audio with suspended := false }
  | .resumeStart rate => { users.finish (users.audio.startEngine rate started).2 with suspended := false }

/-- Whether the operation that holds the control lock is about a stream. -/
def preparing (users : Users) (stream : Endpoint) : Bool :=
  match users.control with
  | some (.prepare other) => stream = other
  | some (.prepareStart other _) => stream = other
  | _ => false

def step (users : Users) : Event → Option Users
  | .attach => if users.control = none then some { users with audio := users.audio.attach } else none
  | .claimRate stream =>
    if stream ∉ users.created then
      some { users with audio := users.audio.claimRate stream.rate, created := insert stream users.created }
    else none
  | .releaseRate stream =>
    if stream ∈ users.created ∧ stream ∉ users.prepared ∧ users.preparing stream = false then
      some { users.noteStreams with audio := users.audio.releaseRate, created := users.created.erase stream }
    else none
  | .run stream =>
    if stream ∈ users.prepared ∧ stream ∉ users.releasing then some { users with audio := users.audio.run stream } else none
  | .pause stream =>
    if stream ∈ users.prepared ∧ stream ∉ users.releasing then some { users with audio := users.audio.pause stream } else none
  | .beginRelease stream =>
    if stream ∈ users.prepared ∧ stream ∉ users.releasing then
      some { users with audio := users.audio.pause stream, releasing := insert stream users.releasing }
    else none
  | .beginStop owner =>
    -- Most handles never started a session; those do not wait for the control lock.
    match users.audio.asio with
    | some session =>
      if session.owner = owner then some { users with stopping := owner :: users.stopping } else some users
    | none => some users
  | .lock entered => if users.control = none then users.enter entered else none
  | .advance started => users.control.map (users.advance started)

end Users
end Ak1Driver.Driver
