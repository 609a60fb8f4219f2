import Mathlib.Algebra.Ring.Nat
import Ak1Driver.Lib.Transition
import Ak1Driver.Proto.Device

/-! The object that a host gets for the card, as threads go through it: where its
methods lock the driver, call the host back and wait for threads to end. The
streaming and watching threads may end at any time; what they stream is not
looked at here. -/

namespace Ak1Driver.Asio
open Proto

/-- The least power of two, as a `u32`, that is not below a number. -/
def nextPowerOfTwo (number : Nat) : Nat := (((List.range 32).map (2 ^ ·)).find? (number ≤ ·)).getD 0

def transferMs : Nat := 1
def largestMultiple : Nat := 32

def minBufferFrames (rate : SampleRate) : Nat := nextPowerOfTwo ((rate.hz * transferMs * 9 / 8 + 999) / 1000)

def maxBufferFrames (rate : SampleRate) : Nat := minBufferFrames rate * largestMultiple

structure Settings where
  bufferMultiple : Nat

/-- The buffer size, in frames, to offer a host running at `rate`. -/
def Settings.bufferFrames (settings : Settings) (rate : SampleRate) : Nat := minBufferFrames rate * settings.bufferMultiple

structure Session where
  /-- The streaming thread to be joined. -/
  thread : Option Nat
  bufferFrames : Nat
  running : Bool
  /-- The buffer size suits only the rate the host read the sizes at. -/
  staleSize : Bool

structure Driver where
  /-- Whether the card's filter has been found. -/
  device : Bool
  rate : SampleRate
  /-- The rate the host last read the buffer sizes at. -/
  listedRate : Option SampleRate
  session : Option Session

/-- The calls that the driver makes to the host. -/
inductive Callback where
  | bufferSwitch
  | supportsTimeInfo
  | selectorSupported
  | resetRequest
  deriving DecidableEq

/-- The code of the methods that depends on the state. An outcome that is not the
driver's to decide is an argument. -/
inductive Part where
  | addRef
  | release
  /-- The end of `release`, after the watch thread's. -/
  | dropDriver
  | startWatch (started : Bool)
  | findDevice (found : Bool)
  | start (started : Bool)
  | signalStop
  | stopStreams
  | read
  | listRate
  | setRate (rate : Option SampleRate)
  | checkBuffers (valid opened : Bool) (size : Nat)
  | openDuplex (opened : Bool) (size : Nat)
  | takeSession
  | applyBufferSize (settings : Settings)

inductive Action where
  | lock
  | unlock
  | callback (callback : Callback)
  | join (thread : Nat) (unlessSelf : Bool)
  | perform (part : Part)
  /-- The loop of the streaming thread. -/
  | stream
  /-- The loop of the thread that watches the settings. -/
  | watch

/-- The methods of `IASIO`. A rate that a host sets is `none` when the driver has
no such rate. -/
inductive Method where
  | queryInterface (known : Bool)
  | addRef
  | release
  | init (watched found : Bool)
  | getDriverName
  | getDriverVersion
  | getErrorMessage
  | start (started : Bool)
  | stop
  | getChannels
  | getLatencies
  | getBufferSize
  | canSampleRate
  | getSampleRate
  | setSampleRate (rate : Option SampleRate)
  | getClockSources
  | setClockSource
  | getSamplePosition
  | getChannelInfo
  | createBuffers (valid opened : Bool) (size : Nat)
  | disposeBuffers
  | controlPanel (spawned : Bool)
  | future
  | outputReady

def Method.actions : Method → List Action
  | .queryInterface known => if known then [.perform .addRef] else []
  | .addRef => [.perform .addRef]
  | .release => [.perform .release]
  | .init watched found => [.perform (.startWatch watched), .lock, .perform (.findDevice found)]
  | .start started => [.lock, .perform (.start started)]
  | .stop => [.lock, .perform .signalStop]
  | .getBufferSize => [.lock, .perform .listRate]
  | .getErrorMessage | .getLatencies | .getSampleRate | .getChannelInfo => [.lock, .perform .read]
  | .setSampleRate rate => [.lock, .perform (.setRate rate)]
  | .createBuffers valid opened size => [.lock, .perform (.checkBuffers valid opened size)]
  | .disposeBuffers => [.lock, .perform .takeSession]
  | .controlPanel spawned => if spawned then [] else [.lock, .perform .read]
  | .getDriverName | .getDriverVersion | .getChannels | .canSampleRate | .getClockSources | .setClockSource
  | .getSamplePosition | .future | .outputReady => []

/-- The method is about to lock the driver at some point. -/
def Method.locks (method : Method) : Bool :=
  method.actions.any fun
    | .lock => true
    | _ => false

/-- A method or a thread's own code under way: what is left to do, after the
callback that the host is in. -/
structure Frame where
  calling : Option Callback
  rest : List Action

structure Thread where
  /-- Whether it is a thread of the host and not one of the driver's. -/
  host : Bool
  /-- The innermost call first. -/
  stack : List Frame

structure AsioObject where
  driver : Driver
  /-- The thread that has the driver locked. -/
  owner : Option Nat
  refs : UInt32
  watch : Option Nat
  threads : List Thread

namespace AsioObject

def create (rate : SampleRate) (hosts : Nat) : AsioObject :=
  { driver := { device := false, rate, listedRate := none, session := none }
    owner := none
    refs := 1
    watch := none
    threads := List.replicate hosts ⟨true, []⟩ }

inductive Streamed where
  | switched
  | stopped
  | failed

inductive Event where
  /-- The host's code calls a method, from a callback or at will. -/
  | call (thread : Nat) (method : Method)
  /-- The host returns from a callback. -/
  | answer (thread : Nat) (value : Bool)
  | next (thread : Nat)
  | streamed (thread : Nat) (outcome : Streamed)
  | watched (thread : Nat) (change : Option Settings)

/-- Asks the host to tear the session down and build it again. -/
def requestReset : List Action := [.callback .selectorSupported]

/-- Waits for the streaming thread to end, unless this is that thread. -/
def joinWorker (thread : Option Nat) : List Action := (thread.map (Action.join · true)).toList

def withSession (object : AsioObject) (session : Option Session) : AsioObject :=
  { object with driver := { object.driver with session } }

def spawn (object : AsioObject) (action : Action) : AsioObject :=
  { object with threads := object.threads ++ [⟨false, [⟨none, [action]⟩]⟩] }

/-- What a part does, and what is left to do after it. -/
def perform (object : AsioObject) : Part → AsioObject × List Action
  | .addRef => ({ object with refs := object.refs + 1 }, [])
  | .release =>
    let object := { object with refs := object.refs - 1 }
    if object.refs = 0 then
      -- The watch thread uses this object, so it has to end first.
      ({ object with watch := none }, (object.watch.map (Action.join · false)).toList ++ [.perform .dropDriver])
    else (object, [])
  | .dropDriver => (object.withSession none, joinWorker (object.driver.session.bind (·.thread)))
  | .startWatch started =>
    if object.watch.isNone && started then ({ object.spawn .watch with watch := some object.threads.length }, [])
    else (object, [])
  | .findDevice found =>
    ({ object with driver := { object.driver with device := found || object.driver.device } }, [.unlock])
  | .start started =>
    match object.driver.session with
    | none => (object, [.unlock])
    | some session =>
      if session.running || !started then (object, [.unlock])
      else
        let session' := { session with thread := some object.threads.length, running := true, staleSize := false }
        ((object.spawn .stream).withSession (some session'),
          if session.staleSize then [.unlock] ++ requestReset else [.unlock])
  | .signalStop =>
    match object.driver.session with
    | none => (object, [.unlock])
    | some session =>
      if session.running then
        -- The streaming thread may be in a callback that calls back into the
        -- driver, so it has to end without the driver locked.
        (object.withSession (some { session with running := false, thread := none }),
          [.unlock] ++ joinWorker session.thread ++ [.lock, .perform .stopStreams])
      else (object, [.unlock])
  | .stopStreams | .read => (object, [.unlock])
  | .listRate => ({ object with driver := { object.driver with listedRate := some object.driver.rate } }, [.unlock])
  | .setRate none => (object, [.unlock])
  | .setRate (some rate) =>
    if rate = object.driver.rate then (object, [.unlock])
    else
      ({ object with driver := { object.driver with rate } },
        if object.driver.session.isSome then [.unlock] ++ requestReset else [.unlock])
  | .checkBuffers valid opened size =>
    let least := minBufferFrames object.driver.rate
    let listed := (object.driver.listedRate.map minBufferFrames).getD least
    if object.driver.session.isSome || !object.driver.device || !valid || size < min least listed ||
        maxBufferFrames .hz192000 < size then (object, [.unlock])
    else (object, [.callback .supportsTimeInfo, .perform (.openDuplex opened size)])
  | .openDuplex opened size =>
    let session : Session := { thread := none, bufferFrames := size, running := false, staleSize := size < minBufferFrames object.driver.rate }
    (if opened then object.withSession (some session) else object, [.unlock])
  | .takeSession => (object.withSession none, [.unlock] ++ joinWorker (object.driver.session.bind (·.thread)))
  | .applyBufferSize settings =>
    match object.driver.session with
    | none => (object, [.unlock])
    | some session =>
      (object, if session.bufferFrames ≠ settings.bufferFrames object.driver.rate then [.unlock] ++ requestReset else [.unlock])

def goesTo (object : AsioObject) (place : Nat) (thread : Thread) (stack : List Frame) : AsioObject :=
  { object with threads := object.threads.set place { thread with stack } }

/-- The host's code runs on the thread: its own, or the callback that it is in. -/
def inHost (thread : Thread) : Bool :=
  match thread.stack with
  | [] => thread.host
  | frame :: _ => frame.calling.isSome

def ended (object : AsioObject) (place : Nat) : Bool := object.threads[place]?.any (·.stack.isEmpty)

/-- The next action of a thread; `none` while it waits. -/
def act (object : AsioObject) (place : Nat) (thread : Thread) (frames : List Frame) (rest : List Action) :
    Action → Option AsioObject
  | .lock =>
    if object.owner = none then some ({ object with owner := some place }.goesTo place thread (⟨none, rest⟩ :: frames))
    else none
  | .unlock => some ({ object with owner := none }.goesTo place thread (⟨none, rest⟩ :: frames))
  | .callback callback => some (object.goesTo place thread (⟨some callback, rest⟩ :: frames))
  | .join joined unlessSelf =>
    if (unlessSelf && joined == place) || object.ended joined then some (object.goesTo place thread (⟨none, rest⟩ :: frames))
    else none
  | .perform part =>
    let (object, actions) := object.perform part
    some (object.goesTo place thread (⟨none, actions ++ rest⟩ :: frames))
  | .stream | .watch => none

def step (object : AsioObject) : Event → Option AsioObject
  | .call place method => do
    let thread ← object.threads[place]?
    if inHost thread then some (object.goesTo place thread (⟨none, method.actions⟩ :: thread.stack)) else none
  | .answer place value => do
    let thread ← object.threads[place]?
    match thread.stack with
    | ⟨some callback, rest⟩ :: frames =>
      let more := if callback = .selectorSupported ∧ value then [Action.callback .resetRequest] else []
      some (object.goesTo place thread (⟨none, more ++ rest⟩ :: frames))
    | _ => none
  | .next place => do
    let thread ← object.threads[place]?
    match thread.stack with
    | ⟨none, []⟩ :: frames => some (object.goesTo place thread frames)
    | ⟨none, action :: rest⟩ :: frames => object.act place thread frames rest action
    | _ => none
  | .streamed place outcome => do
    let thread ← object.threads[place]?
    match thread.stack with
    | ⟨none, .stream :: rest⟩ :: frames =>
      let actions := match outcome with
        | .switched => [Action.callback .bufferSwitch, .stream]
        | .stopped => []
        | .failed => requestReset
      some (object.goesTo place thread (⟨none, actions ++ rest⟩ :: frames))
    | _ => none
  | .watched place change => do
    let thread ← object.threads[place]?
    match thread.stack with
    | ⟨none, .watch :: rest⟩ :: frames =>
      let actions := match change with
        | some settings => [Action.lock, .perform (.applyBufferSize settings), .watch]
        | none => []
      some (object.goesTo place thread (⟨none, actions ++ rest⟩ :: frames))
    | _ => none

end AsioObject
end Ak1Driver.Asio
