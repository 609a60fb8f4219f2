import Ak1Driver.Lib.Transition

/-! The streaming threads of a created session, and the calls that start, stop
and dispose of them, step by step. A call that has the driver locked keeps other
calls out; a streaming thread goes on meanwhile, and in a callback the host may
call from it. What is streamed is not looked at here. -/

namespace Ak1Driver
namespace Threads

/-- Where a streaming thread is. -/
inductive Place where
  /-- For the stop event or a period. -/
  | waiting
  | reading
  /-- Copying a period to the host's inputs. -/
  | switching
  | calling
  /-- Copying the host's outputs. -/
  | copying
  | writing
  /-- Out of its loop, and about to ask the host for a reset. -/
  | resetting
  | ended
  deriving DecidableEq

def Place.looping : Place → Bool
  | .resetting | .ended => false
  | _ => true

structure Worker where
  place : Place
  /-- Proof data: the callbacks made, and whether the host was asked for a reset. -/
  switches : Nat
  asked : Bool

inductive Caller where
  | host
  /-- From the callback that a streaming thread makes. -/
  | worker (number : Nat)
  deriving DecidableEq

inductive Method where
  | start
  | stop
  | disposeBuffers
  deriving DecidableEq

/-- What a call does next. A thread told to stop is `none` when there is none. -/
inductive Point where
  /-- Locks the driver. -/
  | entering
  /-- Resets the stop event. -/
  | clearing
  /-- Starts the kernel driver's session. -/
  | opening
  | spawning
  | signalling (thread : Option Nat)
  | joining (thread : Option Nat)
  /-- Locks the driver again. -/
  | reentering
  /-- Ends the kernel driver's session. -/
  | ending
  | freeing
  | returned
  deriving DecidableEq

structure Call where
  caller : Caller
  method : Method
  point : Point
  deriving DecidableEq

/-- A call keeps the driver locked until it has set the session's fields. -/
def Call.locks (call : Call) : Bool :=
  match call.method, call.point with
  | .start, .clearing | .start, .opening | .start, .spawning | .stop, .signalling _ | .stop, .ending => true
  | _, _ => false

/-- How a step of a streaming thread turns out. -/
inductive Outcome where
  | went
  /-- No period is complete. -/
  | empty
  | failed
  deriving DecidableEq

inductive Event where
  | call (caller : Caller) (method : Method)
  /-- A call goes on; the kernel driver grants a session or does not. -/
  | go (call : Nat) (granted : Bool)
  | work (worker : Nat) (outcome : Outcome)

end Threads

open Threads in
structure Threads where
  /-- Whether the driver has the session. -/
  present : Bool
  running : Bool
  /-- The streaming thread to be joined. -/
  thread : Option Nat
  /-- The stop event. -/
  stop : Bool
  /-- Whether the kernel driver has a session. -/
  kernel : Bool
  /-- The events are closed and the channel buffers freed. -/
  freed : Bool
  workers : List Worker
  calls : List Call

namespace Threads

/-- A session that `create_buffers` has made. -/
def created : Threads :=
  { present := true
    running := false
    thread := none
    stop := false
    kernel := false
    freed := false
    workers := []
    calls := [] }

/-- The streaming thread is in its loop. -/
def looping (threads : Threads) (number : Nat) : Bool := threads.workers[number]?.any (·.place.looping)

/-- The streaming thread has not ended. -/
def alive (threads : Threads) (number : Nat) : Bool := threads.workers[number]?.any (·.place ≠ .ended)

def locked (threads : Threads) : Bool := threads.calls.any (·.locks)

/-- The host is in a call from a streaming thread's callback. -/
def calledFrom (threads : Threads) (number : Nat) : Bool :=
  threads.calls.any fun call => call.caller = .worker number && call.point ≠ .returned

/-- Waits for the streaming thread to end, unless this is that thread. -/
def joins (threads : Threads) (caller : Caller) (thread : Option Nat) : Bool :=
  thread.all fun number => caller = .worker number || !threads.alive number

/-- The loop of a streaming thread. -/
def next (threads : Threads) (number : Nat) : Place → Outcome → Option Place
  | .waiting, .went => if threads.freed then none else if threads.stop then some .ended else some .reading
  | .waiting, .failed => if threads.freed || !threads.stop then some .resetting else none
  | .reading, .went => if threads.kernel then some .switching else none
  | .reading, .empty => if threads.kernel then some .waiting else none
  | .reading, .failed => some .resetting
  | .switching, .went => some .calling
  | .calling, .went => if threads.calledFrom number then none else some .copying
  | .copying, .went => some .writing
  | .writing, .went => if threads.kernel then some .reading else none
  | .writing, .failed => some .resetting
  | .resetting, .went => some .ended
  | _, _ => none

def moved (worker : Worker) (place : Place) : Worker :=
  { place
    switches := if place = .calling then worker.switches + 1 else worker.switches
    asked := worker.asked || worker.place = .resetting }

/-- What a call does at a point, and where it goes on. -/
def advance (threads : Threads) (caller : Caller) (granted : Bool) : Method → Point → Option (Threads × Point)
  | .start, .entering =>
    if threads.locked then none
    else some (threads, if threads.present && !threads.running then .clearing else .returned)
  | .start, .clearing => some ({ threads with stop := false }, .opening)
  | .start, .opening =>
    if granted && !threads.kernel then some ({ threads with kernel := true }, .spawning) else some (threads, .returned)
  | .start, .spawning =>
    some ({ threads with
      workers := threads.workers ++ [⟨.waiting, 0, false⟩]
      thread := some threads.workers.length
      running := true }, .returned)
  | .stop, .entering =>
    if threads.locked then none
    else if threads.present && threads.running then
      some ({ threads with running := false, thread := none }, .signalling threads.thread)
    else some (threads, .returned)
  | .disposeBuffers, .entering =>
    if threads.locked then none
    else if threads.present then some ({ threads with present := false, thread := none }, .signalling threads.thread)
    else some (threads, .returned)
  | .stop, .signalling thread | .disposeBuffers, .signalling thread =>
    some ({ threads with stop := threads.stop || thread.isSome }, .joining thread)
  | .stop, .joining thread => if threads.joins caller thread then some (threads, .reentering) else none
  | .disposeBuffers, .joining thread => if threads.joins caller thread then some (threads, .ending) else none
  | .stop, .reentering => if threads.locked then none else some (threads, if threads.present then .ending else .returned)
  | .stop, .ending => some ({ threads with kernel := false }, .returned)
  | .disposeBuffers, .ending => some ({ threads with kernel := false }, .freeing)
  | .disposeBuffers, .freeing => some ({ threads with freed := true }, .returned)
  | _, _ => none

/-- A streaming thread calls only from its callback, and one call at a time. -/
def mayCall (threads : Threads) : Caller → Bool
  | .host => true
  | .worker number => threads.workers[number]?.any (·.place = .calling) && !threads.calledFrom number

def step (threads : Threads) : Event → Option Threads
  | .call caller method =>
    if threads.mayCall caller then some { threads with calls := threads.calls ++ [⟨caller, method, .entering⟩] } else none
  | .go index granted => do
    let call ← threads.calls[index]?
    let (after, point) ← threads.advance call.caller granted call.method call.point
    some { after with calls := threads.calls.set index { call with point } }
  | .work number outcome => do
    let worker ← threads.workers[number]?
    let place ← threads.next number worker.place outcome
    some { threads with workers := threads.workers.set number (moved worker place) }

end Threads
end Ak1Driver
