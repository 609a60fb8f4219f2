import Ak1Driver.Driver.Audio

/-! The handles through which hosts start and stop ASIO sessions. The framework
calls a handle's cleanup callback once, and no request on the handle begins
after that; requests that have begun go on beside it. The callback ends the
session of a handle that closes without stopping it. -/

namespace Ak1Driver.Driver
open Proto Lib.Transition

/-- Where the cleanup callback of a handle is in its call of `stop_asio`. -/
inductive Cleanup where
  | inUse
  | called
  /-- It found a session of the handle and waits for the control lock. -/
  | waiting
  | taking
  /-- It has looked at the slot for the last time. -/
  | looked
  deriving DecidableEq, Repr

structure Handles where
  users : Users
  /-- START requests whose session is being made or waits for the control lock. -/
  starts : List (Owner × SampleRate)
  /-- STOP requests that have not looked at the slot yet. -/
  stops : List Owner
  cleanup : Owner → Cleanup

namespace Handles

def start : Handles := ⟨.start, [], [], fun _ => .inUse⟩

inductive Event where
  | receiveStart (owner : Owner) (rate : SampleRate)
  | rejectStart (owner : Owner) (rate : SampleRate)
  | lockStart (owner : Owner) (rate : SampleRate)
  | receiveStop (owner : Owner)
  | lookStop (owner : Owner)
  | lockStop (owner : Owner)
  | callCleanup (owner : Owner)
  | lookCleanup (owner : Owner)
  | lockCleanup (owner : Owner)
  | advance (started : Bool)
  /-- What the streams and the device's power do meanwhile. -/
  | aside (event : Users.Event)
  deriving DecidableEq, Repr

def owns (users : Users) (owner : Owner) : Bool := users.audio.asio.any (·.owner = owner)

/-- Calls of `stop_asio` by requests, not by the cleanup callback, that wait for the control lock. -/
def waitingStops (handles : Handles) (owner : Owner) : Nat :=
  handles.users.stopping.count owner - if handles.cleanup owner = .waiting then 1 else 0

def setCleanup (handles : Handles) (owner : Owner) (place : Cleanup) : Handles :=
  { handles with cleanup := Function.update handles.cleanup owner place }

/-- An event of `Users` that no handle takes part in. -/
def isAside : Users.Event → Bool
  | .beginStop _ | .advance _ | .lock (.startAsio _ _) | .lock (.stopAsio _) => false
  | _ => true

def step (handles : Handles) : Event → Option Handles
  | .receiveStart owner rate =>
    if handles.cleanup owner = .inUse then some { handles with starts := (owner, rate) :: handles.starts } else none
  | .rejectStart owner rate =>
    if (owner, rate) ∈ handles.starts then some { handles with starts := handles.starts.erase (owner, rate) } else none
  | .lockStart owner rate =>
    if (owner, rate) ∈ handles.starts then
      (handles.users.step (.lock (.startAsio owner rate))).map fun users =>
        { handles with users, starts := handles.starts.erase (owner, rate) }
    else none
  | .receiveStop owner =>
    if handles.cleanup owner = .inUse then some { handles with stops := owner :: handles.stops } else none
  | .lookStop owner =>
    if owner ∈ handles.stops then
      (handles.users.step (.beginStop owner)).map fun users => { handles with users, stops := handles.stops.erase owner }
    else none
  | .lockStop owner =>
    if 0 < handles.waitingStops owner then
      (handles.users.step (.lock (.stopAsio owner))).map fun users => { handles with users }
    else none
  | .callCleanup owner =>
    if handles.cleanup owner = .inUse then some (handles.setCleanup owner .called) else none
  | .lookCleanup owner =>
    if handles.cleanup owner = .called then
      (handles.users.step (.beginStop owner)).map fun users =>
        { handles.setCleanup owner (if owns handles.users owner then .waiting else .looked) with users }
    else none
  | .lockCleanup owner =>
    if handles.cleanup owner = .waiting then
      (handles.users.step (.lock (.stopAsio owner))).map fun users => { handles.setCleanup owner .taking with users }
    else none
  | .advance started =>
    (handles.users.step (.advance started)).map fun users =>
      match handles.users.control with
      | some (.stopAsio owner) =>
        if handles.cleanup owner = .taking then { handles.setCleanup owner .looked with users } else { handles with users }
      | _ => { handles with users }
  | .aside event =>
    if isAside event then (handles.users.step event).map fun users => { handles with users } else none

/-- No request of the handle is being processed. -/
def Quiet (handles : Handles) (owner : Owner) : Prop :=
  (∀ rate, (owner, rate) ∉ handles.starts) ∧ owner ∉ handles.stops ∧ owner ∉ handles.users.stopping ∧
    ∀ entered, handles.users.control = some entered →
      match entered with
      | .startAsio other _ | .claimAsio other _ | .changeRate other _ _ | .asioStart other _ _ | .setAsio other _
      | .stopAsio other => other ≠ owner
      | _ => True

/-- Once a handle has been cleaned up and its requests have completed, no session of it is left. -/
def NoneOutlives (handles : Handles) : Prop :=
  ∀ owner, handles.cleanup owner = .looked → handles.Quiet owner → owns handles.users owner = false

end Handles
end Ak1Driver.Driver
