import Ak1Driver.Exchange

/-! The kernel session and the streaming worker of the ASIO driver. The session
sets an auto-reset event when a captured frame completes a period. The worker
waits for the event, then reads and answers periods until a read finds none. -/

namespace Ak1Driver
open Proto Lib.Transition

/-- Where the worker is in its loop: at the wait, before a read, or with a
period read whose answer is not written yet. -/
inductive Phase where
  | waiting
  | reading
  | answering
  deriving DecidableEq, Repr

structure Streaming where
  exchange : Exchange
  event : Bool
  phase : Phase

namespace Streaming

/-- `Duplex::start` resets the event before the session exists. -/
def start (buffers : Buffers) : Streaming := ⟨.start buffers, false, .waiting⟩

/-- `Session::capture`: the event stays set until a wait consumes it. -/
def capture (streaming : Streaming) (frame : Frame inputs) : Streaming :=
  let (signal, exchange) := streaming.exchange.capture frame
  { streaming with exchange, event := streaming.event || signal }

def render (streaming : Streaming) : Streaming := { streaming with exchange := streaming.exchange.render }

/-- The wait returns once the event is set, and resets it. -/
def wake (streaming : Streaming) : Option Streaming :=
  if streaming.phase = .waiting ∧ streaming.event then some { streaming with event := false, phase := .reading }
  else none

/-- A read in `drain`, which goes back to the wait if it found no period. -/
def read (streaming : Streaming) : Option Streaming :=
  if streaming.phase = .reading then
    let (count, exchange) := streaming.exchange.read
    some { streaming with exchange, phase := if count > 0 then .answering else .waiting }
  else none

/-- The write in `drain` of the host's output for the period just read. -/
def write (streaming : Streaming) (answer : List (Frame outputs)) : Option Streaming :=
  if streaming.phase = .answering then
    (streaming.exchange.write answer).map fun exchange => { streaming with exchange, phase := .reading }
  else none

inductive Move where
  | capture (frame : Frame inputs)
  | render
  | wake
  | read
  | write (answer : List (Frame outputs))

def step (streaming : Streaming) : Move → Option Streaming
  | .capture frame => some (streaming.capture frame)
  | .render => some streaming.render
  | .wake => streaming.wake
  | .read => streaming.read
  | .write answer => streaming.write answer

/-- A card that captures and plays one frame at a time, and the worker. -/
inductive Act where
  | card (frame : Frame inputs)
  | wake
  | read
  | write (answer : List (Frame outputs))

def Act.moves : Act → List Move
  | .card frame => [.capture frame, .render]
  | .wake => [.wake]
  | .read => [.read]
  | .write answer => [.write answer]

def act (streaming : Streaming) (action : Act) : Option Streaming := run step streaming action.moves

variable {streaming after : Streaming} {period transfer : Nat}

def card (streaming : Streaming) (frame : Frame inputs) : Streaming :=
  { streaming with
    exchange := (streaming.exchange.card frame).2
    event := streaming.event || (streaming.exchange.card frame).1 }

@[simp] theorem act_card (streaming : Streaming) (frame : Frame inputs) :
    streaming.act (.card frame) = some (streaming.card frame) := rfl

@[simp] theorem act_wake (streaming : Streaming) : streaming.act .wake = streaming.wake := by
  simp [act, Act.moves, run, step]

@[simp] theorem act_read (streaming : Streaming) : streaming.act .read = streaming.read := by
  simp [act, Act.moves, run, step]

@[simp] theorem act_write (streaming : Streaming) (answer : List (Frame outputs)) :
    streaming.act (.write answer) = streaming.write answer := by
  simp [act, Act.moves, run, step]

theorem wake_some (woke : streaming.wake = some after) :
    streaming.phase = .waiting ∧ streaming.event = true ∧
      after = { streaming with event := false, phase := .reading } := by
  simp only [wake] at woke
  split at woke
  · rename_i ready
    cases woke
    exact ⟨ready.1, ready.2, rfl⟩
  · cases woke

theorem read_some (sized : streaming.exchange.buffers.Sized period transfer) (positive : 1 ≤ period)
    (took : streaming.read = some after) :
    streaming.phase = .reading ∧
      ((streaming.exchange.unread.length < period ∧ after = { streaming with phase := .waiting }) ∨
       (period ≤ streaming.exchange.unread.length ∧
         after = { streaming with exchange := streaming.exchange.read.2, phase := .answering })) := by
  simp only [read] at took
  split at took
  · rename_i reading
    refine ⟨reading, ?_⟩
    rcases Exchange.read_cases sized positive with ⟨incomplete, nothing⟩ | ⟨complete, count, _⟩
    · rw [nothing] at took
      cases took
      exact .inl ⟨incomplete, rfl⟩
    · rw [count, if_pos (by omega)] at took
      cases took
      exact .inr ⟨complete, rfl⟩
  · cases took

theorem write_some {answer : List (Frame outputs)} (wrote : streaming.write answer = some after) :
    streaming.phase = .answering ∧ ∃ exchange, streaming.exchange.write answer = some exchange ∧
      after = { streaming with exchange, phase := .reading } := by
  simp only [write] at wrote
  split at wrote
  · rename_i answering
    obtain ⟨exchange, accepted, same⟩ := Option.map_eq_some_iff.mp wrote
    exact ⟨answering, exchange, accepted, same.symm⟩
  · cases wrote

end Streaming
end Ak1Driver
