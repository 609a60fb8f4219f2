import Ak1Driver.Lib.Transition
import Ak1Driver.Proto.Buffers

/-! A session's buffers together with everything that has passed through them:
the frames captured and played by the card, the periods handed to the host and
the periods it wrote back. The history is proof data; no operation reads it. -/

namespace Ak1Driver
open Proto

/-- What has passed through a session's buffers so far. -/
structure History where
  captured : List (Frame inputs) := []
  played : List (Frame outputs) := []
  periods : List (List (Frame inputs)) := []
  answers : List (List (Frame outputs)) := []

structure Exchange where
  buffers : Buffers
  history : History

namespace Exchange

def start (buffers : Buffers) : Exchange := ⟨buffers, {}⟩

def handed (exchange : Exchange) : List (Frame inputs) := exchange.history.periods.flatten

def written (exchange : Exchange) : List (Frame outputs) := exchange.history.answers.flatten

def capture (exchange : Exchange) (frame : Frame inputs) : Bool × Exchange :=
  let (signal, buffers) := exchange.buffers.capture frame
  (signal, ⟨buffers, { exchange.history with captured := exchange.history.captured ++ [frame] }⟩)

def render (exchange : Exchange) : Exchange :=
  let (frame, buffers) := exchange.buffers.render
  ⟨buffers, { exchange.history with played := exchange.history.played ++ [frame] }⟩

/-- One frame of the card, which captures before it plays; returns whether the
frame completed a period. -/
def card (exchange : Exchange) (frame : Frame inputs) : Bool × Exchange :=
  let (signal, exchange) := exchange.capture frame
  (signal, exchange.render)

/-- A read request with room for one period; returns the frames it got. -/
def read (exchange : Exchange) : Nat × Exchange :=
  let room := List.replicate exchange.buffers.period silence
  let (count, into, buffers) := exchange.buffers.read room
  match count with
  | none | some 0 => (0, { exchange with buffers })
  | some count =>
    (count, ⟨buffers, { exchange.history with periods := exchange.history.periods ++ [into.take count] }⟩)

/-- A write request of `answer`; it fails unless it is one period. -/
def write (exchange : Exchange) (answer : List (Frame outputs)) : Option Exchange :=
  let (accepted, buffers) := exchange.buffers.write answer
  if accepted then
    some ⟨buffers, { exchange.history with answers := exchange.history.answers ++ [answer] }⟩
  else none

def unread (exchange : Exchange) : List (Frame inputs) := exchange.buffers.unread

def queued (exchange : Exchange) : List (Frame outputs) := exchange.buffers.queued

variable {period transfer : Nat} {exchange : Exchange}

@[simp] theorem capture_unread (exchange : Exchange) (frame : Frame inputs) :
    (exchange.capture frame).2.unread = (exchange.unread ++ [frame]).rtake exchange.buffers.input.capacity :=
  Buffers.capture_unread _ _

@[simp] theorem capture_queued (exchange : Exchange) (frame : Frame inputs) :
    (exchange.capture frame).2.queued = exchange.queued := Buffers.capture_queued _ _

@[simp] theorem render_unread (exchange : Exchange) : exchange.render.unread = exchange.unread :=
  Buffers.render_unread _

@[simp] theorem render_queued (exchange : Exchange) : exchange.render.queued = exchange.queued.tail :=
  Buffers.render_queued _

theorem card_unread (exchange : Exchange) (frame : Frame inputs) :
    (exchange.card frame).2.unread = (exchange.unread ++ [frame]).rtake exchange.buffers.input.capacity := by
  simp [card]

theorem card_queued (exchange : Exchange) (frame : Frame inputs) :
    (exchange.card frame).2.queued = exchange.queued.tail := by
  simp [card]

theorem card_history (exchange : Exchange) (frame : Frame inputs) :
    (exchange.card frame).2.history = { exchange.history with
      captured := exchange.history.captured ++ [frame]
      played := exchange.history.played ++ [exchange.queued.headD silence] } := by
  simp only [card, capture, render, queued, Buffers.render_frame, Buffers.capture_queued]

@[simp] theorem card_handed (exchange : Exchange) (frame : Frame inputs) :
    (exchange.card frame).2.handed = exchange.handed := rfl

@[simp] theorem card_written (exchange : Exchange) (frame : Frame inputs) :
    (exchange.card frame).2.written = exchange.written := rfl

theorem card_signals (exchange : Exchange) (frame : Frame inputs) :
    (exchange.card frame).1 = decide (exchange.buffers.period ≤ exchange.buffers.captured + 1) :=
  Buffers.capture_signals _ _

theorem card_captured (exchange : Exchange) (frame : Frame inputs) :
    (exchange.card frame).2.buffers.captured =
      if exchange.buffers.captured + 1 < exchange.buffers.period then exchange.buffers.captured + 1 else 0 := by
  change (exchange.buffers.capture frame).2.render.2.captured = _
  rw [Buffers.render_captured, Buffers.capture_captured]

theorem card_sized (sized : exchange.buffers.Sized period transfer) (frame : Frame inputs) :
    (exchange.card frame).2.buffers.Sized period transfer := (sized.capture frame).render

/-- A read either finds no complete period and changes nothing, or hands over
the oldest `period` unread frames. -/
theorem read_cases (sized : exchange.buffers.Sized period transfer) (positive : 1 ≤ period) :
    (exchange.unread.length < period ∧ exchange.read = (0, exchange)) ∨
    (period ≤ exchange.unread.length ∧ exchange.read.1 = period ∧
      exchange.read.2.unread = exchange.unread.drop period ∧
      exchange.read.2.buffers = { exchange.buffers with input := exchange.read.2.buffers.input } ∧
      exchange.read.2.history =
        { exchange.history with periods := exchange.history.periods ++ [exchange.unread.take period] }) := by
  have room : exchange.buffers.period ≤ (List.replicate exchange.buffers.period (silence : Frame inputs)).length := by
    simp
  have same := sized.periodFrames
  rcases Nat.lt_or_ge exchange.unread.length period with incomplete | complete
  · have found := Buffers.read_incomplete room (same ▸ incomplete)
    exact .inl ⟨incomplete, by simp [read, found]⟩
  · obtain ⟨count, filled, left, kept⟩ := Buffers.read_complete room (same ▸ complete)
    have successor : exchange.buffers.period = (period - 1) + 1 := by omega
    have outcome : exchange.read = (period, ⟨(exchange.buffers.read (List.replicate exchange.buffers.period silence)).2.2,
        { exchange.history with periods := exchange.history.periods ++ [exchange.unread.take period] }⟩) := by
      have slots : (exchange.unread.take exchange.buffers.period).length = exchange.buffers.period := by
        simp only [List.length_take]
        omega
      simp only [read, count]
      rw [successor]
      simp only
      rw [← successor, filled]
      simp only [List.drop_replicate, Nat.sub_self, List.replicate_zero, List.append_nil, same]
      change (period, Exchange.mk _ { exchange.history with
        periods := exchange.history.periods ++ [(exchange.unread.take period).take period] }) = _
      rw [List.take_take, Nat.min_self]
    exact .inr ⟨complete, by rw [outcome], by rw [outcome, ← same]; exact left, by rw [outcome]; exact kept, by rw [outcome]⟩

theorem write_some {answer : List (Frame outputs)} {after : Exchange}
    (sized : exchange.buffers.Sized period transfer) (wrote : exchange.write answer = some after) :
    answer.length = period ∧ after.queued = (exchange.queued ++ answer).rtake (2 * period + transfer) ∧
      after.buffers = { exchange.buffers with output := after.buffers.output } ∧
      after.history = { exchange.history with answers := exchange.history.answers ++ [answer] } := by
  by_cases exact : answer.length = exchange.buffers.period
  · obtain ⟨accepted, held, kept⟩ := Buffers.write_period exact
    simp only [write, accepted, ↓reduceIte, Option.some.injEq] at wrote
    subst after
    exact ⟨exact.trans sized.periodFrames, by rw [← sized.outputFrames]; exact held, kept, rfl⟩
  · simp [write, Buffers.write_wrong exact] at wrote

@[simp] theorem read_silent (exchange : Exchange) :
    exchange.read.2.buffers.silentFrames = exchange.buffers.silentFrames := by
  simp only [read]
  split <;> exact Buffers.read_silent _ _

theorem write_silent {answer : List (Frame outputs)} {after : Exchange} (wrote : exchange.write answer = some after) :
    after.buffers.silentFrames = exchange.buffers.silentFrames := by
  simp only [write] at wrote
  split at wrote
  · cases wrote
    exact Buffers.write_silent _ _
  · cases wrote

theorem write_ok {answer : List (Frame outputs)} (exact : answer.length = exchange.buffers.period) :
    ∃ after, exchange.write answer = some after := by
  simp [write, (Buffers.write_period exact).1]

end Exchange
end Ak1Driver
