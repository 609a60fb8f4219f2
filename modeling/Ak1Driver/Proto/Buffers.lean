import Ak1Driver.Lib.Window

/-! Frames of an ASIO session on their way between the card and the host: two
rings, of which the output one starts full of silence. Sizes and counters of
the source's `usize` are `Nat`; the statistics saturate as its `u32` do. -/

namespace Ak1Driver.Proto
open Lib.Window

abbrev inputs : Nat := 2
abbrev outputs : Nat := 4
def maxU32 : Nat := 2 ^ 32 - 1

/-- One sample per channel; a sample is the value of an `i32`. -/
abbrev Frame (channels : Nat) := Vector Int channels

def silence {channels : Nat} : Frame channels := Vector.replicate channels 0

def Fits24 (sample : Int) : Prop := -2 ^ 23 ≤ sample ∧ sample < 2 ^ 23

instance (sample : Int) : Decidable (Fits24 sample) := inferInstanceAs (Decidable (_ ∧ _))

/-- A frame whose samples are all signed 24-bit values. -/
def FrameFits24 {channels : Nat} (frame : Frame channels) : Prop :=
  ∀ channel (_ : channel < channels), Fits24 frame[channel]

instance {channels : Nat} (frame : Frame channels) : Decidable (FrameFits24 frame) :=
  inferInstanceAs (Decidable (∀ _ _, _))

def saturatingAdd (count more : Nat) : Nat := min (count + more) maxU32

inductive TryReserveError where
  | capacityOverflow
  | allocError
  deriving DecidableEq, Repr

/-- A ring whose indices are always in range, so that no access can fail. -/
structure Fifo (channels : Nat) where
  frames : Array (Frame channels)
  start : Nat
  len : Nat
  fits : len ≤ frames.size
  inside : 0 < frames.size → start < frames.size

namespace Fifo
variable {channels : Nat}

/-- `reserve` is the allocator's answer to a request for so many frames. -/
def new (reserve : Nat → Except TryReserveError Unit) (capacity : Nat) :
    Except TryReserveError (Fifo channels) := do
  reserve capacity
  return ⟨Array.replicate capacity silence, 0, 0, Nat.zero_le _, id⟩

/-- Appends `frame` unless the ring is full. -/
def push (fifo : Fifo channels) (frame : Frame channels) : Bool × Fifo channels :=
  if full : fifo.len = fifo.frames.size then (false, fifo)
  else
    have room : fifo.len < fifo.frames.size := Nat.lt_of_le_of_ne fifo.fits full
    have last : (fifo.start + fifo.len) % fifo.frames.size < fifo.frames.size := Nat.mod_lt _ (by omega)
    (true,
      { frames := fifo.frames.set ((fifo.start + fifo.len) % fifo.frames.size) frame last
        start := fifo.start
        len := fifo.len + 1
        fits := by simpa using Nat.succ_le_of_lt room
        inside := by simpa using fifo.inside })

def pop (fifo : Fifo channels) : Option (Frame channels) × Fifo channels :=
  if empty : fifo.len = 0 then (none, fifo)
  else
    have some : 0 < fifo.frames.size := Nat.lt_of_lt_of_le (Nat.pos_of_ne_zero empty) fifo.fits
    have first : fifo.start < fifo.frames.size := fifo.inside some
    (fifo.frames[fifo.start],
      { frames := fifo.frames
        start := (fifo.start + 1) % fifo.frames.size
        len := fifo.len - 1
        fits := Nat.le_trans (Nat.sub_le _ _) fifo.fits
        inside := Nat.mod_lt _ })

/-- Appends `frame`, dropping the oldest one if the ring is full; returns whether it did. -/
def pushOver (fifo : Fifo channels) (frame : Frame channels) : Bool × Fifo channels :=
  let (pushed, fifo) := fifo.push frame
  if pushed then (false, fifo)
  else
    let (_, fifo) := fifo.pop
    let (_, fifo) := fifo.push frame
    (true, fifo)

/-- What the ring holds, oldest first. -/
def toList (fifo : Fifo channels) : List (Frame channels) := circular fifo.frames.toList fifo.start fifo.len

def capacity (fifo : Fifo channels) : Nat := fifo.frames.size

@[simp] theorem length_toList (fifo : Fifo channels) : fifo.toList.length = fifo.len :=
  length_circular _ (by simpa using fifo.fits)

theorem length_le (fifo : Fifo channels) : fifo.toList.length ≤ fifo.capacity := by
  simpa [capacity] using fifo.fits

theorem new_ok {reserve : Nat → Except TryReserveError Unit} {capacity : Nat} {fifo : Fifo channels}
    (created : new reserve capacity = .ok fifo) : fifo.toList = [] ∧ fifo.capacity = capacity := by
  simp only [new, bind, Except.bind, pure, Except.pure] at created
  split at created
  · cases created
  · cases created
    exact ⟨rfl, by simp [Fifo.capacity]⟩

theorem push_full {fifo : Fifo channels} (frame : Frame channels) (full : fifo.len = fifo.capacity) :
    fifo.push frame = (false, fifo) := by
  simp only [capacity] at full
  simp [push, full]

theorem push_room {fifo : Fifo channels} (frame : Frame channels) (room : fifo.len < fifo.capacity) :
    (fifo.push frame).1 = true ∧ (fifo.push frame).2.toList = fifo.toList ++ [frame] ∧
      (fifo.push frame).2.capacity = fifo.capacity := by
  simp only [capacity] at room
  have notFull : fifo.len ≠ fifo.frames.size := Nat.ne_of_lt room
  simp only [push, notFull, ↓reduceDIte, toList, capacity, Array.toList_set, Array.size_set, and_true, true_and]
  have stored := circular_store fifo.frames.toList fifo.start fifo.len frame (by simpa using room)
  simpa using stored

theorem pop_empty {fifo : Fifo channels} (empty : fifo.len = 0) : fifo.pop = (none, fifo) := by
  simp [pop, empty]

@[simp] theorem pop_capacity (fifo : Fifo channels) : fifo.pop.2.capacity = fifo.capacity := by
  simp only [pop]
  split <;> rfl

theorem pop_some {fifo : Fifo channels} {frame : Frame channels} {rest : List (Frame channels)}
    (holds : fifo.toList = frame :: rest) : fifo.pop.1 = some frame ∧ fifo.pop.2.toList = rest := by
  have length := congrArg List.length holds
  rw [length_toList, List.length_cons] at length
  have nonempty : fifo.len ≠ 0 := by omega
  have bound := fifo.fits
  have inside := fifo.inside (by omega)
  have taken := circular_take fifo.frames.toList fifo.start (fifo.len - 1) (by simp; omega) (by simpa using inside)
  rw [Nat.sub_add_cancel (Nat.pos_of_ne_zero nonempty)] at taken
  rw [toList, taken, List.cons.injEq] at holds
  simp only [pop, nonempty, ↓reduceDIte, toList]
  exact ⟨by simpa using holds.1, by simpa using holds.2⟩

@[simp] theorem pushOver_capacity (fifo : Fifo channels) (frame : Frame channels) :
    (fifo.pushOver frame).2.capacity = fifo.capacity := by
  have keeps : ∀ other : Fifo channels, (other.push frame).2.capacity = other.capacity := by
    intro other
    simp only [push, capacity]
    split <;> simp
  simp only [pushOver]
  split
  · exact keeps fifo
  · rw [keeps, pop_capacity, keeps]

theorem pushOver_toList (fifo : Fifo channels) (frame : Frame channels) :
    (fifo.pushOver frame).2.toList = (fifo.toList ++ [frame]).rtake fifo.capacity := by
  by_cases full : fifo.len = fifo.capacity
  · simp only [pushOver, push_full frame full, Bool.false_eq_true, ↓reduceIte]
    cases holds : fifo.toList with
    | nil =>
      have empty : fifo.len = 0 := by simpa using congrArg List.length holds
      rw [pop_empty empty, push_full frame full, holds, ← full, empty]
      rfl
    | cons oldest rest =>
      have popped := pop_some holds
      have length := congrArg List.length holds
      have shorter := congrArg List.length popped.2
      simp only [length_toList, List.length_cons] at length shorter
      have room : fifo.pop.2.len < fifo.pop.2.capacity := by
        rw [pop_capacity]
        omega
      rw [(push_room frame room).2.1, popped.2, ← full, length]
      simp [List.rtake]
  · have room : fifo.len < fifo.capacity := Nat.lt_of_le_of_ne fifo.fits full
    obtain ⟨pushed, appended, _⟩ := push_room frame room
    simp only [pushOver, pushed, ↓reduceIte]
    rw [appended, rtake_of_fits]
    simpa using Nat.succ_le_of_lt room

theorem pushOver_dropped (fifo : Fifo channels) (frame : Frame channels) :
    (fifo.pushOver frame).1 = decide (fifo.len = fifo.capacity) := by
  by_cases full : fifo.len = fifo.capacity
  · simp [pushOver, push_full frame full, full]
  · have room : fifo.len < fifo.capacity := Nat.lt_of_le_of_ne fifo.fits full
    simp [pushOver, (push_room frame room).1, full]

/-- `while self.push(frame) {}`, which ends at the latest when the ring is full. -/
def fill (frame : Frame channels) : Nat → Fifo channels → Fifo channels
  | 0, fifo => fifo
  | turns + 1, fifo =>
    let (pushed, filled) := fifo.push frame
    if pushed then fill frame turns filled else fifo

theorem fill_toList (frame : Frame channels) (turns : Nat) (fifo : Fifo channels)
    (enough : fifo.capacity - fifo.len ≤ turns) :
    (fill frame turns fifo).toList = fifo.toList ++ List.replicate (fifo.capacity - fifo.len) frame ∧
      (fill frame turns fifo).capacity = fifo.capacity := by
  have bound := fifo.length_le
  rw [length_toList] at bound
  induction turns generalizing fifo with
  | zero =>
    have full : fifo.capacity - fifo.len = 0 := by omega
    simp [fill, full]
  | succ turns ih =>
    by_cases full : fifo.len = fifo.capacity
    · simp [fill, push_full frame full, full]
    · have room : fifo.len < fifo.capacity := by omega
      obtain ⟨pushed, appended, same⟩ := push_room frame room
      have length := congrArg List.length appended
      simp only [length_toList, List.length_append, List.length_singleton] at length
      obtain ⟨held, kept⟩ := ih (fifo.push frame).2 (by omega) (by omega)
      simp only [fill, pushed, ↓reduceIte]
      rw [held, kept, appended, same, length]
      refine ⟨?_, rfl⟩
      rw [List.append_assoc, List.singleton_append, ← List.replicate_succ]
      congr 2
      omega

/-- `for frame in into { *frame = self.pop().unwrap_or_default(); }` -/
def popInto : List (Frame channels) → Fifo channels → List (Frame channels) × Fifo channels
  | [], fifo => ([], fifo)
  | _ :: slots, fifo =>
    let (frame, fifo) := fifo.pop
    let (rest, fifo) := popInto slots fifo
    (frame.getD silence :: rest, fifo)

theorem popInto_spec (slots : List (Frame channels)) (fifo : Fifo channels) (enough : slots.length ≤ fifo.len) :
    (popInto slots fifo).1 = fifo.toList.take slots.length ∧
      (popInto slots fifo).2.toList = fifo.toList.drop slots.length ∧
      (popInto slots fifo).2.capacity = fifo.capacity := by
  induction slots generalizing fifo with
  | nil => simp [popInto]
  | cons slot slots ih =>
    rw [List.length_cons] at enough
    cases holds : fifo.toList with
    | nil =>
      have empty : fifo.len = 0 := by simpa using congrArg List.length holds
      omega
    | cons oldest rest =>
      have popped := pop_some holds
      have length := congrArg List.length holds
      have shorter := congrArg List.length popped.2
      simp only [length_toList, List.length_cons] at length shorter
      obtain ⟨filled, left, capacity⟩ := ih fifo.pop.2 (by omega)
      simp only [popInto, filled, left, capacity, popped.1, popped.2, pop_capacity, Option.getD_some,
        List.length_cons, List.take_succ_cons, List.drop_succ_cons, and_self]

def pushOverAll (fifo : Fifo channels) (frames : List (Frame channels)) : Fifo channels :=
  frames.foldl (fun fifo frame => (fifo.pushOver frame).2) fifo

theorem pushOverAll_spec (fifo : Fifo channels) (frames : List (Frame channels)) :
    (fifo.pushOverAll frames).toList = (fifo.toList ++ frames).rtake fifo.capacity ∧
      (fifo.pushOverAll frames).capacity = fifo.capacity := by
  induction frames generalizing fifo with
  | nil => simp [pushOverAll, rtake_of_fits fifo.length_le]
  | cons frame frames ih =>
    obtain ⟨held, same⟩ := ih (fifo.pushOver frame).2
    rw [pushOver_capacity] at held same
    refine ⟨?_, same⟩
    change ((fifo.pushOver frame).2.pushOverAll frames).toList = _
    rw [held, pushOver_toList, rtake_rtake_append, List.append_assoc, List.singleton_append]

end Fifo

structure Buffers where
  period : Nat
  input : Fifo inputs
  output : Fifo outputs
  /-- Frames captured since the last completed period. -/
  captured : Nat
  silentFrames : Nat
  droppedFrames : Nat

namespace Buffers

/-- Buffers for periods of `period` frames on a card that moves `transfer` frames at a time. -/
def new (reserve : Nat → Except TryReserveError Unit) (period transfer : Nat) : Except TryReserveError Buffers := do
  let output ← Fifo.new reserve (2 * period + transfer)
  let output := Fifo.fill silence output.capacity output
  let input ← Fifo.new reserve (4 * period + 2 * transfer)
  return { period, input, output, captured := 0, silentFrames := 0, droppedFrames := 0 }

/-- Takes a captured frame; returns whether it completed a period. -/
def capture (buffers : Buffers) (frame : Frame inputs) : Bool × Buffers :=
  let (dropped, input) := buffers.input.pushOver frame
  let droppedFrames := if dropped then saturatingAdd buffers.droppedFrames 1 else buffers.droppedFrames
  let captured := buffers.captured + 1
  if captured < buffers.period then (false, { buffers with input, droppedFrames, captured })
  else (true, { buffers with input, droppedFrames, captured := 0 })

/-- The next frame to play, silence if the host has not written it. -/
def render (buffers : Buffers) : Frame outputs × Buffers :=
  match buffers.output.pop with
  | (some frame, output) => (frame, { buffers with output })
  | (none, output) => (silence, { buffers with output, silentFrames := saturatingAdd buffers.silentFrames 1 })

/-- Moves the oldest complete period into `into`. Returns its length, 0 while
none is complete, or `none` if `into` is shorter than a period. -/
def read (buffers : Buffers) (into : List (Frame inputs)) : Option Nat × List (Frame inputs) × Buffers :=
  if into.length < buffers.period then (none, into, buffers)
  else if buffers.input.len < buffers.period then (some 0, into, buffers)
  else
    let (filled, input) := Fifo.popInto (into.take buffers.period) buffers.input
    (some buffers.period, filled ++ into.drop buffers.period, { buffers with input })

/-- Queues a period of output; returns false unless `frames` is one. -/
def write (buffers : Buffers) (frames : List (Frame outputs)) : Bool × Buffers :=
  if frames.length ≠ buffers.period then (false, buffers)
  else (true, { buffers with output := buffers.output.pushOverAll frames })

/-- Output frames played as silence because the host was late, and input
frames dropped because they were not read in time. -/
def stats (buffers : Buffers) : Nat × Nat := (buffers.silentFrames, buffers.droppedFrames)

def unread (buffers : Buffers) : List (Frame inputs) := buffers.input.toList

def queued (buffers : Buffers) : List (Frame outputs) := buffers.output.toList

/-- The sizes `Buffers.new` chooses, which no operation changes. -/
structure Sized (period transfer : Nat) (buffers : Buffers) : Prop where
  periodFrames : buffers.period = period
  inputFrames : buffers.input.capacity = 4 * period + 2 * transfer
  outputFrames : buffers.output.capacity = 2 * period + transfer

variable {period transfer : Nat} {buffers : Buffers}

theorem Sized.queued_le (sized : Sized period transfer buffers) :
    buffers.queued.length ≤ 2 * period + transfer := sized.outputFrames ▸ buffers.output.length_le

/-- A session starts with its output full of silence. -/
structure Fresh (period transfer : Nat) (buffers : Buffers) : Prop extends Sized period transfer buffers where
  unread : buffers.unread = []
  queued : buffers.queued = List.replicate (2 * period + transfer) silence
  captured : buffers.captured = 0
  silent : buffers.silentFrames = 0
  dropped : buffers.droppedFrames = 0

theorem new_fresh {reserve : Nat → Except TryReserveError Unit}
    (created : new reserve period transfer = .ok buffers) : Fresh period transfer buffers := by
  simp only [new, bind, Except.bind, pure, Except.pure] at created
  split at created
  · cases created
  · rename_i output made
    split at created
    · cases created
    · rename_i input reserved
      cases created
      obtain ⟨outputEmpty, outputSize⟩ := Fifo.new_ok made
      obtain ⟨inputEmpty, inputSize⟩ := Fifo.new_ok reserved
      obtain ⟨filled, same⟩ := Fifo.fill_toList silence output.capacity output (Nat.sub_le _ _)
      have start : output.len = 0 := by simpa using congrArg List.length outputEmpty
      refine ⟨⟨rfl, inputSize, same.trans outputSize⟩, inputEmpty, ?_, rfl, rfl, rfl⟩
      rw [outputSize, start, outputEmpty] at filled
      simpa only [queued, outputSize, Nat.sub_zero, List.nil_append] using filled

theorem capture_unread (buffers : Buffers) (frame : Frame inputs) :
    (buffers.capture frame).2.unread = (buffers.unread ++ [frame]).rtake buffers.input.capacity := by
  rw [unread, unread, ← Fifo.pushOver_toList]
  simp only [capture]
  split <;> rfl

@[simp] theorem capture_queued (buffers : Buffers) (frame : Frame inputs) :
    (buffers.capture frame).2.queued = buffers.queued := by
  simp only [capture]
  split <;> rfl

@[simp] theorem capture_silent (buffers : Buffers) (frame : Frame inputs) :
    (buffers.capture frame).2.silentFrames = buffers.silentFrames := by
  simp only [capture]
  split <;> rfl

theorem capture_dropped (buffers : Buffers) (frame : Frame inputs) :
    (buffers.capture frame).2.droppedFrames =
      if buffers.unread.length = buffers.input.capacity then saturatingAdd buffers.droppedFrames 1
      else buffers.droppedFrames := by
  simp only [capture, Fifo.pushOver_dropped, unread, Fifo.length_toList, decide_eq_true_eq]
  split <;> rfl

theorem capture_signals (buffers : Buffers) (frame : Frame inputs) :
    (buffers.capture frame).1 = decide (buffers.period ≤ buffers.captured + 1) := by
  simp only [capture]
  split <;> simp <;> omega

theorem capture_captured (buffers : Buffers) (frame : Frame inputs) :
    (buffers.capture frame).2.captured =
      if buffers.captured + 1 < buffers.period then buffers.captured + 1 else 0 := by
  simp only [capture]
  split <;> rfl

theorem Sized.capture (sized : Sized period transfer buffers) (frame : Frame inputs) :
    Sized period transfer (buffers.capture frame).2 := by
  simp only [Buffers.capture]
  split <;> exact ⟨sized.periodFrames, (Fifo.pushOver_capacity _ _).trans sized.inputFrames, sized.outputFrames⟩

theorem render_cases (buffers : Buffers) :
    (buffers.queued = [] ∧ buffers.render.1 = silence ∧
      buffers.render.2 = { buffers with silentFrames := saturatingAdd buffers.silentFrames 1 }) ∨
    (∃ frame rest, buffers.queued = frame :: rest ∧ buffers.render.1 = frame ∧
      buffers.render.2.queued = rest ∧ buffers.render.2 = { buffers with output := buffers.output.pop.2 }) := by
  cases holds : buffers.queued with
  | nil =>
    have empty : buffers.output.len = 0 := by simpa [queued] using congrArg List.length holds
    exact .inl ⟨rfl, by simp [render, Fifo.pop_empty empty], by simp [render, Fifo.pop_empty empty]⟩
  | cons frame rest =>
    obtain ⟨popped, left⟩ := Fifo.pop_some holds
    have rendered : buffers.render = (frame, { buffers with output := buffers.output.pop.2 }) := by
      have pair : buffers.output.pop = (some frame, buffers.output.pop.2) := Prod.ext popped rfl
      rw [render, pair]
    exact .inr ⟨frame, rest, rfl, by rw [rendered], by rw [rendered]; exact left, by rw [rendered]⟩

theorem render_queued (buffers : Buffers) : buffers.render.2.queued = buffers.queued.tail := by
  rcases render_cases buffers with ⟨empty, _, same⟩ | ⟨frame, rest, holds, _, left, _⟩
  · rw [same, empty]
    exact empty
  · rw [left, holds, List.tail_cons]

theorem render_frame (buffers : Buffers) : buffers.render.1 = buffers.queued.headD silence := by
  rcases render_cases buffers with ⟨empty, played, _⟩ | ⟨frame, rest, holds, played, _, _⟩
  · rw [played, empty]
    rfl
  · rw [played, holds]
    rfl

theorem render_silent (buffers : Buffers) :
    buffers.render.2.silentFrames =
      if buffers.queued = [] then saturatingAdd buffers.silentFrames 1 else buffers.silentFrames := by
  rcases render_cases buffers with ⟨empty, _, same⟩ | ⟨frame, rest, holds, _, _, same⟩
  · rw [same, if_pos empty]
  · rw [same, if_neg (by simp [holds])]

@[simp] theorem render_unread (buffers : Buffers) : buffers.render.2.unread = buffers.unread := by
  rcases render_cases buffers with ⟨_, _, same⟩ | ⟨_, _, _, _, _, same⟩ <;> rw [same] <;> rfl

@[simp] theorem render_captured (buffers : Buffers) : buffers.render.2.captured = buffers.captured := by
  rcases render_cases buffers with ⟨_, _, same⟩ | ⟨_, _, _, _, _, same⟩ <;> rw [same]

@[simp] theorem render_dropped (buffers : Buffers) : buffers.render.2.droppedFrames = buffers.droppedFrames := by
  rcases render_cases buffers with ⟨_, _, same⟩ | ⟨_, _, _, _, _, same⟩ <;> rw [same]

theorem Sized.render (sized : Sized period transfer buffers) : Sized period transfer buffers.render.2 := by
  rcases render_cases buffers with ⟨_, _, same⟩ | ⟨_, _, _, _, _, same⟩
  · rw [same]
    exact ⟨sized.periodFrames, sized.inputFrames, sized.outputFrames⟩
  · rw [same]
    exact ⟨sized.periodFrames, sized.inputFrames, (Fifo.pop_capacity _).trans sized.outputFrames⟩

theorem read_incomplete {into : List (Frame inputs)} (fits : buffers.period ≤ into.length)
    (incomplete : buffers.unread.length < buffers.period) : buffers.read into = (some 0, into, buffers) := by
  simp only [unread, Fifo.length_toList] at incomplete
  simp [read, Nat.not_lt.mpr fits, incomplete]

theorem read_complete {into : List (Frame inputs)} (fits : buffers.period ≤ into.length)
    (complete : buffers.period ≤ buffers.unread.length) :
    (buffers.read into).1 = some buffers.period ∧
      (buffers.read into).2.1 = buffers.unread.take buffers.period ++ into.drop buffers.period ∧
      (buffers.read into).2.2.unread = buffers.unread.drop buffers.period ∧
      (buffers.read into).2.2 = { buffers with input := (buffers.read into).2.2.input } := by
  simp only [unread, Fifo.length_toList] at complete
  have slots : (into.take buffers.period).length = buffers.period := by simp [fits]
  obtain ⟨filled, left, _⟩ := Fifo.popInto_spec (into.take buffers.period) buffers.input (by omega)
  rw [slots] at filled left
  simp only [read, Nat.not_lt.mpr fits, Nat.not_lt.mpr complete, ↓reduceIte, unread]
  exact ⟨trivial, by rw [filled], left, trivial⟩

@[simp] theorem read_silent (buffers : Buffers) (into : List (Frame inputs)) :
    (buffers.read into).2.2.silentFrames = buffers.silentFrames := by
  simp only [read]
  split
  · rfl
  · split <;> rfl

theorem Sized.read (sized : Sized period transfer buffers) (into : List (Frame inputs)) :
    Sized period transfer (buffers.read into).2.2 := by
  simp only [Buffers.read]
  split
  · exact sized
  · split
    · exact sized
    · rename_i fits complete
      have slots : (into.take buffers.period).length = buffers.period := by simp; omega
      have kept := (Fifo.popInto_spec (into.take buffers.period) buffers.input (by omega)).2.2
      exact ⟨sized.periodFrames, kept.trans sized.inputFrames, sized.outputFrames⟩

theorem write_wrong {frames : List (Frame outputs)} (wrong : frames.length ≠ buffers.period) :
    buffers.write frames = (false, buffers) := by
  simp [write, wrong]

theorem write_period {frames : List (Frame outputs)} (exact : frames.length = buffers.period) :
    (buffers.write frames).1 = true ∧
      (buffers.write frames).2.queued = (buffers.queued ++ frames).rtake buffers.output.capacity ∧
      (buffers.write frames).2 = { buffers with output := (buffers.write frames).2.output } := by
  simp only [write, exact, ne_eq, not_true_eq_false, ↓reduceIte, queued]
  exact ⟨trivial, (Fifo.pushOverAll_spec _ _).1, trivial⟩

@[simp] theorem write_silent (buffers : Buffers) (frames : List (Frame outputs)) :
    (buffers.write frames).2.silentFrames = buffers.silentFrames := by
  simp only [write]
  split <;> rfl

theorem Sized.write (sized : Sized period transfer buffers) (frames : List (Frame outputs)) :
    Sized period transfer (buffers.write frames).2 := by
  simp only [Buffers.write]
  split
  · exact sized
  · exact ⟨sized.periodFrames, sized.inputFrames, (Fifo.pushOverAll_spec _ _).2.trans sized.outputFrames⟩

end Buffers
end Ak1Driver.Proto
