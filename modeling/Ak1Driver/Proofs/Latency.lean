import Ak1Driver.Proofs.Conservation

/-! A session against a host that reads and answers periods at arbitrary times.
Until a frame is played as silence, every frame is conserved from the start, so
the output lags the input by exactly the silence the session began with. -/

namespace Ak1Driver.Proofs.Latency
open Proto Exchange Lib.Transition Lib.Window

inductive Event where
  | card (frame : Frame inputs)
  | read
  | write (answer : List (Frame outputs))

/-- The host writes only answers to periods it has read, oldest first. -/
def step (exchange : Exchange) : Event → Option Exchange
  | .card frame => some (exchange.card frame).2
  | .read => some exchange.read.2
  | .write answer =>
    if exchange.history.answers.length < exchange.history.periods.length then exchange.write answer else none

/-- The answer to period `j` is written before render number `(j + 2) * period + transfer`. -/
def Timely (period transfer : Nat) (exchange : Exchange) : Event → Prop
  | .card _ => ∀ j, exchange.history.played.length = (j + 2) * period + transfer → j < exchange.history.answers.length
  | _ => True

/-- Nothing was lost since the session began, and the host answers in order. -/
structure InStep (period transfer : Nat) (initial exchange : Exchange) : Prop where
  sized : exchange.buffers.Sized period transfer
  conserved : Conserves initial exchange exchange.history.captured exchange.handed exchange.history.played exchange.written
  paired : exchange.history.captured.length = exchange.history.played.length
  answered : exchange.history.answers.length ≤ exchange.history.periods.length
  periods : ∀ block ∈ exchange.history.periods, block.length = period
  answers : ∀ block ∈ exchange.history.answers, block.length = period
  dropped : exchange.buffers.droppedFrames = 0

variable {period transfer : Nat} {buffers : Buffers} {exchange after : Exchange}

theorem initial_in_step (fresh : buffers.Fresh period transfer) :
    InStep period transfer (start buffers) (start buffers) :=
  ⟨fresh.toSized, .refl _, rfl, Nat.le_refl _, by simp [start], by simp [start], fresh.dropped⟩

private theorem InStep.levels (fresh : buffers.Fresh period transfer)
    (kept : InStep period transfer (start buffers) exchange) :
    period * exchange.history.periods.length + exchange.unread.length = exchange.history.played.length ∧
      exchange.history.played.length + exchange.queued.length =
        2 * period + transfer + period * exchange.history.answers.length ∧
      period * exchange.history.answers.length ≤ period * exchange.history.periods.length := by
  have input := congrArg List.length kept.conserved.input
  have output := congrArg List.length kept.conserved.output
  have handed : exchange.handed.length = period * exchange.history.periods.length := length_flatten_uniform kept.periods
  have written : exchange.written.length = period * exchange.history.answers.length := length_flatten_uniform kept.answers
  have empty : (start buffers).unread = [] := fresh.unread
  have silent : (start buffers).queued.length = 2 * period + transfer := by
    change buffers.queued.length = _
    rw [fresh.queued, List.length_replicate]
  simp only [List.length_append, empty, List.length_nil] at input output
  refine ⟨?_, ?_, Nat.mul_le_mul_left _ kept.answered⟩
  · have paired := kept.paired
    omega
  · omega

theorem card_silent (exchange : Exchange) (frame : Frame inputs) :
    (exchange.card frame).2.buffers.silentFrames =
      if exchange.queued = [] then saturatingAdd exchange.buffers.silentFrames 1 else exchange.buffers.silentFrames := by
  change (exchange.buffers.capture frame).2.render.2.silentFrames = _
  rw [Buffers.render_silent, Buffers.capture_queued, Buffers.capture_silent]
  rfl

theorem card_dropped (exchange : Exchange) (frame : Frame inputs) :
    (exchange.card frame).2.buffers.droppedFrames =
      if exchange.unread.length = exchange.buffers.input.capacity then saturatingAdd exchange.buffers.droppedFrames 1
      else exchange.buffers.droppedFrames := by
  change (exchange.buffers.capture frame).2.render.2.droppedFrames = _
  rw [Buffers.render_dropped, Buffers.capture_dropped]
  rfl

private theorem saturating_ne_zero (count : Nat) : saturatingAdd count 1 ≠ 0 := by
  have limit : maxU32 = 4294967295 := rfl
  simp only [saturatingAdd, limit]
  omega

private theorem card_in_step (fresh : buffers.Fresh period transfer)
    (kept : InStep period transfer (start buffers) exchange) (plays : exchange.queued ≠ []) (frame : Frame inputs) :
    InStep period transfer (start buffers) (exchange.card frame).2 := by
  obtain ⟨input, output, answered⟩ := kept.levels fresh
  have nonempty : 0 < exchange.queued.length := List.length_pos_of_ne_nil plays
  have room : exchange.unread.length < 4 * period + 2 * transfer := by omega
  have conserved := kept.conserved.trans (card_conserves kept.sized frame room plays)
  refine ⟨card_sized kept.sized frame, ?_, ?_, kept.answered, kept.periods, kept.answers, ?_⟩
  · rw [card_history]
    simpa using conserved
  · rw [card_history]
    simp [kept.paired]
  · rw [card_dropped, kept.sized.inputFrames, if_neg (Nat.ne_of_lt room)]
    exact kept.dropped

private theorem read_in_step (positive : 1 ≤ period)
    (kept : InStep period transfer (start buffers) exchange) :
    InStep period transfer (start buffers) exchange.read.2 := by
  have conserved := kept.conserved.trans (read_conserves kept.sized positive)
  have sized := read_sized kept.sized
  rcases read_cases kept.sized positive with ⟨_, nothing⟩ | ⟨complete, count, left, buffersKept, logged⟩
  · rw [nothing]
    exact kept
  · refine ⟨sized, ?_, ?_, ?_, ?_, ?_, ?_⟩
    · simpa [handed, written, logged, count] using conserved
    · simpa [logged] using kept.paired
    · simpa [logged] using Nat.le_succ_of_le kept.answered
    · intro block member
      rw [logged] at member
      rcases List.mem_append.mp member with old | new
      · exact kept.periods block old
      · rw [List.mem_singleton.mp new, List.length_take]
        omega
    · simpa [logged] using kept.answers
    · rw [buffersKept]
      exact kept.dropped

private theorem write_in_step (fresh : buffers.Fresh period transfer)
    (kept : InStep period transfer (start buffers) exchange)
    (unanswered : exchange.history.answers.length < exchange.history.periods.length)
    {answer : List (Frame outputs)} (wrote : exchange.write answer = some after) :
    InStep period transfer (start buffers) after := by
  obtain ⟨input, output, _⟩ := kept.levels fresh
  have behind : period * exchange.history.answers.length + period ≤ period * exchange.history.periods.length := by
    rw [← Nat.mul_succ]
    exact Nat.mul_le_mul_left _ unanswered
  have conserved := kept.conserved.trans (write_conserves kept.sized wrote (by omega))
  obtain ⟨exact, _, buffersKept, logged⟩ := write_some kept.sized wrote
  refine ⟨write_sized kept.sized wrote, ?_, ?_, ?_, ?_, ?_, ?_⟩
  · simpa [handed, written, logged] using conserved
  · simpa [logged] using kept.paired
  · simpa [logged] using Nat.succ_le_of_lt unanswered
  · simpa [logged] using kept.periods
  · intro block member
    rw [logged] at member
    rcases List.mem_append.mp member with old | new
    · exact kept.answers block old
    · rw [List.mem_singleton.mp new]
      exact exact
  · rw [buffersKept]
    exact kept.dropped

/-- A session that has not played silence for want of output is in step, and
the statistics never forget that it has. -/
theorem step_in_step (positive : 1 ≤ period) (fresh : buffers.Fresh period transfer) {event : Event}
    (stepped : step exchange event = some after)
    (kept : exchange.buffers.silentFrames = 0 → InStep period transfer (start buffers) exchange)
    (silent : after.buffers.silentFrames = 0) : InStep period transfer (start buffers) after := by
  cases event with
  | card frame =>
    cases stepped
    rw [card_silent] at silent
    split at silent
    · exact absurd silent (saturating_ne_zero _)
    · rename_i plays
      exact card_in_step fresh (kept silent) plays frame
  | read =>
    cases stepped
    apply read_in_step positive
    apply kept
    rw [← silent]
    exact (read_silent exchange).symm
  | write answer =>
    simp only [step] at stepped
    split at stepped
    · rename_i unanswered
      have same := write_silent stepped
      exact write_in_step fresh (kept (same ▸ silent)) unanswered stepped
    · cases stepped

/-- What a host observes of a session that never played silence for want of output. -/
structure Lagging (period transfer : Nat) (exchange : Exchange) : Prop where
  silenceFirst : ∀ k, k < 2 * period + transfer → k < exchange.history.played.length →
    exchange.history.played[k]? = some silence
  answersAfter : ∀ k, 2 * period + transfer + k < exchange.history.played.length →
    k < exchange.written.length ∧ exchange.history.played[2 * period + transfer + k]? = exchange.written[k]?
  answersInOrder : ∀ k, k < exchange.written.length →
    k < exchange.handed.length ∧ exchange.handed[k]? = exchange.history.captured[k]?
  periodsAnswered : (∀ block ∈ exchange.history.periods, block.length = period) ∧
    (∀ block ∈ exchange.history.answers, block.length = period) ∧
    exchange.history.answers.length ≤ exchange.history.periods.length
  noneDropped : exchange.buffers.droppedFrames = 0 ∧ exchange.handed ++ exchange.unread = exchange.history.captured
  nonePushedOut : exchange.history.played ++ exchange.queued =
    List.replicate (2 * period + transfer) silence ++ exchange.written

theorem InStep.lagging (fresh : buffers.Fresh period transfer)
    (kept : InStep period transfer (start buffers) exchange) : Lagging period transfer exchange := by
  obtain ⟨input, output, answered⟩ := kept.levels fresh
  have handed : exchange.handed.length = period * exchange.history.periods.length := length_flatten_uniform kept.periods
  have written : exchange.written.length = period * exchange.history.answers.length := length_flatten_uniform kept.answers
  have incoming : exchange.handed ++ exchange.unread = exchange.history.captured := by
    rw [kept.conserved.input]
    exact congrArg (· ++ _) fresh.unread
  have outgoing : exchange.history.played ++ exchange.queued =
      List.replicate (2 * period + transfer) silence ++ exchange.written := by
    rw [kept.conserved.output]
    exact congrArg (· ++ _) fresh.queued
  have position : ∀ k, k < exchange.history.played.length →
      exchange.history.played[k]? = (List.replicate (2 * period + transfer) silence ++ exchange.written)[k]? := by
    intro k before
    rw [← outgoing, List.getElem?_append_left before]
  refine ⟨?_, ?_, ?_, ⟨kept.periods, kept.answers, kept.answered⟩, ⟨kept.dropped, incoming⟩, outgoing⟩
  · intro k early before
    rw [position k before, List.getElem?_append_left (by simpa using early), List.getElem?_replicate, if_pos early]
  · intro k before
    refine ⟨by omega, ?_⟩
    rw [position _ before, List.getElem?_append_right (by simp), List.length_replicate, Nat.add_sub_cancel_left]
  · intro k before
    refine ⟨by omega, ?_⟩
    rw [← incoming, List.getElem?_append_left (by omega)]

theorem InStep.silent_iff (fresh : buffers.Fresh period transfer)
    (kept : InStep period transfer (start buffers) exchange) (silent : exchange.buffers.silentFrames = 0)
    (frame : Frame inputs) :
    (exchange.card frame).2.buffers.silentFrames ≠ 0 ↔
      exchange.written.length < exchange.history.played.length + 1 - (2 * period + transfer) := by
  obtain ⟨_, output, _⟩ := kept.levels fresh
  have written : exchange.written.length = period * exchange.history.answers.length := length_flatten_uniform kept.answers
  rw [card_silent]
  split
  · rename_i empty
    rw [empty, List.length_nil] at output
    have found := saturating_ne_zero exchange.buffers.silentFrames
    constructor
    · intro _
      omega
    · intro _
      exact found
  · rename_i plays
    have nonempty : 0 < exchange.queued.length := List.length_pos_of_ne_nil plays
    constructor
    · intro found
      exact absurd silent found
    · intro late
      omega

theorem timely_in_step (positive : 1 ≤ period) (fresh : buffers.Fresh period transfer) {event : Event}
    (timely : Timely period transfer exchange event) (stepped : step exchange event = some after)
    (kept : exchange.buffers.silentFrames = 0 ∧ InStep period transfer (start buffers) exchange) :
    after.buffers.silentFrames = 0 ∧ InStep period transfer (start buffers) after := by
  have silent : after.buffers.silentFrames = 0 := by
    cases event with
    | card frame =>
      cases stepped
      rw [card_silent, if_neg]
      · exact kept.1
      intro empty
      obtain ⟨_, output, _⟩ := kept.2.levels fresh
      rw [empty, List.length_nil] at output
      have late := timely exchange.history.answers.length (by
        rw [Nat.add_mul, Nat.mul_comm exchange.history.answers.length]
        omega)
      exact Nat.lt_irrefl _ late
    | read =>
      cases stepped
      exact (read_silent exchange).trans kept.1
    | write answer =>
      simp only [step] at stepped
      split at stepped
      · exact (write_silent stepped).trans kept.1
      · cases stepped
  exact ⟨silent, step_in_step positive fresh stepped (fun _ => kept.2) silent⟩

/-- The latency is `2 * period + transfer` frames until the host is late, which
it is once too little is written for the next render; a host that meets the
deadline of every period is never late, whenever else it acts. -/
theorem constant_latency {reserve : Nat → Except TryReserveError Unit} (positive : 1 ≤ period)
    (created : Buffers.new reserve period transfer = .ok buffers) {events : List Event}
    (ran : run step (start buffers) events = some exchange) :
    (exchange.buffers.silentFrames = 0 →
      Lagging period transfer exchange ∧
      ∀ frame, (exchange.card frame).2.buffers.silentFrames ≠ 0 ↔
        exchange.written.length < exchange.history.played.length + 1 - (2 * period + transfer)) ∧
    (Along step (Timely period transfer) (start buffers) events → exchange.buffers.silentFrames = 0) := by
  have fresh := Buffers.new_fresh created
  have initial := initial_in_step fresh
  constructor
  · intro silent
    have kept := run_invariant (fun exchange =>
        exchange.buffers.silentFrames = 0 → InStep period transfer (start buffers) exchange)
      (fun _ _ _ _ stepped kept => step_in_step positive fresh stepped kept)
      (along_trivial (start buffers) events) ran (fun _ => initial) silent
    exact ⟨kept.lagging fresh, kept.silent_iff fresh silent⟩
  · intro timely
    exact (run_invariant (fun exchange =>
        exchange.buffers.silentFrames = 0 ∧ InStep period transfer (start buffers) exchange)
      (fun _ _ _ timely stepped kept => timely_in_step positive fresh timely stepped kept)
      timely ran ⟨fresh.silent, initial⟩).1

private def lateAnswer : List Event :=
  [.card #v[5, 6], .read, .card #v[7, 8], .write [#v[5, 6, 0, 0]], .card #v[9, 10]]

/-- A host with periods of one frame that answers its first period only after
the second card step. -/
theorem constant_latency_late_first_answer :
    ∃ buffers exchange, Buffers.new (fun _ => .ok ()) 1 0 = .ok buffers ∧
      run step (start buffers) lateAnswer = some exchange ∧
      exchange.history.played = [silence, silence, #v[5, 6, 0, 0]] ∧ Lagging 1 0 exchange := by
  refine ⟨_, _, rfl, rfl, by decide, ?_⟩
  exact ((@constant_latency 1 0 _ _ (fun _ => .ok ()) (by decide) rfl lateAnswer rfl).1 (by decide)).1

end Ak1Driver.Proofs.Latency
