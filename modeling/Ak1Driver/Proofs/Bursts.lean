import Ak1Driver.Proofs.Conservation

/-! A session against the card as it moves frames: a packet's frames are captured
before as many are played, and the host has its turns between transfers. Until
a frame is played as silence, no frame is lost on either side. -/

namespace Ak1Driver.Exchange
open Proto Lib.Window

/-- Nothing was lost since the session began, and the card has captured `ahead`
frames more than it has played. -/
structure Steady (period transfer ahead : Nat) (exchange : Exchange) : Prop where
  sized : exchange.buffers.Sized period transfer
  input : exchange.handed ++ exchange.unread = exchange.history.captured
  output : exchange.history.played ++ exchange.queued =
    List.replicate (2 * period + transfer) silence ++ exchange.written
  paired : exchange.history.captured.length = exchange.history.played.length + ahead
  answered : exchange.history.answers.length ≤ exchange.history.periods.length
  kept : exchange.buffers.droppedFrames = 0
  periods : ∀ block ∈ exchange.history.periods, block.length = period
  answers : ∀ block ∈ exchange.history.answers, block.length = period

namespace Steady
variable {period transfer ahead : Nat} {buffers : Buffers} {exchange after : Exchange}

theorem start (fresh : buffers.Fresh period transfer) : Steady period transfer 0 (start buffers) := by
  refine ⟨fresh.toSized, ?_, ?_, rfl, Nat.le_refl _, fresh.dropped, by simp [Exchange.start], by simp [Exchange.start]⟩
  · exact fresh.unread
  · apply Eq.trans fresh.queued
    exact (List.append_nil _).symm

/-- How full both sides are. -/
theorem levels (steady : Steady period transfer ahead exchange) :
    period * exchange.history.periods.length + exchange.unread.length = exchange.history.played.length + ahead ∧
      exchange.history.played.length + exchange.queued.length =
        2 * period + transfer + period * exchange.history.answers.length ∧
      period * exchange.history.answers.length ≤ period * exchange.history.periods.length := by
  have input := congrArg List.length steady.input
  have output := congrArg List.length steady.output
  have handed : exchange.handed.length = period * exchange.history.periods.length := length_flatten_uniform steady.periods
  have written : exchange.written.length = period * exchange.history.answers.length := length_flatten_uniform steady.answers
  have paired := steady.paired
  simp only [List.length_append, List.length_replicate] at input output
  exact ⟨by omega, by omega, Nat.mul_le_mul_left _ steady.answered⟩

/-- The card may run this far ahead before the input ring is full. -/
theorem capture (steady : Steady period transfer ahead exchange) (near : ahead < 2 * period + transfer) (frame : Frame inputs) :
    Steady period transfer (ahead + 1) (exchange.capture frame).2 := by
  obtain ⟨input, output, answered⟩ := steady.levels
  have room : (exchange.unread ++ [frame]).length ≤ exchange.buffers.input.capacity := by
    have capacity := steady.sized.inputFrames
    simp only [List.length_append, List.length_singleton]
    omega
  refine ⟨steady.sized.capture frame, ?_, ?_, ?_, steady.answered, ?_, steady.periods, steady.answers⟩
  · change exchange.handed ++ (exchange.capture frame).2.unread = exchange.history.captured ++ [frame]
    apply Eq.trans (congrArg (exchange.handed ++ ·) ((capture_unread exchange frame).trans (rtake_of_fits room)))
    apply Eq.trans (List.append_assoc _ _ _).symm
    exact congrArg (· ++ [frame]) steady.input
  · apply Eq.trans (congrArg (exchange.history.played ++ ·) (capture_queued exchange frame))
    exact steady.output
  · change (exchange.history.captured ++ [frame]).length = _
    have paired := steady.paired
    simp only [List.length_append, List.length_singleton]
    change _ = exchange.history.played.length + (ahead + 1)
    omega
  · have short : exchange.buffers.unread.length ≠ exchange.buffers.input.capacity := by
      rw [List.length_append, List.length_singleton] at room
      exact Nat.ne_of_lt room
    apply Eq.trans (Buffers.capture_dropped exchange.buffers frame)
    exact (if_neg short).trans steady.kept

theorem render (steady : Steady period transfer (ahead + 1) exchange) (plays : exchange.queued ≠ []) :
    Steady period transfer ahead exchange.render := by
  obtain ⟨frame, rest, holds⟩ := List.exists_cons_of_ne_nil plays
  have played : exchange.render.history.played = exchange.history.played ++ [frame] := by
    apply congrArg (exchange.history.played ++ [·])
    exact (Buffers.render_frame exchange.buffers).trans (congrArg (List.headD · silence) holds)
  have left : exchange.render.queued = rest := (render_queued exchange).trans (congrArg List.tail holds)
  refine ⟨steady.sized.render, ?_, ?_, ?_, steady.answered, ?_, steady.periods, steady.answers⟩
  · apply Eq.trans (congrArg (exchange.handed ++ ·) (render_unread exchange))
    exact steady.input
  · have output := steady.output
    simp only [played, left, holds, List.append_assoc, List.singleton_append] at output ⊢
    exact output
  · have paired := steady.paired
    simp only [played, List.length_append, List.length_singleton]
    change exchange.history.captured.length = _
    omega
  · exact (Buffers.render_dropped exchange.buffers).trans steady.kept

/-- The host is handed the oldest period. -/
theorem hand {buffers after : Buffers} {history : History} (steady : Steady period transfer ahead ⟨buffers, history⟩)
    (complete : period ≤ buffers.unread.length) (sized : after.Sized period transfer)
    (left : after.unread = buffers.unread.drop period) (same : after = { buffers with input := after.input }) :
    Steady period transfer ahead
      ⟨after, { history with periods := history.periods ++ [buffers.unread.take period] }⟩ := by
  have queued : after.queued = buffers.queued := by
    rw [same]
    rfl
  refine ⟨sized, ?_, ?_, steady.paired, ?_, ?_, ?_, steady.answers⟩
  · have input := steady.input
    simp only [handed, unread, left, List.flatten_append, List.flatten_singleton, List.append_assoc,
      List.take_append_drop] at input ⊢
    exact input
  · apply Eq.trans (congrArg (history.played ++ ·) queued)
    exact steady.output
  · apply Nat.le_trans steady.answered
    rw [List.length_append]
    exact Nat.le_add_right _ _
  · have kept := steady.kept
    rw [same]
    exact kept
  · intro block member
    rcases List.mem_append.mp member with old | new
    · exact steady.periods block old
    · rw [List.mem_singleton.mp new]
      exact List.length_take_of_le complete

/-- An answer to a period that has been read finds room when the card has played
what it has captured. -/
theorem answer {buffers after : Buffers} {history : History} (steady : Steady period transfer 0 ⟨buffers, history⟩)
    (unanswered : history.answers.length < history.periods.length) {answer : List (Frame outputs)}
    (exact : answer.length = period) (sized : after.Sized period transfer)
    (held : after.queued = (buffers.queued ++ answer).rtake (2 * period + transfer))
    (same : after = { buffers with output := after.output }) :
    Steady period transfer 0 ⟨after, { history with answers := history.answers ++ [answer] }⟩ := by
  have input : period * history.periods.length + buffers.unread.length = history.played.length + 0 := steady.levels.1
  have output : history.played.length + buffers.queued.length = 2 * period + transfer + period * history.answers.length :=
    steady.levels.2.1
  have behind : period * history.answers.length + period ≤ period * history.periods.length := by
    apply Nat.le_trans (Nat.le_of_eq (Nat.mul_succ _ _).symm)
    exact Nat.mul_le_mul_left _ unanswered
  have room : (buffers.queued ++ answer).length ≤ 2 * period + transfer := by
    rw [List.length_append, exact]
    omega
  have unread : after.unread = buffers.unread := by
    rw [same]
    rfl
  refine ⟨sized, ?_, ?_, steady.paired, ?_, ?_, steady.periods, ?_⟩
  · apply Eq.trans (congrArg (history.periods.flatten ++ ·) unread)
    exact steady.input
  · have kept : after.queued = buffers.queued ++ answer := held.trans (rtake_of_fits room)
    have output : history.played ++ buffers.queued = List.replicate (2 * period + transfer) silence ++ history.answers.flatten :=
      steady.output
    change history.played ++ after.queued =
      List.replicate (2 * period + transfer) silence ++ (history.answers ++ [answer]).flatten
    rw [kept, ← List.append_assoc, output, List.flatten_append, List.flatten_singleton, List.append_assoc]
  · change (history.answers ++ [answer]).length ≤ history.periods.length
    rw [List.length_append, List.length_singleton]
    exact unanswered
  · have kept := steady.kept
    rw [same]
    exact kept
  · intro block member
    rcases List.mem_append.mp member with old | new
    · exact steady.answers block old
    · rw [List.mem_singleton.mp new]
      exact exact

/-- The output lags the input by the silence that the session began with. -/
theorem lags (steady : Steady period transfer ahead exchange) :
    exchange.handed <+: exchange.history.captured ∧
      exchange.history.played <+: List.replicate (2 * period + transfer) silence ++ exchange.written :=
  ⟨⟨_, steady.input⟩, ⟨_, steady.output⟩⟩

end Steady

end Ak1Driver.Exchange
