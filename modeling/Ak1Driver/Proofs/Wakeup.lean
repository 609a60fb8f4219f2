import Ak1Driver.Streaming
import Ak1Driver.Proofs.Conservation

/-! Whether a complete period can wait without a signal. The session counts
captured frames to the next signal, the worker reads what the ring holds; the
two agree as long as the worker never leaves more frames than were counted. -/

namespace Ak1Driver.Streaming
open Proto Lib.Transition Lib.Window

/-- No complete period lies unread while the worker waits without a signal. -/
def NoLostWakeup (period : Nat) (streaming : Streaming) : Prop :=
  streaming.phase = .waiting → streaming.event = false → streaming.exchange.unread.length < period

/-- A read that ends the drain with the event clear leaves no more frames than
were captured since the last signal. -/
def Settles (period : Nat) (streaming : Streaming) : Move → Prop
  | .read => streaming.event = false → streaming.exchange.unread.length < period →
      streaming.exchange.unread.length ≤ streaming.exchange.buffers.captured
  | _ => True

instance (period : Nat) (streaming : Streaming) (move : Move) : Decidable (Settles period streaming move) :=
  match move with
  | .read => inferInstanceAs (Decidable (_ → _ → _))
  | .capture _ | .render | .wake | .write _ => .isTrue trivial

instance (period : Nat) (streaming : Streaming) : Decidable (NoLostWakeup period streaming) :=
  inferInstanceAs (Decidable (_ → _ → _))

/-- While the worker waits without a signal, the count to the next one covers
every unread frame. -/
structure Counted (period transfer : Nat) (streaming : Streaming) : Prop where
  sized : streaming.exchange.buffers.Sized period transfer
  within : streaming.exchange.buffers.captured < period
  covers : streaming.phase = .waiting → streaming.event = false →
    streaming.exchange.unread.length ≤ streaming.exchange.buffers.captured

variable {period transfer : Nat} {buffers : Buffers} {streaming after : Streaming}

theorem capture_unread_le (streaming : Streaming) (frame : Frame inputs) :
    (streaming.capture frame).exchange.unread.length ≤ streaming.exchange.unread.length + 1 := by
  change (streaming.exchange.capture frame).2.unread.length ≤ streaming.exchange.unread.length + 1
  rw [Exchange.capture_unread, length_rtake, List.length_append, List.length_singleton]
  omega

theorem capture_cases (sized : streaming.exchange.buffers.Sized period transfer) (frame : Frame inputs) :
    (streaming.exchange.buffers.captured + 1 < period ∧
      (streaming.capture frame).exchange.buffers.captured = streaming.exchange.buffers.captured + 1 ∧
      (streaming.capture frame).event = streaming.event) ∨
    (period ≤ streaming.exchange.buffers.captured + 1 ∧
      (streaming.capture frame).exchange.buffers.captured = 0 ∧ (streaming.capture frame).event = true) := by
  have counted : (streaming.capture frame).exchange.buffers.captured = _ :=
    Buffers.capture_captured streaming.exchange.buffers frame
  have signal : (streaming.capture frame).event = (streaming.event || _) :=
    congrArg (streaming.event || ·) (Buffers.capture_signals streaming.exchange.buffers frame)
  rw [sized.periodFrames] at counted signal
  rcases Nat.lt_or_ge (streaming.exchange.buffers.captured + 1) period with counts | signals
  · exact .inl ⟨counts, by rw [counted, if_pos counts], by simp [signal, counts]⟩
  · exact .inr ⟨signals, by rw [counted, if_neg (by omega)], by simp [signal, signals]⟩

theorem capture_sized (sized : streaming.exchange.buffers.Sized period transfer) (frame : Frame inputs) :
    (streaming.capture frame).exchange.buffers.Sized period transfer := sized.capture frame

theorem initial_counted (positive : 1 ≤ period) (fresh : buffers.Fresh period transfer) :
    Counted period transfer (start buffers) := by
  refine ⟨fresh.toSized, ?_, ?_⟩
  · change buffers.captured < period
    rw [fresh.captured]
    exact positive
  · intro _ _
    change buffers.unread.length ≤ _
    rw [fresh.unread]
    exact Nat.zero_le _

theorem step_counted (positive : 1 ≤ period) {move : Move} (settles : Settles period streaming move)
    (stepped : step streaming move = some after) (kept : Counted period transfer streaming) :
    Counted period transfer after := by
  cases move with
  | capture frame =>
    cases stepped
    have grew := capture_unread_le streaming frame
    rcases capture_cases kept.sized frame with ⟨counts, counted, same⟩ | ⟨signals, zero, set⟩
    · refine ⟨capture_sized kept.sized frame, by omega, ?_⟩
      intro waiting clear
      have covered := kept.covers waiting (same ▸ clear)
      omega
    · refine ⟨capture_sized kept.sized frame, by omega, ?_⟩
      intro _ clear
      rw [set] at clear
      cases clear
  | render =>
    cases stepped
    refine ⟨kept.sized.render, ?_, ?_⟩
    · change streaming.exchange.buffers.render.2.captured < period
      rw [Buffers.render_captured]
      exact kept.within
    · intro waiting clear
      change streaming.exchange.buffers.render.2.unread.length ≤ streaming.exchange.buffers.render.2.captured
      rw [Buffers.render_unread, Buffers.render_captured]
      exact kept.covers waiting clear
  | wake =>
    obtain ⟨_, _, rfl⟩ := wake_some stepped
    refine ⟨kept.sized, kept.within, ?_⟩
    intro waiting
    cases waiting
  | read =>
    obtain ⟨_, found⟩ := read_some kept.sized positive stepped
    rcases found with ⟨incomplete, rfl⟩ | ⟨complete, rfl⟩
    · exact ⟨kept.sized, kept.within, fun _ clear => settles clear incomplete⟩
    · refine ⟨Exchange.read_sized kept.sized, ?_, ?_⟩
      · rcases Exchange.read_cases kept.sized positive with ⟨_, nothing⟩ | ⟨_, _, _, same, _⟩
        · rw [nothing]
          exact kept.within
        · rw [same]
          exact kept.within
      · intro waiting
        cases waiting
  | write answer =>
    obtain ⟨_, exchange, accepted, rfl⟩ := write_some stepped
    obtain ⟨_, _, same, _⟩ := Exchange.write_some kept.sized accepted
    refine ⟨Exchange.write_sized kept.sized accepted, ?_, ?_⟩
    · rw [same]
      exact kept.within
    · intro waiting
      cases waiting

theorem Counted.no_lost_wakeup (kept : Counted period transfer streaming) : NoLostWakeup period streaming :=
  fun waiting clear => Nat.lt_of_le_of_lt (kept.covers waiting clear) kept.within

/-- A worker that waits with more frames left than were counted is not woken
for the next complete period. -/
theorem uncovered_loses_wakeup (sized : streaming.exchange.buffers.Sized period transfer)
    (waiting : streaming.phase = .waiting) (clear : streaming.event = false)
    (uncovered : streaming.exchange.buffers.captured < streaming.exchange.unread.length)
    (missing : Nat) (short : streaming.exchange.unread.length + missing = period) :
    ∃ moves final, run step streaming moves = some final ∧ ¬ NoLostWakeup period final := by
  induction missing generalizing streaming with
  | zero =>
    refine ⟨[], streaming, rfl, ?_⟩
    intro safe
    have complete := safe waiting clear
    omega
  | succ missing ih =>
    have room : (streaming.exchange.unread ++ [silence]).length ≤ streaming.exchange.buffers.input.capacity := by
      rw [sized.inputFrames, List.length_append, List.length_singleton]
      omega
    have grew : (streaming.capture silence).exchange.unread = streaming.exchange.unread ++ [silence] :=
      (Exchange.capture_unread streaming.exchange silence).trans (rtake_of_fits room)
    have length := congrArg List.length grew
    rw [List.length_append, List.length_singleton] at length
    rcases capture_cases sized silence with ⟨_, counted, same⟩ | ⟨signals, _, _⟩
    · obtain ⟨moves, final, ran, lost⟩ := ih (capture_sized sized silence) waiting (same.trans clear)
        (by omega) (by omega)
      exact ⟨.capture silence :: moves, final, ran, lost⟩
    · omega

theorem step_sized (positive : 1 ≤ period) {move : Move} (stepped : step streaming move = some after)
    (sized : streaming.exchange.buffers.Sized period transfer) : after.exchange.buffers.Sized period transfer := by
  cases move with
  | capture frame =>
    cases stepped
    exact capture_sized sized frame
  | render =>
    cases stepped
    exact sized.render
  | wake =>
    obtain ⟨_, _, rfl⟩ := wake_some stepped
    exact sized
  | read =>
    obtain ⟨_, found⟩ := read_some sized positive stepped
    rcases found with ⟨_, rfl⟩ | ⟨_, rfl⟩
    · exact sized
    · exact Exchange.read_sized sized
  | write answer =>
    obtain ⟨_, exchange, accepted, rfl⟩ := write_some stepped
    exact Exchange.write_sized sized accepted

private def dropOne : List Move :=
  (List.replicate 15 [.capture silence, .render]).flatten ++ [.wake] ++
    (List.replicate 4 [.read, .write (List.replicate 3 silence)]).flatten ++ [.read, .capture silence, .render]

/-- Fifteen frames captured before the worker's first wake overflow the ring by
one; the drain leaves two frames at a signal, so the next frame completes a
period that nothing announces. -/
theorem lost_wakeup_after_drop :
    ¬ ∀ (period transfer : Nat) (buffers : Buffers) (moves : List Move) (final : Streaming), 1 ≤ period →
      Buffers.new (fun _ => .ok ()) period transfer = .ok buffers →
      run step (start buffers) moves = some final → NoLostWakeup period final := by
  intro claim
  have lost : passes step (Buffers.new (fun _ => .ok ()) 3 1) start dropOne
      (fun _ final => !decide (NoLostWakeup 3 final)) = true := by decide +kernel
  obtain ⟨buffers, final, created, ran, missed⟩ := exists_of_passes lost
  have kept := claim 3 1 buffers dropOne final (by decide) created ran
  simp [kept] at missed

/-- The wakeup is lost exactly after a drain that ends with more frames unread
than counted: no run without such a drain loses it, and any run with one can go
on to lose it. -/
theorem no_lost_wakeup_when_settled {reserve : Nat → Except TryReserveError Unit} (positive : 1 ≤ period)
    (created : Buffers.new reserve period transfer = .ok buffers) :
    (∀ moves final, Along step (Settles period) (start buffers) moves →
      run step (start buffers) moves = some final → NoLostWakeup period final) ∧
    (∀ moves before waiting, run step (start buffers) moves = some before → step before .read = some waiting →
      ¬ Settles period before .read → ∃ more final, run step waiting more = some final ∧ ¬ NoLostWakeup period final) := by
  have fresh := Buffers.new_fresh created
  constructor
  · intro moves final settles ran
    exact (run_invariant (Counted period transfer)
      (fun _ _ _ settles stepped kept => step_counted positive settles stepped kept)
      settles ran (initial_counted positive fresh)).no_lost_wakeup
  · intro moves before waiting ran stepped unsettled
    have sized : before.exchange.buffers.Sized period transfer :=
      Reachable.invariant (fun streaming => streaming.exchange.buffers.Sized period transfer) ⟨moves, ran⟩
        (fun _ _ _ stepped sized => step_sized positive stepped sized) fresh.toSized
    obtain ⟨clear, incomplete, uncovered⟩ : before.event = false ∧ before.exchange.unread.length < period ∧
        before.exchange.buffers.captured < before.exchange.unread.length := by
      simpa [Settles] using unsettled
    obtain ⟨_, found⟩ := read_some sized positive stepped
    rcases found with ⟨_, rfl⟩ | ⟨complete, _⟩
    · exact uncovered_loses_wakeup sized rfl clear uncovered (period - before.exchange.unread.length)
        (show before.exchange.unread.length + _ = period by omega)
    · omega

private def onePeriod : List Move :=
  List.replicate 3 (.capture silence) ++ [.wake, .read, .write (List.replicate 3 silence), .read, .capture silence]

theorem no_lost_wakeup_when_settled_one_period :
    ∃ buffers final, Buffers.new (fun _ => .ok ()) 3 1 = .ok buffers ∧
      run step (start buffers) onePeriod = some final ∧
      final.phase = .waiting ∧ final.event = false ∧ NoLostWakeup 3 final := by
  refine ⟨_, _, rfl, rfl, rfl, rfl, ?_⟩
  exact (@no_lost_wakeup_when_settled 3 1 _ (fun _ => .ok ()) (by decide) rfl).1 onePeriod _ (by decide) rfl

end Ak1Driver.Streaming
