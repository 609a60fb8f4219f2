import Ak1Driver.Proofs.Latency
import Ak1Driver.Proofs.Restoration

/-! A host that polls. What is unread, queued or owed to the card is never less
than the latency, whatever was lost; a host that drains the input at every card
step therefore has output to play, and its first late answer of a whole period
pushes out what is queued too much. -/

namespace Ak1Driver.Proofs.Polling
open Proto Exchange Lib.Transition Latency
open Streaming (Flows Delayed)

/-- Every period read has been answered, as it is between the host's turns. -/
def Settled (exchange : Exchange) : Prop := exchange.history.answers.length = exchange.history.periods.length

instance (exchange : Exchange) : Decidable (Settled exchange) := inferInstanceAs (Decidable (_ = _))

def hosts : Event → Bool
  | .card _ => false
  | .read | .write _ => true

def turn (exchange : Exchange) (events : List Event) : Option Exchange :=
  if events.all hosts then run step exchange events else none

/-- A card step, and a turn of the host that drains every complete period. -/
def poll (exchange : Exchange) (round : Frame inputs × List Event) : Option Exchange := do
  let after ← turn (exchange.card round.1).2 round.2
  if Settled after ∧ after.unread.length < after.buffers.period then some after else none

variable {period transfer : Nat} {buffers : Buffers} {exchange after : Exchange}

/-- What holds at any time, also while the host owes answers. -/
structure Level (period transfer : Nat) (exchange : Exchange) : Prop where
  sized : exchange.buffers.Sized period transfer
  paired : exchange.handed.length + period * exchange.history.answers.length =
    exchange.written.length + period * exchange.history.periods.length
  answered : exchange.history.answers.length ≤ exchange.history.periods.length
  level : 2 * period + transfer + exchange.written.length ≤
    exchange.unread.length + exchange.queued.length + exchange.handed.length

theorem Level.covered (kept : Level period transfer exchange) : exchange.written.length ≤ exchange.handed.length := by
  have paired := kept.paired
  have few : period * exchange.history.answers.length ≤ period * exchange.history.periods.length :=
    Nat.mul_le_mul_left _ kept.answered
  omega

theorem start_level (fresh : buffers.Fresh period transfer) : Level period transfer (start buffers) := by
  have queued : (start buffers).queued.length = 2 * period + transfer := by
    change buffers.queued.length = _
    rw [fresh.queued, List.length_replicate]
  refine ⟨fresh.toSized, rfl, Nat.le_refl _, ?_⟩
  change 2 * period + transfer + 0 ≤ _ + (start buffers).queued.length + 0
  omega

theorem step_level (positive : 1 ≤ period) {event : Event} (stepped : step exchange event = some after)
    (kept : Level period transfer exchange) : Level period transfer after := by
  have covered := kept.covered
  obtain ⟨sized, paired, answered, level⟩ := kept
  cases event with
  | card frame =>
    cases stepped
    obtain ⟨unread, queued⟩ := card_levels sized frame
    have most := sized.queued_le
    refine ⟨card_sized sized frame, ?_, ?_, ?_⟩
    · rw [card_history, card_handed, card_written]
      exact paired
    · rw [card_history]
      exact answered
    · rw [card_handed, card_written]
      omega
  | read =>
    cases stepped
    rcases read_cases sized positive with ⟨_, nothing⟩ | ⟨complete, _, _, _, logged⟩
    · rw [nothing]
      exact ⟨sized, paired, answered, level⟩
    · obtain ⟨unread, queued, _, handed, written⟩ := read_levels sized positive complete
      refine ⟨read_sized sized, ?_, ?_, ?_⟩
      · simp only [logged, handed, written, List.length_append, List.length_singleton, Nat.mul_succ]
        omega
      · rw [logged, List.length_append]
        exact Nat.le_add_right_of_le answered
      · rw [queued, handed, written]
        omega
  | write answer =>
    obtain ⟨owed, wrote⟩ := Option.ite_none_right_eq_some.mp stepped
    obtain ⟨unread, queued, _, handed, written⟩ := write_levels sized wrote
    obtain ⟨_, _, _, logged⟩ := write_some sized wrote
    have behind : period * exchange.history.answers.length + period ≤ period * exchange.history.periods.length := by
      rw [← Nat.mul_succ]
      exact Nat.mul_le_mul_left _ owed
    refine ⟨write_sized sized wrote, ?_, ?_, ?_⟩
    · simp only [logged, handed, written, List.length_append, List.length_singleton, Nat.mul_succ]
      omega
    · rw [logged, List.length_append]
      exact owed
    · rw [unread, handed, written]
      omega

/-- What a turn of the host has done to the levels so far. -/
structure Turned (period transfer : Nat) (before after : Exchange) (reads writes : Nat) : Prop where
  unread : after.unread.length + period * reads = before.unread.length
  queued : after.queued.length = min (2 * period + transfer) (before.queued.length + period * writes)
  periods : after.history.periods.length = before.history.periods.length + reads
  answers : after.history.answers.length = before.history.answers.length + writes
  stats : after.buffers.stats = before.buffers.stats
  level : Level period transfer after
  flows : Settled before → before.unread.length + before.queued.length ≤ 2 * period + transfer → Flows before after

variable {reads writes : Nat}

theorem Turned.refl (level : Level period transfer exchange) : Turned period transfer exchange exchange 0 0 :=
  ⟨rfl, (Nat.min_eq_right level.sized.queued_le).symm, rfl, rfl, rfl, level, fun _ _ => .refl exchange⟩

theorem Turned.step (positive : 1 ≤ period) {before : Exchange} {event : Event} (host : hosts event = true)
    (stepped : step exchange event = some after) (turned : Turned period transfer before exchange reads writes) :
    ∃ reads writes, Turned period transfer before after reads writes := by
  obtain ⟨unread, queued, periods, answers, stats, level, flows⟩ := turned
  have next := step_level positive stepped level
  cases event with
  | card frame => cases host
  | read =>
    cases stepped
    rcases read_cases level.sized positive with ⟨_, nothing⟩ | ⟨complete, _, _, same, logged⟩
    · rw [nothing]
      exact ⟨reads, writes, unread, queued, periods, answers, stats, level, flows⟩
    · obtain ⟨fewer, kept, _⟩ := read_levels level.sized positive complete
      refine ⟨reads + 1, writes, ?_, ?_, ?_, ?_, ?_, next, fun settled fits => ?_⟩
      · rw [fewer, Nat.mul_succ]
        omega
      · rw [kept, queued]
      · rw [logged, List.length_append, periods]
        rfl
      · rw [logged]
        exact answers
      · rw [same]
        exact stats
      · exact (flows settled fits).trans ⟨_, _, _, _, read_conserves level.sized positive⟩
  | write answer =>
    obtain ⟨owed, wrote⟩ := Option.ite_none_right_eq_some.mp stepped
    obtain ⟨kept, more, _⟩ := write_levels level.sized wrote
    obtain ⟨_, _, same, logged⟩ := write_some level.sized wrote
    refine ⟨reads, writes + 1, ?_, ?_, ?_, ?_, ?_, next, fun settled fits => ?_⟩
    · rw [kept, unread]
    · rw [more, queued, Nat.mul_succ]
      omega
    · rw [logged]
      exact periods
    · rw [logged, List.length_append, answers]
      rfl
    · rw [same]
      exact stats

    · have behind : period * writes + period ≤ period * reads := by
        rw [← Nat.mul_succ]
        apply Nat.mul_le_mul_left
        rw [periods, answers, settled] at owed
        exact Nat.lt_of_add_lt_add_left owed
      exact (flows settled fits).trans ⟨_, _, _, _, write_conserves level.sized wrote (by omega)⟩

theorem run_turned (positive : 1 ≤ period) {before : Exchange} {events : List Event} (hosted : events.all hosts = true)
    (ran : run step exchange events = some after) (turned : Turned period transfer before exchange reads writes) :
    ∃ reads writes, Turned period transfer before after reads writes := by
  induction events generalizing exchange reads writes with
  | nil =>
    cases ran
    exact ⟨reads, writes, turned⟩
  | cons event events ih =>
    obtain ⟨middle, stepped, rest⟩ := run_cons.mp ran
    obtain ⟨host, others⟩ := Bool.and_eq_true_iff.mp hosted
    obtain ⟨reads, writes, turned⟩ := turned.step positive host stepped
    exact ih others rest turned

/-- The state between the rounds of a host that polls. -/
structure Drained (period transfer : Nat) (exchange : Exchange) : Prop where
  level : Level period transfer exchange
  settled : Settled exchange
  short : exchange.unread.length < period

theorem Level.atLeast (kept : Level period transfer exchange) (settled : Settled exchange) :
    2 * period + transfer ≤ exchange.unread.length + exchange.queued.length := by
  have paired := kept.paired
  have level := kept.level
  rw [settled] at paired
  omega

theorem poll_drains (positive : 1 ≤ period) {round : Frame inputs × List Event} (polled : poll exchange round = some after)
    (level : Level period transfer exchange) (settled : Settled exchange) :
    Drained period transfer after ∧
      after.unread.length = (exchange.card round.1).2.unread.length % period ∧
      after.queued.length = min (2 * period + transfer)
        ((exchange.card round.1).2.queued.length + period * ((exchange.card round.1).2.unread.length / period)) ∧
      after.buffers.stats = (exchange.card round.1).2.buffers.stats ∧
      ((exchange.card round.1).2.unread.length + (exchange.card round.1).2.queued.length ≤ 2 * period + transfer →
        Flows (exchange.card round.1).2 after) := by
  obtain ⟨drained, turned, checked⟩ := Option.bind_eq_some_iff.mp polled
  obtain ⟨hosted, ran⟩ := Option.ite_none_right_eq_some.mp turned
  obtain ⟨⟨answered, short⟩, same⟩ := Option.ite_none_right_eq_some.mp checked
  cases same
  have carded : Level period transfer (exchange.card round.1).2 :=
    step_level positive (show step exchange (.card round.1) = some _ from rfl) level
  obtain ⟨reads, writes, turned⟩ := run_turned positive hosted ran (.refl carded)
  have before : Settled (exchange.card round.1).2 := by
    rw [Settled, card_history]
    exact settled
  have equal : writes = reads := by
    have periods := turned.periods
    have answers := turned.answers
    rw [Settled] at answered before
    omega
  rw [turned.level.sized.periodFrames] at short
  have unread := turned.unread
  have queued := turned.queued
  subst equal
  refine ⟨⟨turned.level, answered, short⟩, ?_, ?_, turned.stats, turned.flows before⟩
  · rw [← unread, Nat.add_mul_mod_self_left, Nat.mod_eq_of_lt short]
  · rw [← unread, Nat.add_mul_div_left _ _ positive, Nat.div_eq_of_lt short, Nat.zero_add]
    exact queued

theorem Drained.plays (drained : Drained period transfer exchange) :
    exchange.queued ≠ [] ∧ exchange.unread.length < exchange.buffers.input.capacity := by
  have level := drained.level.atLeast drained.settled
  have short := drained.short
  rw [drained.level.sized.inputFrames]
  refine ⟨fun empty => ?_, by omega⟩
  rw [empty, List.length_nil] at level
  omega

/-- From the first drain on nothing is lost at a card step, and a round that
completes a period leaves exactly the latency. -/
theorem Drained.polled (positive : 1 ≤ period) (drained : Drained period transfer exchange)
    {round : Frame inputs × List Event} (polled : poll exchange round = some after) :
    Drained period transfer after ∧ after.buffers.stats = exchange.buffers.stats ∧
      (after.unread.length + after.queued.length = 2 * period + transfer ∨
        after.unread.length = exchange.unread.length + 1) ∧
      (exchange.unread.length + exchange.queued.length = 2 * period + transfer →
        after.unread.length + after.queued.length = 2 * period + transfer ∧ Flows exchange after) := by
  obtain ⟨plays, room⟩ := drained.plays
  have atLeast := drained.level.atLeast drained.settled
  have short := drained.short
  have sized := drained.level.sized
  have most : exchange.queued.length ≤ 2 * period + transfer := sized.queued_le
  obtain ⟨next, unread, queued, stats, flows⟩ := poll_drains positive polled drained.level drained.settled
  obtain ⟨captured, played⟩ := card_levels sized round.1
  have nonempty := List.length_pos_of_ne_nil plays
  have inside : exchange.unread.length < 4 * period + 2 * transfer := sized.inputFrames ▸ room
  have same : (exchange.card round.1).2.buffers.stats = exchange.buffers.stats := by
    rw [Buffers.stats, card_silent, card_dropped, if_neg plays, if_neg (Nat.ne_of_lt room)]
    rfl
  rw [Nat.min_eq_right (Nat.succ_le_of_lt inside)] at captured
  rw [captured] at unread queued flows
  have levels : (after.unread.length = exchange.unread.length + 1 ∧ after.queued.length = exchange.queued.length - 1) ∨
      (exchange.unread.length + 1 = period ∧ after.unread.length = 0 ∧
        after.queued.length = min (2 * period + transfer) (exchange.queued.length - 1 + period)) := by
    rcases Nat.lt_or_eq_of_le (Nat.succ_le_of_lt short) with fills | full
    · rw [Nat.mod_eq_of_lt fills] at unread
      rw [Nat.div_eq_of_lt fills, played, Nat.mul_zero] at queued
      exact .inl ⟨unread, by omega⟩
    · rw [full, Nat.mod_self] at unread
      rw [full, Nat.div_self positive, played, Nat.mul_one] at queued
      exact .inr ⟨full, unread, queued⟩
  refine ⟨next, stats.trans same, ?_, fun exact => ⟨by omega, ?_⟩⟩
  · rcases levels with ⟨fills, _⟩ | ⟨full, empty, queued⟩
    · exact .inr fills
    · apply Or.inl
      omega
  · exact .trans ⟨_, _, _, _, card_conserves sized round.1 inside plays⟩ (flows (by omega))

theorem run_drained (positive : 1 ≤ period) {rounds : List (Frame inputs × List Event)}
    (ran : run poll exchange rounds = some after) (drained : Drained period transfer exchange) :
    Drained period transfer after ∧ after.buffers.stats = exchange.buffers.stats := by
  refine run_invariant (fun other => Drained period transfer other ∧ other.buffers.stats = exchange.buffers.stats)
    ?_ (along_trivial exchange rounds) ran ⟨drained, rfl⟩
  rintro before round next _ polled ⟨drained, same⟩
  obtain ⟨drained, stats, _⟩ := drained.polled positive polled
  exact ⟨drained, stats.trans same⟩

theorem run_flows (positive : 1 ≤ period) {rounds : List (Frame inputs × List Event)}
    (ran : run poll exchange rounds = some after) (drained : Drained period transfer exchange)
    (exact : exchange.unread.length + exchange.queued.length = 2 * period + transfer) :
    after.unread.length + after.queued.length = 2 * period + transfer ∧ Flows exchange after := by
  have kept := run_invariant (fun other => Drained period transfer other ∧
      other.unread.length + other.queued.length = 2 * period + transfer ∧ Flows exchange other)
    ?_ (along_trivial exchange rounds) ran ⟨drained, exact, .refl exchange⟩
  · exact kept.2
  · rintro before round next _ polled ⟨drained, exact, flows⟩
    obtain ⟨drained, _, _, keeps⟩ := drained.polled positive polled
    obtain ⟨exact, more⟩ := keeps exact
    exact ⟨drained, exact, flows.trans more⟩

/-- As long as too much is queued, the rounds only fill the period. -/
theorem run_fills (positive : 1 ≤ period) {rounds : List (Frame inputs × List Event)}
    (ran : run poll exchange rounds = some after) (drained : Drained period transfer exchange) :
    after.unread.length + after.queued.length = 2 * period + transfer ∨
      after.unread.length = exchange.unread.length + rounds.length := by
  induction rounds generalizing exchange with
  | nil =>
    cases ran
    exact .inr rfl
  | cons round rounds ih =>
    obtain ⟨middle, polled, rest⟩ := run_cons.mp ran
    obtain ⟨next, _, fills, _⟩ := drained.polled positive polled
    rcases fills with exact | fills
    · exact .inl (run_flows positive rest next exact).1
    · rw [List.length_cons]
      rcases ih rest next with exact | filled
      · exact .inl exact
      · exact .inr (by omega)

theorem Level.answers (kept : Level period transfer exchange) (settled : Settled exchange) :
    exchange.handed.length = exchange.written.length := by
  have paired := kept.paired
  rw [settled] at paired
  omega

theorem turn_drains (positive : 1 ≤ period) (level : Level period transfer exchange) (settled : Settled exchange)
    {answer : List (Frame outputs)} (exact : answer.length = period) :
    ∃ events after, turn exchange events = some after ∧ Drained period transfer after := by
  induction unread : exchange.unread.length using Nat.strong_induction_on generalizing exchange with
  | _ length ih =>
    rcases Nat.lt_or_ge exchange.unread.length period with short | complete
    · exact ⟨[], exchange, rfl, level, settled, short⟩
    · have reading : step exchange .read = some exchange.read.2 := rfl
      have read := step_level positive reading level
      rcases read_cases level.sized positive with ⟨short, _⟩ | ⟨_, _, _, _, logged⟩
      · omega
      obtain ⟨fewer, _⟩ := read_levels level.sized positive complete
      obtain ⟨after, wrote⟩ := write_ok (exact.trans read.sized.periodFrames.symm)
      have owed : exchange.read.2.history.answers.length < exchange.read.2.history.periods.length := by
        rw [logged, List.length_append]
        exact Nat.lt_succ_of_le settled.le
      have writing : step exchange.read.2 (.write answer) = some after := (if_pos owed).trans wrote
      have next := step_level positive writing read
      obtain ⟨kept, _⟩ := write_levels read.sized wrote
      have answered : Settled after := by
        obtain ⟨_, _, _, same⟩ := write_some read.sized wrote
        rw [Settled, same, logged, List.length_append, List.length_append, settled]
        rfl
      obtain ⟨events, final, ran, drained⟩ := ih after.unread.length (by rw [kept, fewer]; omega) next answered rfl
      obtain ⟨hosted, rest⟩ := Option.ite_none_right_eq_some.mp ran
      refine ⟨.read :: .write answer :: events, final, ?_, drained⟩
      apply (if_pos hosted).trans
      exact run_cons.mpr ⟨_, reading, run_cons.mpr ⟨after, writing, rest⟩⟩

/-- A host can always drain the input, whatever it answers. -/
theorem poll_possible (positive : 1 ≤ period) (level : Level period transfer exchange) (settled : Settled exchange)
    (frame : Frame inputs) {answer : List (Frame outputs)} (exact : answer.length = period) :
    ∃ events after, poll exchange (frame, events) = some after := by
  have carded := step_level positive (show step exchange (.card frame) = some _ from rfl) level
  have before : Settled (exchange.card frame).2 := by
    rw [Settled, card_history]
    exact settled
  obtain ⟨events, after, turned, drained⟩ := turn_drains positive carded before exact
  refine ⟨events, after, Option.bind_eq_some_iff.mpr ⟨after, turned, if_pos ⟨drained.settled, ?_⟩⟩⟩
  rw [drained.level.sized.periodFrames]
  exact drained.short

/-- Between two turns of the host, what is unread and queued is at least the
latency. A host that polls from then on hears no silence and loses no input
after its first round, and within a period has exactly the latency again. -/
theorem polling_restores_latency {reserve : Nat → Except TryReserveError Unit} (positive : 1 ≤ period)
    (created : Buffers.new reserve period transfer = .ok buffers) {events : List Event}
    (ran : run step (start buffers) events = some exchange) (settled : Settled exchange) :
    2 * period + transfer ≤ exchange.unread.length + exchange.queued.length ∧
      ∀ round drained rounds later, poll exchange round = some drained → run poll drained rounds = some later →
        (later.queued ≠ [] ∧ later.unread.length < later.buffers.input.capacity ∧
          later.buffers.stats = drained.buffers.stats) ∧
        (period ≤ rounds.length → later.unread.length + later.queued.length = 2 * period + transfer ∧
          ∀ more final, run poll later more = some final → Delayed (2 * period + transfer) later final) := by
  have level := run_invariant (Level period transfer) (fun _ _ _ _ stepped kept => step_level positive stepped kept)
    (along_trivial (start buffers) events) ran (start_level (Buffers.new_fresh created))
  refine ⟨level.atLeast settled, fun round drained rounds later polled ranOn => ?_⟩
  have first := (poll_drains positive polled level settled).1
  obtain ⟨next, stats⟩ := run_drained positive ranOn first
  obtain ⟨plays, room⟩ := next.plays
  refine ⟨⟨plays, room, stats⟩, fun long => ?_⟩
  have exact : later.unread.length + later.queued.length = 2 * period + transfer := by
    have short := next.short
    rcases run_fills positive ranOn first with exact | filled
    · exact exact
    · omega
  refine ⟨exact, fun more final ranLonger => ?_⟩
  have flows := (run_flows positive ranLonger next exact).2
  have ended := (run_drained positive ranLonger next).1
  rw [← exact]
  exact flows.delayed (next.level.answers next.settled) ended.level.covered

private def answered : List Event := [.read, .write (List.replicate 2 silence)]

/-- A host with periods of two frames that sleeps through twelve, of which two
are dropped, and then polls. -/
theorem polling_restores_latency_after_drops :
    ∃ buffers exchange drained later, Buffers.new (fun _ => .ok ()) 2 1 = .ok buffers ∧
      run step (start buffers) (List.replicate 12 (.card silence)) = some exchange ∧ exchange.buffers.stats = (7, 2) ∧
      poll exchange (silence, (List.replicate 5 answered).flatten) = some drained ∧
      run poll drained [(silence, []), (silence, answered)] = some later ∧
      later.unread.length + later.queued.length = 5 := by
  have sleeps : passes step (Buffers.new (fun _ => .ok ()) 2 1) start (List.replicate 12 (.card silence))
      (fun _ exchange => decide (Settled exchange ∧ exchange.buffers.stats = (7, 2)) &&
        (poll exchange (silence, (List.replicate 5 answered).flatten)).any fun drained =>
          (run poll drained [(silence, []), (silence, answered)]).isSome) = true := by
    decide +kernel
  obtain ⟨buffers, exchange, created, ran, checked⟩ := exists_of_passes sleeps
  obtain ⟨slept, polls⟩ := Bool.and_eq_true_iff.mp checked
  obtain ⟨drained, polled, more⟩ := (Option.any_eq_true _ _).mp polls
  obtain ⟨later, ranOn⟩ := Option.isSome_iff_exists.mp more
  obtain ⟨settled, stats⟩ := of_decide_eq_true slept
  have restored := (polling_restores_latency (by decide) created ran settled).2 _ drained _ later polled ranOn
  exact ⟨buffers, exchange, drained, later, created, ran, stats, polled, ranOn, (restored.2 (Nat.le_refl 2)).1⟩

end Ak1Driver.Proofs.Polling
