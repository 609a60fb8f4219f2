import Ak1Driver.Proofs.Grounded

/-! A start of a session that fails takes back whatever it did. The counters and
the rate are restored in every state that calls reach; the engine comes back
where it ran at the rate that was set. -/

namespace Ak1Driver.Driver
open Proto Lib.Transition

/-- What calls of `run`, `pause` and `release` make of the running streams. -/
def keepRunning (running : Slot → Option Endpoint) : Users.Event → Slot → Option Endpoint
  | .run stream => Function.update running stream.slot (some stream)
  | .pause stream | .beginRelease stream =>
    if running stream.slot = some stream then Function.update running stream.slot none else running
  | _ => running

theorem pause_running (audio : Audio) (stream : Endpoint) :
    (audio.pause stream).running = keepRunning audio.running (.pause stream) := by
  simp only [Audio.pause, keepRunning]
  split <;> rfl

theorem advance_running (users : Users) (started : Bool) (entered : Section) :
    (users.advance started entered).audio.running = users.audio.running := by
  have begun : ∀ rate, (users.audio.startEngine rate started).2.running = users.audio.running := by
    intro rate
    simp only [Audio.startEngine]
    split <;> rfl
  have uncounted : users.audio.uncountPrepared.running = users.audio.running := by
    simp only [Audio.uncountPrepared]
    split <;> rfl
  cases entered with
  | prepare stream =>
    simp only [Users.advance]
    split <;> rfl
  | prepareStart stream rate =>
    rcases users.audio.startEngine_cases rate started with ⟨outcome, _⟩ | ⟨outcome, _⟩ <;>
      simp only [Users.advance, outcome] <;> rfl
  | release stream => exact uncounted
  | changeRate owner rate previous =>
    simp only [Users.advance, Users.goOn]
    split <;> rfl
  | asioStart owner rate previous =>
    simp only [Users.advance]
    split
    · rfl
    · rcases users.audio.startEngine_cases rate started with ⟨outcome, _⟩ | ⟨outcome, _⟩ <;> simp only [outcome] <;> rfl
  | startAsio owner rate =>
    simp only [Users.advance]
    split <;> rfl
  | undoAsio previous =>
    simp only [Users.advance]
    split
    · split <;> rfl
    · rfl
  | restart restored => exact begun restored
  | stopAsio owner =>
    simp only [Users.advance, Audio.takeAsio]
    split
    · rename_i session audio taken
      split at taken
      · obtain ⟨_, same⟩ := Option.ite_none_right_eq_some.mp taken
        cases same
        rfl
      · cases taken
    · rfl
  | leaveAsio => exact uncounted
  | resume =>
    simp only [Users.advance]
    split
    · split <;> rfl
    · rfl
  | resumeStart rate => exact begun rate
  | _ => rfl

theorem step_running {users after : Users} {event : Users.Event} (stepped : users.step event = some after) :
    after.audio.running = keepRunning users.audio.running event := by
  cases event with
  | pause stream =>
    obtain ⟨_, same⟩ := Option.ite_none_right_eq_some.mp stepped
    cases same
    exact pause_running users.audio stream
  | beginRelease stream =>
    obtain ⟨_, same⟩ := Option.ite_none_right_eq_some.mp stepped
    cases same
    exact pause_running users.audio stream
  | beginStop owner =>
    simp only [Users.step] at stepped
    split at stepped
    · split at stepped <;> cases stepped <;> rfl
    · cases stepped
      rfl
  | lock entered =>
    obtain ⟨_, locked⟩ := Option.ite_none_right_eq_some.mp stepped
    obtain ⟨_, stopping, rfl⟩ := Users.enter_allowed locked
    rfl
  | advance started =>
    obtain ⟨entered, _, rfl⟩ := Option.map_eq_some_iff.mp stepped
    exact advance_running users started entered
  | _ =>
    obtain ⟨_, same⟩ := Option.ite_none_right_eq_some.mp stepped
    cases same
    rfl

theorem run_running {users final : Users} {events : List Users.Event} (ran : run Users.step users events = some final) :
    final.audio.running = events.foldl keepRunning users.audio.running := by
  induction events generalizing users with
  | nil =>
    cases ran
    rfl
  | cons event events ih =>
    obtain ⟨after, stepped, rest⟩ := run_cons.mp ran
    rw [List.foldl_cons, ← step_running stepped]
    exact ih rest

/-- The operation goes on, and no stream comes or goes. -/
def Undisturbed (users : Users) : Users.Event → Prop
  | .claimRate _ | .releaseRate _ => False
  | _ => users.control.isSome = true

/-- If `start_asio` returns at its next step, it returns an error. -/
def Failing (users : Users) : Prop :=
  match users.control with
  | some (.startAsio _ _) | some (.undoAsio _) | some (.restart _) => True
  | _ => False

/-- A call of `start_asio` from `before` that returns an error, with what else
happens while it holds the control lock. -/
structure FailedStart (before : Users) (owner : Owner) (rate : SampleRate) (events : List Users.Event) (last : Users)
    (started : Bool) (after : Users) : Prop where
  free : before.control = none
  undisturbed : Along Users.step Undisturbed { before with control := some (.startAsio owner rate) } events
  ran : run Users.step { before with control := some (.startAsio owner rate) } events = some last
  failing : Failing last
  stepped : last.step (.advance started) = some after
  returned : after.control = none

/-- Nothing is left of the call; streams may have begun or ceased to run meanwhile. -/
structure Undone (before : Users) (events : List Users.Event) (after : Users) : Prop where
  shared : after.audio.shared = before.audio.shared
  prepared : after.audio.hardware.prepared = before.audio.hardware.prepared
  asio : after.audio.asio = before.audio.asio
  running : after.audio.running = events.foldl keepRunning before.audio.running
  busy : before.audio.asio.isSome = true → after.audio.hardware = before.audio.hardware

/-- An engine that ran before the call runs again, unless the attempt to start it failed too. -/
def EngineBack (before last : Users) (started : Bool) (after : Users) : Prop :=
  ∀ running, before.audio.hardware.engine = some running → after.audio.hardware.engine = some running ∨
    ∃ restored, last.control = some (.restart restored) ∧ (last.audio.startEngine restored started).1 = false

/-- What the call has done so far to the audio it found. -/
def Section.During (before : Audio) (rate : SampleRate) (audio : Audio) : Section → Prop
  | .startAsio _ wanted => wanted = rate ∧ audio.shared = before.shared ∧ audio.hardware = before.hardware
  | .claimAsio _ wanted =>
    wanted = rate ∧ before.asio = none ∧ audio.shared = before.shared ∧ audio.hardware = before.hardware
  | .changeRate _ wanted previous =>
    wanted = rate ∧ before.asio = none ∧ previous = before.shared.rate ∧
      audio.shared = ⟨before.shared.streams + 1, some rate⟩ ∧ audio.hardware = before.hardware
  | .asioStart _ wanted previous =>
    wanted = rate ∧ before.asio = none ∧ previous = before.shared.rate ∧
      audio.shared = ⟨before.shared.streams + 1, some rate⟩ ∧
      audio.hardware = (if before.shared.rate ≠ some rate then before.stopEngine else before).hardware
  | .undoAsio previous =>
    before.asio = none ∧ previous = before.shared.rate ∧ audio.shared = ⟨before.shared.streams + 1, some rate⟩ ∧
      audio.hardware = before.stopEngine.hardware ∧ (before.shared.rate = some rate → before.hardware.engine = none)
  | .restart restored =>
    before.asio = none ∧ before.shared.rate = some restored ∧ audio.shared = before.shared ∧
      audio.hardware = before.stopEngine.hardware ∧ (before.shared.rate = some rate → before.hardware.engine = none)
  | .setAsio _ _ => True
  | _ => False

/-- While the call has not returned. -/
def During (before : Audio) (rate : SampleRate) (users : Users) : Prop :=
  ∀ entered, users.control = some entered → users.audio.asio = before.asio ∧ entered.During before rate users.audio

theorem undoAsio_shared {before audio : Audio} {rate : SampleRate}
    (rateless : before.shared.streams = 0 → before.shared.rate = none)
    (claimed : audio.shared = ⟨before.shared.streams + 1, some rate⟩) :
    (audio.undoAsio before.shared.rate).shared = before.shared := by
  have left : decrement (before.shared.streams + 1) = before.shared.streams := Users.decrement_positive (Nat.succ_pos _)
  simp only [Audio.undoAsio, claimed, left]
  split
  case isTrue none => rw [← rateless none]
  case isFalse => rfl

theorem During.advance {before : Audio} {rate : SampleRate} {users : Users} {entered : Section}
    (rateless : before.shared.streams = 0 → before.shared.rate = none) (during : During before rate users)
    (held : users.control = some entered) (started : Bool) : During before rate (users.advance started entered) := by
  obtain ⟨asio, known⟩ := during entered held
  cases entered with
  | startAsio owner wanted =>
    obtain ⟨same, shared, hardware⟩ := known
    simp only [Users.advance]
    split
    · exact held_none
    · rename_i free
      exact held_some ⟨asio, same, asio ▸ Option.not_isSome_iff_eq_none.mp free, shared, hardware⟩
  | claimAsio owner wanted =>
    obtain ⟨same, free, shared, hardware⟩ := known
    refine held_some ⟨asio, same, free, congrArg Shared.rate shared, ?_, hardware⟩
    simp only [Users.advance, Users.goOn, Audio.claimAsio, shared, same]
  | changeRate owner wanted previous =>
    obtain ⟨rfl, free, rfl, shared, hardware⟩ := known
    simp only [Users.advance]
    split
    · rename_i other
      refine held_some ⟨asio, rfl, free, rfl, shared, ?_⟩
      simp only [if_pos other, Users.goOn, Audio.stopEngine, hardware]
    · rename_i other
      refine held_some ⟨asio, rfl, free, rfl, shared, ?_⟩
      rw [if_neg other]
      exact hardware
  | asioStart owner wanted previous =>
    obtain ⟨rfl, free, rfl, shared, hardware⟩ := known
    cases stopped : users.audio.hardware.engine with
    | some running =>
      simp only [Users.advance, stopped]
      exact held_some ⟨asio, trivial⟩
    | none =>
      rcases users.audio.startEngine_cases wanted started with ⟨outcome, _⟩ | ⟨outcome, _⟩
      · simp only [Users.advance, stopped, outcome]
        exact held_some ⟨asio, trivial⟩
      · simp only [Users.advance, stopped, outcome]
        rw [hardware] at stopped
        refine held_some ⟨asio, free, rfl, shared, ?_, ?_⟩
        · apply hardware.trans
          split
          · rfl
          · rename_i same
            rw [if_neg same] at stopped
            simp only [Audio.stopEngine, ← stopped]
        · intro same
          rwa [if_neg (not_not.mpr same)] at stopped
  | undoAsio previous =>
    obtain ⟨free, rfl, shared, hardware, idle⟩ := known
    have undone := undoAsio_shared rateless shared
    cases restores : (users.audio.undoAsio before.shared.rate).shared.rate with
    | none =>
      simp only [Users.advance, restores]
      exact held_none
    | some restored =>
      simp only [Users.advance, restores]
      split
      · refine held_some ⟨asio, free, ?_, undone, hardware, idle⟩
        rw [← undone]
        exact restores
      · exact held_none
  | restart restored => exact held_none
  | setAsio owner wanted => exact held_none
  | _ => exact absurd known id

theorem During.step {before : Audio} {rate : SampleRate} {users after : Users} {event : Users.Event}
    (rateless : before.shared.streams = 0 → before.shared.rate = none) (undisturbed : Undisturbed users event)
    (stepped : users.step event = some after) (during : During before rate users) : During before rate after := by
  have aside : ∀ audio : Audio, audio.shared = users.audio.shared → audio.asio = users.audio.asio →
      audio.hardware = users.audio.hardware → ∀ releasing stopping,
      During before rate { users with audio := audio, releasing := releasing, stopping := stopping } := by
    intro audio shared asio hardware releasing stopping entered held
    obtain ⟨slot, known⟩ := during entered held
    have same : entered.During before rate audio ↔ entered.During before rate users.audio := by
      cases entered <;> simp only [Section.During, shared, hardware]
    exact ⟨asio.trans slot, same.mpr known⟩
  cases event with
  | attach =>
    obtain ⟨free, _⟩ := Option.ite_none_right_eq_some.mp stepped
    simp [Undisturbed, free] at undisturbed
  | claimRate stream => exact absurd undisturbed id
  | releaseRate stream => exact absurd undisturbed id
  | run stream =>
    obtain ⟨_, same⟩ := Option.ite_none_right_eq_some.mp stepped
    cases same
    exact aside (users.audio.run stream) rfl rfl rfl _ _
  | pause stream =>
    obtain ⟨_, same⟩ := Option.ite_none_right_eq_some.mp stepped
    cases same
    obtain ⟨shared, asio, hardware⟩ := Users.pause_kept users.audio stream
    exact aside (users.audio.pause stream) shared asio hardware _ _
  | beginRelease stream =>
    obtain ⟨_, same⟩ := Option.ite_none_right_eq_some.mp stepped
    cases same
    obtain ⟨shared, asio, hardware⟩ := Users.pause_kept users.audio stream
    exact aside (users.audio.pause stream) shared asio hardware _ _
  | beginStop owner =>
    simp only [Users.step] at stepped
    split at stepped
    · split at stepped <;> cases stepped <;> exact aside users.audio rfl rfl rfl _ _
    · cases stepped
      exact during
  | lock entered =>
    obtain ⟨free, _⟩ := Option.ite_none_right_eq_some.mp stepped
    simp [Undisturbed, free] at undisturbed
  | advance started =>
    obtain ⟨entered, held, rfl⟩ := Option.map_eq_some_iff.mp stepped
    exact during.advance rateless held started

section Call
variable {before last after : Users} {owner : Owner} {rate : SampleRate} {events : List Users.Event} {started : Bool}

theorem FailedStart.during (grounded : Grounded before.audio before.control)
    (failed : FailedStart before owner rate events last started after) : During before.audio rate last := by
  apply run_invariant (During before.audio rate) ?_ failed.undisturbed failed.ran
  · exact held_some ⟨rfl, rfl, rfl, rfl⟩
  · intro users event next undisturbed stepped during
    exact during.step grounded.rateless undisturbed stepped

theorem FailedStart.undone (grounded : Grounded before.audio before.control)
    (failed : FailedStart before owner rate events last started after) : Undone before events after := by
  have running := (step_running failed.stepped).trans (run_running failed.ran)
  have during := failed.during grounded
  have failing := failed.failing
  have returned := failed.returned
  obtain ⟨entered, held, rfl⟩ := Option.map_eq_some_iff.mp failed.stepped
  obtain ⟨asio, known⟩ := during entered held
  simp only [Failing, held] at failing
  cases entered with
  | startAsio owner wanted =>
    obtain ⟨_, shared, hardware⟩ := known
    simp only [Users.advance] at returned running ⊢
    split at returned
    · rename_i busy
      rw [if_pos busy] at running ⊢
      exact ⟨shared, congrArg Hardware.prepared hardware, asio, running, fun _ => hardware⟩
    · cases returned
  | undoAsio previous =>
    obtain ⟨free, rfl, shared, hardware, _⟩ := known
    have undone := undoAsio_shared grounded.rateless shared
    have slot : ¬ before.audio.asio.isSome = true := by simp [free]
    have prepared := congrArg Hardware.prepared hardware
    cases restores : (last.audio.undoAsio before.audio.shared.rate).shared.rate with
    | none =>
      simp only [Users.advance, restores] at running ⊢
      exact ⟨undone, prepared, asio, running, fun busy => absurd busy slot⟩
    | some restored =>
      simp only [Users.advance, restores] at returned running ⊢
      split at returned
      · cases returned
      · rename_i unneeded
        rw [if_neg unneeded] at running ⊢
        exact ⟨undone, prepared, asio, running, fun busy => absurd busy slot⟩
  | restart restored =>
    obtain ⟨free, _, shared, hardware, _⟩ := known
    have slot : ¬ before.audio.asio.isSome = true := by simp [free]
    have prepared := congrArg Hardware.prepared hardware
    obtain ⟨sharedKept, asioKept, preparedKept⟩ := Users.startEngine_kept last.audio restored started
    exact ⟨sharedKept.trans shared, preparedKept.trans prepared, asioKept.trans asio, running,
      fun busy => absurd busy slot⟩
  | _ => exact absurd failing id

/-- An engine that runs at the rate that is set, or finds nothing to change, comes back. -/
def RateTrue (audio : Audio) (rate : SampleRate) : Prop :=
  audio.asio.isSome = true ∨ audio.shared.rate = some rate ∨
    ∀ running, audio.hardware.engine = some running → audio.shared.rate = some running

theorem FailedStart.engineBack (grounded : Grounded before.audio before.control)
    (failed : FailedStart before owner rate events last started after) (true_ : RateTrue before.audio rate) :
    EngineBack before last started after := by
  intro running runs
  have during := failed.during grounded
  have failing := failed.failing
  have returned := failed.returned
  obtain ⟨entered, held, rfl⟩ := Option.map_eq_some_iff.mp failed.stepped
  obtain ⟨_, known⟩ := during entered held
  simp only [Failing, held] at failing
  have matched : before.audio.asio = none →
      (before.audio.shared.rate = some rate → before.audio.hardware.engine = none) →
      before.audio.shared.rate = some running := by
    intro free idle
    rcases true_ with busy | same | matches_
    · simp [free] at busy
    · exact absurd (runs.symm.trans (idle same)) (Option.some_ne_none running)
    · exact matches_ running runs
  cases entered with
  | startAsio owner wanted =>
    obtain ⟨_, _, hardware⟩ := known
    simp only [Users.advance] at returned ⊢
    split at returned
    · rename_i busy
      rw [if_pos busy]
      exact .inl ((congrArg Hardware.engine hardware).trans runs)
    · cases returned
  | undoAsio previous =>
    obtain ⟨free, rfl, shared, hardware, idle⟩ := known
    -- Someone has the engine prepared, so the call cannot return here.
    have undone := undoAsio_shared grounded.rateless shared
    have needed : 0 < before.audio.hardware.prepared := by
      apply Nat.pos_of_ne_zero
      intro zero
      have stopped := grounded.idle zero (by simp [failed.free])
      exact absurd (runs.symm.trans stopped) (Option.some_ne_none running)
    have restores : (last.audio.undoAsio before.audio.shared.rate).shared.rate = some running := by
      rw [undone]
      exact matched free idle
    have used : (last.audio.undoAsio before.audio.shared.rate).hardware.prepared > 0 :=
      Nat.lt_of_lt_of_eq needed (congrArg Hardware.prepared hardware).symm
    simp only [Users.advance, restores, if_pos used] at returned
    cases returned
  | restart restored =>
    obtain ⟨free, set, _, _, idle⟩ := known
    rcases last.audio.startEngine_cases restored started with ⟨outcome, _⟩ | ⟨outcome, _⟩
    · left
      have same : some restored = some running := set.symm.trans (matched free idle)
      simp only [Users.advance, outcome, Users.finish]
      exact same
    · exact .inr ⟨restored, held, congrArg Prod.fst outcome⟩
  | _ => exact absurd failing id

end Call

/-- The calls of `start_asio` up to the engine's failure to start. -/
def failingStart : List Users.Event := [.advance true, .advance true, .advance true, .advance false]

theorem failingStart_runs {before : Users} (owner : Owner) {rate : SampleRate} (free : before.audio.asio = none)
    (changes : before.audio.shared.rate ≠ some rate) :
    let begun : Users := { before with control := some (.startAsio owner rate) }
    run Users.step begun failingStart = some { before with
      audio := (before.audio.claimAsio rate).2.stopEngine
      control := some (.undoAsio before.audio.shared.rate) } ∧
    Along Users.step Undisturbed begun failingStart := by
  refine ⟨?_, ?_⟩
  · simp [failingStart, run, Users.step, Users.advance, Users.goOn, free, Audio.claimAsio, changes, Audio.stopEngine,
      Audio.startEngine]
  · simp [failingStart, Along, Undisturbed, Users.step, Users.advance, Users.goOn, free, Audio.claimAsio,
      Audio.stopEngine]

theorem rateTrue_of_engineBack {before : Users} {owner : Owner} {rate : SampleRate}
    (grounded : Grounded before.audio before.control) (free : before.control = none)
    (back : ∀ events last started after, FailedStart before owner rate events last started after →
      EngineBack before last started after) : RateTrue before.audio rate := by
  by_contra other
  simp only [RateTrue, not_or, not_forall] at other
  obtain ⟨busy, changes, running, runs, wrong⟩ := other
  have slot := Option.not_isSome_iff_eq_none.mp busy
  have needed : 0 < before.audio.hardware.prepared := by
    apply Nat.pos_of_ne_zero
    intro zero
    have stopped := grounded.idle zero (by simp [free])
    exact absurd (runs.symm.trans stopped) (Option.some_ne_none running)
  let claimed := (before.audio.claimAsio rate).2.stopEngine
  have undone : (claimed.undoAsio before.audio.shared.rate).shared = before.audio.shared :=
    undoAsio_shared grounded.rateless (show claimed.shared = ⟨before.audio.shared.streams + 1, some rate⟩ from rfl)
  obtain ⟨ran, along⟩ := failingStart_runs owner slot changes
  cases set : before.audio.shared.rate with
  | none =>
    -- The rate was lost, so nothing says at which rate the engine ran.
    have restores : (claimed.undoAsio before.audio.shared.rate).shared.rate = none := by rw [undone, set]
    let last : Users := { before with audio := claimed, control := some (.undoAsio before.audio.shared.rate) }
    have stepped : last.advance true (.undoAsio before.audio.shared.rate) =
        last.noteStreams.finish (claimed.undoAsio before.audio.shared.rate) := by
      simp only [Users.advance, last, restores]
    have failed : FailedStart before owner rate failingStart last true
        (last.noteStreams.finish (claimed.undoAsio before.audio.shared.rate)) :=
      ⟨free, along, ran, trivial, congrArg some stepped, rfl⟩
    rcases back _ _ _ _ failed running runs with same | ⟨restored, held, _⟩
    · cases same
    · cases held
  | some found =>
    have restores : (claimed.undoAsio before.audio.shared.rate).shared.rate = some found := by rw [undone, set]
    let last : Users := { before with audio := claimed, control := some (.undoAsio before.audio.shared.rate) }
    let restarting := last.noteStreams.goOn (claimed.undoAsio before.audio.shared.rate) (.restart found)
    have stepped : last.step (.advance true) = some restarting := by
      have used : (claimed.undoAsio before.audio.shared.rate).hardware.prepared > 0 := needed
      change some (last.advance true (.undoAsio before.audio.shared.rate)) = _
      simp only [Users.advance, last, restores, if_pos used, restarting]
    have attached : restarting.audio.hardware.attached = true := grounded.attached running runs
    have outcome := Or.resolve_right (restarting.audio.startEngine_cases found true) (fun unable => unable.2 ⟨attached, rfl⟩)
    have failed : FailedStart before owner rate (failingStart ++ [.advance true]) restarting true
        (restarting.finish (restarting.audio.startEngine found true).2) := by
      refine ⟨free, (along_append ran).mpr ⟨along, ?_⟩, run_append.mpr ⟨_, ran, ?_⟩, trivial, rfl, rfl⟩
      · exact ⟨rfl, fun _ _ => trivial⟩
      · exact run_cons.mpr ⟨restarting, stepped, rfl⟩
    rcases back _ _ _ _ failed running runs with same | ⟨restored, held, unable⟩
    · rw [Users.finish, outcome.1] at same
      exact wrong (set.trans same)
    · cases held
      rw [outcome.1] at unable
      cases unable

/-- A failed start is undone exactly where the rate that is set is the engine's. -/
theorem failed_start_undone_iff {before : Users} (reached : Reachable Users.step .start before)
    (free : before.control = none) (owner : Owner) (rate : SampleRate) :
    (∀ events last started after, FailedStart before owner rate events last started after →
      Undone before events after ∧ EngineBack before last started after) ↔ RateTrue before.audio rate := by
  have grounded := reachable_grounded reached
  constructor
  · intro claim
    apply rateTrue_of_engineBack grounded free
    intro events last started after failed
    exact (claim events last started after failed).2
  · intro true_ events last started after failed
    exact ⟨failed.undone grounded, failed.engineBack grounded true_⟩

/-- A stream at 44.1 kHz that plays. -/
def streamPlays : List Users.Event :=
  let stream : Endpoint := ⟨0, .output12, .hz44100⟩
  [.attach, .claimRate stream, .lock (.prepare stream), .advance true, .advance true, .run stream]

theorem failed_start_undone_iff_while_playing :
    ∃ before, run Users.step .start streamPlays = some before ∧ before.audio.hardware.engine = some .hz44100 ∧
      ∀ events last started after, FailedStart before 7 .hz48000 events last started after →
        Undone before events after ∧ EngineBack before last started after := by
  have plays : (run Users.step .start streamPlays).any (fun before => before.control.isNone &&
      (before.audio.shared.rate == some .hz44100 && before.audio.hardware.engine == some .hz44100)) = true := by
    decide +kernel
  obtain ⟨before, ran, checked⟩ := (Option.any_eq_true _ _).mp plays
  simp only [Bool.and_eq_true, beq_iff_eq, Option.isNone_iff_eq_none] at checked
  obtain ⟨free, set, runs⟩ := checked
  refine ⟨before, ran, runs, (failed_start_undone_iff ⟨_, ran⟩ free 7 .hz48000).mpr ?_⟩
  exact .inr (.inr fun running same => set.trans (runs.symm.trans same))

/-- A first session's start that fails takes the rate away from a stream that came
meanwhile; the stream plays, and the next start that fails silences it. -/
def rateLost : List Users.Event :=
  let stream : Endpoint := ⟨0, .output12, .hz44100⟩
  [.attach, .lock (.startAsio 7 .hz48000), .advance true, .advance true, .claimRate stream, .advance true, .advance false,
    .advance true, .lock (.prepare stream), .advance true, .advance true, .run stream]

theorem failed_start_silences_stream :
    ¬ ∀ (before : Users) (owner : Owner) (rate : SampleRate) (events : List Users.Event) (last : Users) (started : Bool)
      (after : Users), Reachable Users.step .start before → FailedStart before owner rate events last started after →
      Undone before events after ∧ EngineBack before last started after := by
  intro claim
  have lost : (run Users.step .start rateLost).any (fun before => before.control.isNone && (before.audio.asio.isNone &&
      (before.audio.shared.rate == none && before.audio.hardware.engine == some .hz44100))) = true := by decide +kernel
  obtain ⟨before, ran, checked⟩ := (Option.any_eq_true _ _).mp lost
  simp only [Bool.and_eq_true, beq_iff_eq, Option.isNone_iff_eq_none] at checked
  obtain ⟨free, slot, unset, runs⟩ := checked
  have back : RateTrue before.audio .hz48000 := by
    apply rateTrue_of_engineBack (reachable_grounded ⟨_, ran⟩) free
    intro events last started after failed
    exact (claim before 7 .hz48000 events last started after ⟨_, ran⟩ failed).2
  simp [RateTrue, slot, unset, runs] at back

end Ak1Driver.Driver
