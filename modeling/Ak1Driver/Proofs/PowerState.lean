import Ak1Driver.Proofs.Grounded

/-! Streaming stops before the device leaves D0. Whether it stays so is up to
the streams and the session: nothing keeps them from starting the engine while
the device sleeps. -/

namespace Ak1Driver.Driver
open Proto Lib.Transition

/-- From the return of `suspend` to the next call of `resume`. -/
def Asleep (users : Users) : Prop :=
  users.suspended = true ∧ users.control ≠ some .resume ∧ ∀ rate, users.control ≠ some (.resumeStart rate)

/-- The step is `resume`'s, and not a start of the engine that fails. -/
def Resumes (users : Users) : Users.Event → Prop
  | .advance started =>
    match users.control with
    | some .resume => True
    | some (.resumeStart rate) => (users.audio.startEngine rate started).1 = true
    | _ => False
  | _ => False

/-- No engine while the device sleeps, and one for whoever needs it once it has woken. -/
structure InD0 (users : Users) (event : Users.Event) (after : Users) : Prop where
  asleep : Asleep after → after.audio.hardware.engine = none
  resumed : Resumes users event → after.control = none →
    (after.audio.hardware.engine.isSome = true ↔ 0 < after.audio.hardware.prepared)

def StreamsInD0 (users : Users) (event : Users.Event) : Prop :=
  ∀ after, users.step event = some after → InD0 users event after

/-- The rate at which the operation starts the engine at its next step. -/
def Section.starts (audio : Audio) : Section → Option SampleRate
  | .prepareStart _ rate | .restart rate | .resumeStart rate => some rate
  | .asioStart _ rate _ => if audio.hardware.engine = none then some rate else none
  | _ => none

/-- No call but `resume` gets the engine started while the device sleeps, and
`resume` finds a rate if there is anyone to start it for. -/
def StartsAwake (users : Users) : Users.Event → Prop
  | .advance started => ∀ entered, users.control = some entered →
    (Asleep users → ∀ rate, entered.starts users.audio = some rate → (users.audio.startEngine rate started).1 = false) ∧
    (entered = .resume → users.audio.shared.rate = none → 0 < users.audio.hardware.prepared →
      users.audio.hardware.engine.isSome = true)
  | _ => True

/-- What a step of the holder makes of the engine. -/
theorem advance_engine (users : Users) (started : Bool) (entered : Section) :
    (users.advance started entered).audio.hardware.engine = none ∨
    (users.advance started entered).audio.hardware.engine = users.audio.hardware.engine ∨
    ∃ rate, entered.starts users.audio = some rate ∧ (users.audio.startEngine rate started).1 = true ∧
      (users.advance started entered).audio.hardware.engine = some rate := by
  cases entered with
  | prepare stream =>
    right
    left
    simp only [Users.advance]
    split <;> rfl
  | prepareStart stream rate =>
    rcases users.audio.startEngine_cases rate started with ⟨outcome, _⟩ | ⟨outcome, _⟩
    · refine .inr (.inr ⟨rate, rfl, congrArg Prod.fst outcome, ?_⟩)
      simp only [Users.advance, outcome]
      rfl
    · refine .inr (.inl ?_)
      simp only [Users.advance, outcome]
      rfl
  | release stream =>
    have kept := Users.uncountPrepared_engine users.audio
    split at kept
    · exact .inl kept
    · exact .inr (.inl kept)
  | startAsio owner rate =>
    right
    left
    simp only [Users.advance]
    split <;> rfl
  | changeRate owner rate previous =>
    simp only [Users.advance]
    split
    · exact .inl rfl
    · exact .inr (.inl rfl)
  | asioStart owner rate previous =>
    cases stopped : users.audio.hardware.engine with
    | some running =>
      refine .inr (.inl ?_)
      simp only [Users.advance, stopped]
      exact stopped
    | none =>
      rcases users.audio.startEngine_cases rate started with ⟨outcome, _⟩ | ⟨outcome, _⟩
      · refine .inr (.inr ⟨rate, if_pos stopped, congrArg Prod.fst outcome, ?_⟩)
        simp only [Users.advance, stopped, outcome]
        rfl
      · refine .inr (.inl ?_)
        simp only [Users.advance, stopped, outcome]
        exact stopped
  | undoAsio previous =>
    right
    left
    simp only [Users.advance]
    split
    · split <;> rfl
    · rfl
  | restart restored =>
    rcases users.audio.startEngine_cases restored started with ⟨outcome, _⟩ | ⟨outcome, _⟩
    · refine .inr (.inr ⟨restored, rfl, congrArg Prod.fst outcome, ?_⟩)
      simp only [Users.advance, outcome]
      rfl
    · refine .inr (.inl ?_)
      simp only [Users.advance, outcome]
      rfl
  | stopAsio owner =>
    right
    left
    simp only [Users.advance, Audio.takeAsio]
    split
    · rename_i session audio taken
      split at taken
      · obtain ⟨_, same⟩ := Option.ite_none_right_eq_some.mp taken
        cases same
        rfl
      · cases taken
    · rfl
  | leaveAsio =>
    have kept := Users.uncountPrepared_engine users.audio
    split at kept
    · exact .inl kept
    · exact .inr (.inl kept)
  | suspend => exact .inl rfl
  | resume =>
    right
    left
    simp only [Users.advance]
    split
    · split <;> rfl
    · rfl
  | resumeStart rate =>
    rcases users.audio.startEngine_cases rate started with ⟨outcome, _⟩ | ⟨outcome, _⟩
    · refine .inr (.inr ⟨rate, rfl, congrArg Prod.fst outcome, ?_⟩)
      simp only [Users.advance, outcome]
      rfl
    · refine .inr (.inl ?_)
      simp only [Users.advance, outcome]
      rfl
  | _ => exact .inr (.inl rfl)

theorem advance_suspended (users : Users) (started : Bool) {entered : Section} (asleep : entered ≠ .suspend)
    (awake : entered ≠ .resume) (starting : ∀ rate, entered ≠ .resumeStart rate) :
    (users.advance started entered).suspended = users.suspended := by
  cases entered with
  | prepare stream | prepareStart stream rate | startAsio owner rate | stopAsio owner =>
    simp only [Users.advance]
    split <;> rfl
  | asioStart owner rate previous | undoAsio previous =>
    simp only [Users.advance]
    split
    · first | rfl | (split <;> rfl)
    · first | rfl | (split <;> rfl)
  | suspend => exact absurd rfl asleep
  | resume => exact absurd rfl awake
  | resumeStart rate => exact absurd rfl (starting rate)
  | _ => rfl

/-- Only `suspend` sends the device to sleep. -/
theorem asleep_before {users : Users} {started : Bool} {entered : Section} (held : users.control = some entered)
    (asleep : Asleep (users.advance started entered)) : entered = .suspend ∨ Asleep users := by
  obtain ⟨suspended, _, starting⟩ := asleep
  by_cases sleeps : entered = .suspend
  · exact .inl sleeps
  · right
    have notResume : entered ≠ .resume := by
      rintro rfl
      cases set : users.audio.shared.rate with
      | none =>
        simp only [Users.advance, set] at suspended
        cases suspended
      | some rate =>
        simp only [Users.advance, set] at suspended starting
        split at suspended
        · rename_i needed
          rw [if_pos needed] at starting
          exact starting rate rfl
        · cases suspended
    have notStart : ∀ rate, entered ≠ .resumeStart rate := by
      rintro rate rfl
      cases suspended
    rw [advance_suspended users started sleeps notResume notStart] at suspended
    refine ⟨suspended, ?_, ?_⟩ <;> simp only [held, ne_eq, Option.some.injEq]
    · exact notResume
    · exact notStart

/-- What every run keeps in which the engine starts only in D0. -/
structure Silent (users : Users) : Prop where
  grounded : Grounded users.audio users.control
  asleep : Asleep users → users.audio.hardware.engine = none

theorem silent_start : Silent Users.start := ⟨grounded_start, fun _ => rfl⟩

theorem Silent.advance {users : Users} (silent : Silent users) {entered : Section} (held : users.control = some entered)
    {started : Bool} (failing : Asleep users → ∀ rate, entered.starts users.audio = some rate →
      (users.audio.startEngine rate started).1 = false) (asleep : Asleep (users.advance started entered)) :
    (users.advance started entered).audio.hardware.engine = none := by
  rcases asleep_before held asleep with rfl | before
  · rfl
  · rcases advance_engine users started entered with stopped | kept | ⟨rate, starts, success, _⟩
    · exact stopped
    · exact kept.trans (silent.asleep before)
    · rw [failing before rate starts] at success
      cases success

/-- A step that is not the holder's own leaves the engine and the device's power alone. -/
theorem Silent.aside {users after : Users} {event : Users.Event} (silent : Silent users)
    (stepped : users.step event = some after) (other : ∀ started, event ≠ .advance started) (asleep : Asleep after) :
    after.audio.hardware.engine = none := by
  cases Users.step_took stepped with
  | aside audio releasing stopping shared asio engine prepared more inside => exact engine.trans (silent.asleep asleep)
  | claimRate fresh => exact silent.asleep asleep
  | releaseRate known idle free => exact silent.asleep asleep
  | lock entered free allowed stopping =>
    exact silent.asleep ⟨asleep.1, by simp [free], by simp [free]⟩
  | advance held started => exact absurd rfl (other started)

/-- Once it has woken, the device streams for whoever has it prepared. -/
theorem resumed_iff {users : Users} (silent : Silent users) {entered : Section} (held : users.control = some entered)
    {started : Bool} (resumes : Resumes users (.advance started))
    (returned : (users.advance started entered).control = none) :
    ((users.advance started entered).audio.hardware.engine.isSome = true ↔
        0 < (users.advance started entered).audio.hardware.prepared) ↔
      (entered = .resume → users.audio.shared.rate = none → 0 < users.audio.hardware.prepared →
        users.audio.hardware.engine.isSome = true) := by
  have used : users.audio.hardware.engine.isSome = true → 0 < users.audio.hardware.prepared := by
    intro runs
    apply Nat.pos_of_ne_zero
    intro zero
    have idle := silent.grounded.idle zero (by rintro owner rate same; simp [Resumes, same] at resumes)
    simp [idle] at runs
  simp only [Resumes, held] at resumes
  cases entered with
  | resume =>
    cases set : users.audio.shared.rate with
    | none =>
      simp only [Users.advance, set, Users.finish]
      exact ⟨fun serves _ _ => serves.mpr, fun found => ⟨used, found trivial trivial⟩⟩
    | some rate =>
      simp only [Users.advance, set] at returned ⊢
      split at returned
      · cases returned
      · rename_i settled
        rw [if_neg settled]
        refine ⟨fun _ _ unset => absurd unset.symm (by simp), fun _ => ⟨used, fun needed => ?_⟩⟩
        exact Option.isSome_iff_ne_none.mpr fun stopped => settled ⟨needed, stopped⟩
  | resumeStart rate =>
    have needed : 0 < users.audio.hardware.prepared := silent.grounded.holder _ held
    rcases users.audio.startEngine_cases rate started with ⟨outcome, _⟩ | ⟨outcome, _⟩
    · simp only [Users.advance, outcome, Users.finish]
      exact ⟨fun _ same => absurd same (by simp), fun _ => ⟨fun _ => needed, fun _ => rfl⟩⟩
    · have success : (users.audio.startEngine rate started).1 = true := resumes
      rw [outcome] at success
      cases success
  | _ => exact absurd resumes id

/-- An engine that another call than `resume` starts while the device sleeps runs on. -/
theorem started_asleep {users : Users} {started : Bool} {entered : Section} (held : users.control = some entered)
    (before : Asleep users) {rate : SampleRate} (starts : entered.starts users.audio = some rate)
    (success : (users.audio.startEngine rate started).1 = true) :
    Asleep (users.advance started entered) ∧ (users.advance started entered).audio.hardware.engine = some rate := by
  rcases users.audio.startEngine_cases rate started with ⟨outcome, _⟩ | ⟨outcome, _⟩
  · cases entered with
    | prepareStart stream wanted =>
      cases starts
      simp only [Users.advance, outcome]
      exact ⟨⟨before.1, Option.some_ne_none _ ∘ Eq.symm, fun _ => Option.some_ne_none _ ∘ Eq.symm⟩, rfl⟩
    | asioStart owner wanted previous =>
      obtain ⟨stopped, same⟩ := Option.ite_none_right_eq_some.mp starts
      cases same
      simp only [Users.advance, stopped, outcome]
      exact ⟨⟨before.1, by simp [Users.goOn], by simp [Users.goOn]⟩, rfl⟩
    | restart wanted =>
      cases starts
      simp only [Users.advance, outcome]
      exact ⟨⟨before.1, Option.some_ne_none _ ∘ Eq.symm, fun _ => Option.some_ne_none _ ∘ Eq.symm⟩, rfl⟩
    | resumeStart wanted => exact absurd held (before.2.2 wanted)
    | _ => cases starts
  · rw [outcome] at success
    cases success

theorem streamsInD0_iff {users : Users} (silent : Silent users) (event : Users.Event) :
    StreamsInD0 users event ↔ StartsAwake users event := by
  cases event with
  | advance started =>
    constructor
    · intro inD0 entered held
      have result := inD0 _ (congrArg (Option.map (users.advance started)) held)
      refine ⟨fun before rate starts => ?_, fun resumes => ?_⟩
      · apply Bool.eq_false_of_not_eq_true
        intro success
        obtain ⟨asleep, runs⟩ := started_asleep held before starts success
        exact absurd (runs.symm.trans (result.asleep asleep)) (Option.some_ne_none rate)
      · subst resumes
        intro unset
        have returned : (users.advance started .resume).control = none := by
          simp only [Users.advance, unset]
          rfl
        have resumes : Resumes users (.advance started) := by simp [Resumes, held]
        exact (resumed_iff silent held resumes returned).mp (result.resumed resumes returned) rfl unset
    · intro awake after stepped
      obtain ⟨entered, held, rfl⟩ := Option.map_eq_some_iff.mp stepped
      obtain ⟨failing, found⟩ := awake entered held
      refine ⟨fun asleep => silent.advance held failing asleep, fun resumes returned => ?_⟩
      exact (resumed_iff silent held resumes returned).mpr found
  | _ =>
    refine ⟨fun _ => trivial, fun _ after stepped => ⟨?_, fun resumes => absurd resumes id⟩⟩
    exact silent.aside stepped fun started same => by cases same

theorem StreamsInD0.silent {users after : Users} {event : Users.Event} (inD0 : StreamsInD0 users event)
    (stepped : users.step event = some after) (silent : Silent users) : Silent after :=
  ⟨step_grounded stepped silent.grounded, (inD0 after stepped).asleep⟩

/-- The device streams only in D0 in exactly the runs in which nothing but
`resume` starts the engine while it sleeps, and `resume` finds the rate. -/
theorem streams_in_d0_iff (events : List Users.Event) :
    Along Users.step StreamsInD0 .start events ↔ Along Users.step StartsAwake .start events :=
  along_iff Silent (fun _ event silent => streamsInD0_iff silent event)
    (fun _ _ _ inD0 stepped silent => inD0.silent stepped silent) events silent_start

/-- A stream is prepared after the device has left D0. -/
def preparedAsleep : List Users.Event :=
  let stream : Endpoint := ⟨0, .output12, .hz44100⟩
  [.attach, .claimRate stream, .lock .suspend, .advance true, .lock (.prepare stream), .advance true, .advance true]

theorem engine_runs_asleep : ¬ ∀ events, Along Users.step StreamsInD0 .start events := by
  intro claim
  have runs : (run Users.step .start (preparedAsleep.take 6)).any (fun before =>
      (before.step (.advance true)).any fun after => after.suspended && (after.control.isNone &&
        after.audio.hardware.engine == some .hz44100)) = true := by decide +kernel
  obtain ⟨before, ran, checked⟩ := (Option.any_eq_true _ _).mp runs
  obtain ⟨after, stepped, streaming⟩ := (Option.any_eq_true _ _).mp checked
  simp only [Bool.and_eq_true, beq_iff_eq, Option.isNone_iff_eq_none] at streaming
  obtain ⟨suspended, returned, engine⟩ := streaming
  have along := ((along_append ran).mp (claim (preparedAsleep.take 6 ++ [.advance true]))).2
  have stopped := (along.1 after stepped).asleep ⟨suspended, by simp [returned], by simp [returned]⟩
  exact absurd (engine.symm.trans stopped) (Option.some_ne_none _)

end Ak1Driver.Driver
