import Ak1Driver.Proofs.CardRate

/-! While starts succeed the engine follows its users: it runs exactly while
anyone has it prepared, at the rate they share. -/

namespace Ak1Driver.Driver
open Proto Lib.Transition

/-- What a start that succeeds leaves; a start that fails is not undone. -/
def Section.Served (audio : Audio) : Section → Prop
  | .setAsio _ _ => audio.hardware.engine.isSome = true
  | .undoAsio _ | .restart _ => False
  | _ => True

/-- An engine serves everyone, but for a session's start that has stopped it to
change the rate. -/
structure Served (users : Users) : Prop where
  engine : users.suspended = false → 0 < users.audio.hardware.prepared →
    (∀ owner rate previous, users.control ≠ some (.asioStart owner rate previous)) →
    users.audio.hardware.engine.isSome = true
  holder : ∀ entered, users.control = some entered → entered.Served users.audio

/-- The device is attached and its engine starts. -/
def StartsSucceed (users : Users) : Users.Event → Prop
  | .advance started => started = true ∧ users.audio.hardware.attached = true
  | _ => True

instance (users : Users) (event : Users.Event) : Decidable (StartsSucceed users event) :=
  match event with
  | .advance started => inferInstanceAs (Decidable (started = true ∧ users.audio.hardware.attached = true))
  | .attach | .claimRate _ | .releaseRate _ | .run _ | .pause _ | .beginRelease _ | .beginStop _ | .lock _ => .isTrue trivial

/-- Where no start fails, none has to find a rate to give back. -/
theorem Served.rateFound {users : Users} (served : Served users) (event : Users.Event) : RateFound users event := by
  cases event with
  | advance started => exact fun held => absurd (served.holder _ held) id
  | _ => trivial

theorem StartsSucceed.start {users : Users} {started : Bool} (succeed : StartsSucceed users (.advance started))
    (rate : SampleRate) : users.audio.startEngine rate started =
      (true, { users.audio with hardware := { users.audio.hardware with engine := some rate } }) := by
  rcases users.audio.startEngine_cases rate started with ⟨outcome, _⟩ | ⟨_, unable⟩
  · exact outcome
  · exact absurd ⟨succeed.2, succeed.1⟩ unable

theorem Served.kept {users after : Users} (served : Served users)
    (engine : after.audio.hardware.engine = users.audio.hardware.engine)
    (prepared : after.audio.hardware.prepared = users.audio.hardware.prepared) (control : after.control = users.control)
    (suspended : after.suspended = users.suspended) : Served after where
  engine := by
    rw [engine, prepared, control, suspended]
    exact served.engine
  holder entered held := by
    have before := served.holder entered (control ▸ held)
    cases entered with
    | setAsio owner rate => simpa only [Section.Served, engine] using before
    | _ => exact before

theorem Served.running {users : Users} (runs : users.audio.hardware.engine.isSome = true)
    (holder : ∀ entered, users.control = some entered → entered.Served users.audio) : Served users :=
  ⟨fun _ _ _ => runs, holder⟩

theorem Served.uncounted {audio : Audio} (engine : 0 < audio.hardware.prepared → audio.hardware.engine.isSome = true)
    (others : 0 < audio.uncountPrepared.hardware.prepared) : audio.uncountPrepared.hardware.engine.isSome = true := by
  obtain ⟨_, _, prepared⟩ := Users.uncountPrepared_kept audio
  rw [prepared] at others
  rw [Users.uncountPrepared_engine, if_neg (Nat.ne_of_gt others)]
  exact engine (by omega)

theorem Served.advance {users : Users} (served : Served users) (counted : Users.Counted users)
    (rated : Rated users.audio users.control) {entered : Section} (held : users.control = some entered) {started : Bool}
    (succeed : StartsSucceed users (.advance started)) : Served (users.advance started entered) := by
  have known := served.holder entered held
  have engine := served.engine
  rw [held] at engine
  cases entered with
  | prepare stream =>
    cases stopped : users.audio.hardware.engine with
    | none =>
      simp only [Users.advance, stopped]
      exact ⟨fun awake prepared _ => engine awake prepared (by simp), held_some trivial⟩
    | some running =>
      simp only [Users.advance, stopped]
      exact .running (by simp [Users.finish, Audio.countPrepared, stopped]) held_none
  | prepareStart stream rate =>
    simp only [Users.advance, succeed.start]
    exact .running rfl held_none
  | release stream =>
    refine ⟨fun awake others _ => ?_, held_none⟩
    exact Served.uncounted (fun prepared => engine awake prepared (by simp)) others
  | startAsio owner rate =>
    have serves := fun awake prepared => engine awake prepared (by simp)
    simp only [Users.advance]
    split
    · exact ⟨fun awake prepared _ => serves awake prepared, held_none⟩
    · exact ⟨fun awake prepared _ => serves awake prepared, held_some trivial⟩
  | claimAsio owner rate =>
    exact ⟨fun awake prepared _ => engine awake prepared (by simp), held_some trivial⟩
  | changeRate owner rate previous =>
    exact ⟨fun _ _ other => absurd rfl (other owner rate previous), held_some trivial⟩
  | asioStart owner rate previous =>
    cases stopped : users.audio.hardware.engine with
    | none =>
      simp only [Users.advance, stopped, succeed.start]
      exact .running rfl (held_some rfl)
    | some running =>
      simp only [Users.advance, stopped]
      refine .running (by simp [Users.goOn, stopped]) ?_
      intro other same
      cases same
      simp [Section.Served, Users.goOn, stopped]
  | undoAsio previous => exact absurd known id
  | restart restored => exact absurd known id
  | setAsio owner rate => exact .running known held_none
  | stopAsio owner =>
    have serves := fun awake prepared => engine awake prepared (by simp)
    cases slot : users.audio.asio with
    | none =>
      simp only [Users.advance, Audio.takeAsio, slot]
      exact ⟨fun awake prepared _ => serves awake prepared, held_none⟩
    | some session =>
      by_cases owned : session.owner = owner
      · simp only [Users.advance, Audio.takeAsio, slot, if_pos owned]
        exact ⟨fun awake prepared _ => serves awake prepared, held_some trivial⟩
      · simp only [Users.advance, Audio.takeAsio, slot, if_neg owned]
        exact ⟨fun awake prepared _ => serves awake prepared, held_none⟩
  | leaveAsio =>
    refine ⟨fun awake others _ => ?_, ?_⟩
    · exact Served.uncounted (fun prepared => engine awake prepared (by simp)) others
    · exact held_some trivial
  | releaseAsio =>
    exact ⟨fun awake prepared _ => engine awake prepared (by simp), held_none⟩
  | suspend =>
    refine ⟨?_, held_none⟩
    intro awake
    cases awake
  | resume =>
    cases rate : users.audio.shared.rate with
    | none =>
      -- Without a rate there is no stream, so nobody has the engine prepared.
      simp only [Users.advance, rate]
      refine ⟨fun _ prepared _ => ?_, held_none⟩
      have needed := counted.streams_positive (Or.inl prepared)
      exact absurd (rated.rateless.mp rate) (Nat.ne_of_gt needed)
    | some set =>
      simp only [Users.advance, rate]
      split
      · exact ⟨fun awake prepared _ => engine awake prepared (by simp), held_some trivial⟩
      · rename_i settled
        refine ⟨fun _ prepared _ => ?_, held_none⟩
        exact Option.isSome_iff_ne_none.mpr fun stopped => settled ⟨prepared, stopped⟩
  | resumeStart rate =>
    simp only [Users.advance, succeed.start]
    exact .running rfl held_none

theorem Section.Allowed.served {users : Users} {entered : Section} (allowed : entered.Allowed users) :
    entered.Served users.audio := by
  cases entered <;> first | exact trivial | exact allowed.elim

theorem Users.Took.served {users after : Users} {event : Users.Event} (took : Users.Took users event after)
    (counted : Users.Counted users) (rated : Rated users.audio users.control) (succeed : StartsSucceed users event)
    (served : Served users) : Served after := by
  cases took with
  | aside audio releasing stopping shared asio engine prepared more inside => exact served.kept engine prepared rfl rfl
  | claimRate fresh => exact served.kept rfl rfl rfl rfl
  | releaseRate known idle free => exact served.kept rfl rfl rfl rfl
  | lock entered free allowed stopping =>
    have engine := served.engine
    rw [free] at engine
    refine ⟨fun awake prepared _ => engine awake prepared (by simp), ?_⟩
    intro other held
    cases held
    exact allowed.served
  | advance held started => exact served.advance counted rated held succeed

/-- What holds in every state that runs without a failing start reach. -/
structure Following (users : Users) : Prop where
  counted : Users.Counted users
  rated : Rated users.audio users.control
  served : Served users

theorem run_following {events : List Users.Event} {final : Users}
    (succeed : Along Users.step StartsSucceed .start events) (ran : run Users.step .start events = some final) :
    Following final := by
  refine run_invariant Following ?_ succeed ran ⟨Users.counted_start, rated_start, ?_⟩
  · rintro before event after allowed stepped ⟨counted, rated, served⟩
    have took := Users.step_took stepped
    exact ⟨took.counted counted, took.rated counted (served.rateFound event) rated,
      took.served counted rated allowed served⟩
  · exact ⟨fun _ prepared => absurd prepared (Nat.lt_irrefl 0), held_none⟩

/-- The counters count their users, an engine runs exactly while someone has it
prepared, and no counter is ever decremented at zero. -/
theorem engine_follows_users {events : List Users.Event} {final : Users}
    (succeed : Along Users.step StartsSucceed .start events) (ran : run Users.step .start events = some final) :
    final.underflow = false ∧
      (final.control = none → final.suspended = false →
        final.audio.hardware.prepared = final.prepared.card + final.sessions ∧
        final.audio.shared.streams = final.created.card + final.sessions ∧
        (final.audio.hardware.engine.isSome = true ↔ 0 < final.audio.hardware.prepared) ∧
        (∀ running, final.audio.hardware.engine = some running → final.audio.shared.rate = some running) ∧
        (final.audio.shared.rate = none ↔ final.audio.shared.streams = 0)) := by
  obtain ⟨counted, rated, served⟩ := run_following succeed ran
  refine ⟨counted.underflow, fun free awake => ?_⟩
  have streams := counted.streams
  have prepared := counted.prepared
  have engine := rated.engine
  have idle := rated.idle
  have serves := served.engine
  simp only [Users.claims, Users.uses, free, Nat.add_zero] at streams prepared
  rw [free] at engine idle serves
  refine ⟨prepared, streams, ⟨?_, ?_⟩, engine, rated.rateless⟩
  · intro runs
    apply Nat.pos_of_ne_zero
    intro zero
    rw [idle zero (by simp)] at runs
    exact absurd runs Bool.false_ne_true
  · intro used
    exact serves awake used (by simp)

/-- A stream and a session, through a sleep, and two calls that race to stop the session. -/
def sharedEngine : List Users.Event :=
  let stream : Endpoint := ⟨0, .output12, .hz44100⟩
  [.attach, .claimRate stream, .lock (.prepare stream), .advance true, .advance true, .run stream,
    .lock (.startAsio 7 .hz48000), .advance true, .advance true, .advance true, .advance true, .advance true,
    .lock .suspend, .advance true, .lock .resume, .advance true, .advance true, .beginStop 7, .beginStop 7,
    .lock (.stopAsio 7), .advance true, .advance true, .advance true, .lock (.stopAsio 7), .advance true]

/-- The engine goes on for the stream, at the rate of the session that has gone. -/
theorem engine_follows_users_shared :
    ∃ final, run Users.step .start sharedEngine = some final ∧ final.audio.hardware.engine = some .hz48000 ∧
      final.audio.hardware.prepared = final.prepared.card + final.sessions ∧
      final.audio.shared.streams = final.created.card + final.sessions ∧
      (final.audio.hardware.engine.isSome = true ↔ 0 < final.audio.hardware.prepared) := by
  have runs : (run Users.step .start sharedEngine).any (fun final => final.audio.hardware.engine == some .hz48000 &&
      (final.control.isNone && !final.suspended)) = true := by decide +kernel
  obtain ⟨final, ran, checked⟩ := (Option.any_eq_true _ _).mp runs
  simp only [Bool.and_eq_true, beq_iff_eq, Option.isNone_iff_eq_none, Bool.not_eq_true'] at checked
  obtain ⟨playing, free, awake⟩ := checked
  obtain ⟨_, follows⟩ := engine_follows_users (by decide +kernel) ran
  obtain ⟨prepared, streams, engine, _⟩ := follows free awake
  exact ⟨final, ran, playing, prepared, streams, engine⟩

end Ak1Driver.Driver
