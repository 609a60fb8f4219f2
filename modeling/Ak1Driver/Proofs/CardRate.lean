import Ak1Driver.Proofs.Accounts

/-! The card's rate is kept while anyone counts on it, unless the start of a
session fails after streams came that it knew nothing of: it then takes away
the rate that they found. -/

namespace Ak1Driver.Driver
open Proto Lib.Transition

/-- The rate an engine runs at: between a session's claim and the engine's stop
the rate is still the one before. -/
def expected (audio : Audio) : Option Section → Option SampleRate
  | some (.changeRate _ _ previous) => previous
  | _ => audio.shared.rate

/-- What the operation that holds the control lock knows of the rate. -/
def Section.Rated (audio : Audio) : Section → Prop
  | .prepareStart _ rate => audio.shared.rate = some rate
  | .changeRate _ rate _ => audio.shared.rate = some rate
  | .asioStart _ rate _ => audio.shared.rate = some rate
  | .undoAsio _ => audio.hardware.engine = none
  | .restart restored => audio.shared.rate = some restored ∧ 0 < audio.hardware.prepared
  | .setAsio _ rate => audio.shared.rate = some rate
  | .resumeStart rate => audio.shared.rate = some rate ∧ 0 < audio.hardware.prepared
  | _ => True

theorem Section.uses_le_claims (entered : Section) : entered.uses ≤ entered.claims := by
  cases entered <;> first | exact Nat.zero_le _ | exact Nat.le_refl _

structure Rated (audio : Audio) (control : Option Section) : Prop where
  rateless : audio.shared.rate = none ↔ audio.shared.streams = 0
  engine : ∀ running, audio.hardware.engine = some running → expected audio control = some running
  idle : audio.hardware.prepared = 0 → (∀ owner rate, control ≠ some (.setAsio owner rate)) → audio.hardware.engine = none
  session : ∀ session, audio.asio = some session → audio.shared.rate = some session.rate
  holder : ∀ entered, control = some entered → entered.Rated audio

namespace Users

theorem Counted.streams_positive {users : Users} (counted : Counted users)
    (needed : 0 < users.audio.hardware.prepared ∨ users.audio.asio.isSome ∨ 0 < users.claims ∨ users.created.Nonempty) :
    0 < users.audio.shared.streams := by
  have streams := counted.streams
  have prepared := counted.prepared
  have uses : users.uses ≤ users.claims := by
    unfold Users.uses Users.claims
    cases users.control with
    | none => exact Nat.le_refl 0
    | some entered => exact entered.uses_le_claims
  have grown : users.prepared.card ≤ users.created.card := Finset.card_le_card counted.created
  rcases needed with some | some | some | some
  · omega
  · cases slot : users.audio.asio with
    | none => simp [slot] at some
    | some session =>
      simp only [sessions, slot] at streams
      omega
  · omega
  · have := Finset.card_pos.mpr some
    omega

end Users

/-- Only the rate that is set matters, not how many count on it. -/
theorem Rated.shared {audio : Audio} {control : Option Section} (rated : Rated audio control) {shared : Shared}
    (rateless : shared.rate = none ↔ shared.streams = 0)
    (kept : ∀ rate, audio.shared.rate = some rate → shared.rate = some rate) : Rated { audio with shared } control where
  rateless := rateless
  engine running same := by
    have before := rated.engine running same
    cases control with
    | none => exact kept running before
    | some entered =>
      cases entered with
      | changeRate owner rate previous => exact before
      | _ => exact kept running before
  idle := rated.idle
  session session same := kept _ (rated.session session same)
  holder entered held := by
    have before := rated.holder entered held
    cases entered with
    | prepareStart stream rate => exact kept rate before
    | changeRate owner rate previous => exact kept rate before
    | asioStart owner rate previous => exact kept rate before
    | restart restored => exact ⟨kept restored before.1, before.2⟩
    | setAsio owner rate => exact kept rate before
    | resumeStart rate => exact ⟨kept rate before.1, before.2⟩
    | _ => exact before

theorem Rated.claimRate {audio : Audio} {control : Option Section} (rated : Rated audio control) (rate : SampleRate) :
    Rated (audio.claimRate rate) control := by
  apply rated.shared
  · simp
  · intro other same
    rw [same]
    rfl

/-- A release takes the rate away only when nobody counts on it. -/
theorem Rated.releaseRate {audio : Audio} {after : Users} (rated : Rated audio after.control)
    (positive : 0 < audio.shared.streams) (counted : Users.Counted after) (released : after.audio = audio.releaseRate) :
    Rated after.audio after.control := by
  have set : audio.shared.rate ≠ none := fun unset => Nat.ne_of_gt positive (rated.rateless.mp unset)
  by_cases last : decrement audio.shared.streams = 0
  · -- Nobody is left who needs the rate.
    have gone : ¬ 0 < after.audio.shared.streams := by
      simp only [released, Audio.releaseRate, last]
      exact Nat.lt_irrefl 0
    have unprepared : audio.hardware.prepared = 0 := by
      apply Nat.eq_zero_of_not_pos
      intro needed
      exact gone (counted.streams_positive (Or.inl (released ▸ needed)))
    have unclaimed : ∀ entered, after.control = some entered → ¬ 0 < entered.claims := by
      intro entered held claimed
      have claims : 0 < after.claims := by
        simp only [Users.claims, held]
        exact claimed
      exact gone (counted.streams_positive (Or.inr (Or.inr (Or.inl claims))))
    have stopped : audio.hardware.engine = none := by
      apply rated.idle unprepared
      intro owner rate held
      exact unclaimed _ held Nat.one_pos
    rw [released]
    constructor
    · simp [Audio.releaseRate, last]
    · intro running same
      exact absurd (same.symm.trans stopped) (Option.some_ne_none running)
    · intro _ _
      exact stopped
    · intro session same
      have slot : after.audio.asio.isSome := Option.isSome_iff_exists.mpr ⟨session, released ▸ same⟩
      exact absurd (counted.streams_positive (Or.inr (Or.inl slot))) gone
    · intro entered held
      have sound := counted.holder entered held
      cases entered with
      | prepareStart stream rate =>
        exact absurd (counted.streams_positive (Or.inr (Or.inr (Or.inr ⟨stream, sound.1⟩)))) gone
      | changeRate owner rate previous => exact absurd Nat.one_pos (unclaimed _ held)
      | asioStart owner rate previous => exact absurd Nat.one_pos (unclaimed _ held)
      | undoAsio previous => exact stopped
      | restart restored => exact absurd (rated.holder _ held).2 (Nat.not_lt_of_le (Nat.le_of_eq unprepared))
      | setAsio owner rate => exact absurd Nat.one_pos (unclaimed _ held)
      | resumeStart rate => exact absurd (rated.holder _ held).2 (Nat.not_lt_of_le (Nat.le_of_eq unprepared))
      | _ => trivial
  · rw [released]
    apply rated.shared
    · simp only [last, iff_false]
      exact set
    · intro rate same
      rw [if_neg last, same]

theorem Rated.kept {audio after : Audio} {control : Option Section} (rated : Rated audio control)
    (shared : after.shared = audio.shared) (asio : after.asio = audio.asio)
    (engine : after.hardware.engine = audio.hardware.engine)
    (prepared : after.hardware.prepared = audio.hardware.prepared) : Rated after control where
  rateless := by
    rw [shared]
    exact rated.rateless
  engine running same := by
    have before := rated.engine running (engine ▸ same)
    unfold expected at before ⊢
    rw [shared]
    exact before
  idle zero := by
    rw [engine]
    exact rated.idle (prepared ▸ zero)
  session session same := by
    rw [shared]
    exact rated.session session (asio ▸ same)
  holder entered held := by
    have before := rated.holder entered held
    have rate := congrArg Shared.rate shared
    cases entered with
    | prepareStart stream wanted => exact rate.trans before
    | changeRate owner wanted previous => exact rate.trans before
    | asioStart owner wanted previous => exact rate.trans before
    | undoAsio previous => exact engine.trans before
    | restart restored => exact ⟨rate.trans before.1, prepared ▸ before.2⟩
    | setAsio owner wanted => exact rate.trans before
    | resumeStart wanted => exact ⟨rate.trans before.1, prepared ▸ before.2⟩
    | _ => exact before

theorem Section.Allowed.ignorant {users : Users} {entered : Section} (allowed : entered.Allowed users) :
    entered.Rated users.audio ∧ expected users.audio (some entered) = users.audio.shared.rate := by
  cases entered <;> first | exact ⟨trivial, rfl⟩ | exact allowed.elim

/-- The start of a session that fails gives back a rate if anyone else needs one. -/
def RateFound (users : Users) : Users.Event → Prop
  | .advance _ => users.control = some (.undoAsio none) → users.audio.shared.streams = 1
  | _ => True

instance (users : Users) (event : Users.Event) : Decidable (RateFound users event) :=
  match event with
  | .advance _ => inferInstanceAs (Decidable (_ → _))
  | .attach | .claimRate _ | .releaseRate _ | .run _ | .pause _ | .beginRelease _ | .beginStop _ | .lock _ => .isTrue trivial

/-- An operation that returns, or goes on to a section that relies on nothing new. -/
theorem Rated.moved {audio : Audio} {control next : Option Section} (rated : Rated audio control)
    (steady : expected audio control = audio.shared.rate) (onward : expected audio next = audio.shared.rate)
    (idle : audio.hardware.prepared = 0 → ∀ owner rate, control ≠ some (.setAsio owner rate))
    (holder : ∀ entered, next = some entered → entered.Rated audio) : Rated audio next where
  rateless := rated.rateless
  engine running same := onward.trans (steady.symm.trans (rated.engine running same))
  idle zero _ := rated.idle zero (idle zero)
  session := rated.session
  holder := holder

theorem Rated.uncounted {audio : Audio} {control next : Option Section} (rated : Rated audio control)
    (steady : expected audio control = audio.shared.rate)
    (onward : expected audio.uncountPrepared next = audio.uncountPrepared.shared.rate)
    (holder : ∀ entered, next = some entered → entered.Rated audio.uncountPrepared) : Rated audio.uncountPrepared next := by
  obtain ⟨shared, asio, prepared⟩ := Users.uncountPrepared_kept audio
  constructor
  · rw [shared]
    exact rated.rateless
  · intro running same
    rw [Users.uncountPrepared_engine] at same
    rw [onward, shared, ← steady]
    split at same
    · cases same
    · exact rated.engine running same
  · intro zero _
    rw [Users.uncountPrepared_engine, if_pos (prepared ▸ zero)]
  · intro session same
    rw [shared]
    exact rated.session session (asio ▸ same)
  · exact holder

/-- An engine starts at the rate that is set, for those who have it prepared or
for the session that is about to be. -/
theorem Rated.started {audio : Audio} {control next : Option Section} (rated : Rated audio control) {rate : SampleRate}
    (known : audio.shared.rate = some rate) (onward : expected audio next = audio.shared.rate)
    (needed : audio.hardware.prepared = 0 → ∃ owner rate, next = some (.setAsio owner rate))
    (holder : ∀ entered, next = some entered →
      entered.Rated { audio with hardware := { audio.hardware with engine := some rate } }) :
    Rated { audio with hardware := { audio.hardware with engine := some rate } } next where
  rateless := rated.rateless
  engine running same := by
    cases same
    exact Eq.trans onward known
  idle zero other := by
    obtain ⟨owner, rate, session⟩ := needed zero
    exact absurd session (other owner rate)
  session := rated.session
  holder := holder

/-- An engine that is given back to those who have it prepared. -/
theorem Rated.restarted {audio : Audio} {entered : Section} (rated : Rated audio (some entered))
    (steady : expected audio (some entered) = audio.shared.rate) (aside : ∀ owner rate, entered ≠ .setAsio owner rate)
    {rate : SampleRate} (known : audio.shared.rate = some rate) (prepared : 0 < audio.hardware.prepared)
    (started : Bool) : Rated (audio.startEngine rate started).2 none := by
  rcases audio.startEngine_cases rate started with ⟨outcome, _⟩ | ⟨outcome, _⟩
  · rw [outcome]
    exact rated.started known rfl (fun zero => absurd zero (Nat.ne_of_gt prepared)) held_none
  · rw [outcome]
    exact rated.moved steady rfl (fun _ owner rate same => aside owner rate (Option.some.inj same)) held_none

/-- Without a claim that takes its rate away from others, nobody loses it. -/
theorem Rated.undone {audio : Audio} {next : Option Section} {previous : Option SampleRate}
    (stopped : audio.hardware.engine = none) (free : audio.asio = none)
    (claimed : 0 < audio.shared.streams) (found : previous = none → audio.shared.streams = 1)
    (holder : ∀ entered, next = some entered → entered.Rated (audio.undoAsio previous)) :
    Rated (audio.undoAsio previous) next where
  rateless := by
    simp only [Audio.undoAsio, Users.decrement_positive claimed]
    by_cases last : audio.shared.streams - 1 = 0
    · simp [last]
    · rw [if_neg last]
      constructor
      · intro unset
        have one := found unset
        omega
      · exact fun zero => absurd zero last
  engine running same := absurd (same.symm.trans stopped) (Option.some_ne_none running)
  idle _ _ := stopped
  session session same := absurd (same.symm.trans free) (Option.some_ne_none session)
  holder := holder

/-- A session that changes the rate stops the engine first; one that does not
finds the engine at its rate. -/
theorem Rated.changeRate {audio : Audio} {owner : Owner} {rate : SampleRate} {previous : Option SampleRate}
    (rated : Rated audio (some (.changeRate owner rate previous))) :
    Rated (if previous ≠ some rate then audio.stopEngine else audio) (some (.asioStart owner rate previous)) := by
  have claim : audio.shared.rate = some rate := rated.holder _ rfl
  split
  · exact { rated with
      engine := fun running same => absurd same.symm (Option.some_ne_none running)
      idle := fun _ _ => rfl
      holder := held_some claim }
  · rename_i same
    have old : previous = some rate := not_not.mp same
    refine { rated with engine := ?_, idle := ?_, holder := held_some claim }
    · intro running runs
      exact claim.trans (old.symm.trans (rated.engine running runs))
    · intro zero _
      exact rated.idle zero (by simp)

theorem Rated.asioStart {users : Users} {owner : Owner} {rate : SampleRate} {previous : Option SampleRate}
    (rated : Rated users.audio (some (.asioStart owner rate previous))) (started : Bool) :
    Rated (users.advance started (.asioStart owner rate previous)).audio
      (users.advance started (.asioStart owner rate previous)).control := by
  have claim : users.audio.shared.rate = some rate := rated.holder _ rfl
  cases stopped : users.audio.hardware.engine with
  | some running =>
    simp only [Users.advance, stopped, Users.goOn]
    exact rated.moved rfl rfl (by simp) (held_some claim)
  | none =>
    rcases users.audio.startEngine_cases rate started with ⟨outcome, _⟩ | ⟨outcome, _⟩
    · simp only [Users.advance, stopped, outcome, Users.goOn]
      exact rated.started claim rfl (fun _ => ⟨owner, rate, rfl⟩) (held_some claim)
    · simp only [Users.advance, stopped, outcome, Users.goOn]
      exact rated.moved rfl rfl (by simp) (held_some stopped)

theorem Rated.advance {users : Users} (rated : Rated users.audio users.control) (counted : Users.Counted users)
    {entered : Section} (held : users.control = some entered) {started : Bool}
    (found : RateFound users (.advance started)) :
    Rated (users.advance started entered).audio (users.advance started entered).control := by
  have sound := counted.holder entered held
  have known := rated.holder entered held
  have further := counted.advance held started
  rw [held] at rated
  have claimed : 0 < entered.claims → 0 < users.audio.shared.streams := by
    intro claims
    apply counted.streams_positive
    right
    right
    left
    simp only [Users.claims, held]
    exact claims
  cases entered with
  | prepare stream =>
    cases stopped : users.audio.hardware.engine with
    | none =>
      have needed : 0 < users.audio.shared.streams :=
        counted.streams_positive (Or.inr (Or.inr (Or.inr ⟨stream, sound.1⟩)))
      obtain ⟨rate, set⟩ := Option.ne_none_iff_exists'.mp fun unset => Nat.ne_of_gt needed (rated.rateless.mp unset)
      simp only [Users.advance, stopped, Users.goOn, set, Option.getD_some]
      exact rated.moved rfl rfl (by simp) (held_some set)
    | some running =>
      simp only [Users.advance, stopped, Users.finish]
      exact { rated with idle := fun zero => absurd zero (Nat.succ_ne_zero _), holder := held_none }
  | prepareStart stream rate =>
    rcases users.audio.startEngine_cases rate started with ⟨outcome, _⟩ | ⟨outcome, _⟩
    · simp only [Users.advance, outcome, Users.finish]
      refine { rated with engine := ?_, idle := fun zero => absurd zero (Nat.succ_ne_zero _), holder := held_none }
      intro running same
      cases same
      exact known
    · simp only [Users.advance, outcome, Users.finish]
      exact rated.moved rfl rfl (by simp) held_none
  | release stream => exact rated.uncounted rfl rfl held_none
  | startAsio owner rate =>
    simp only [Users.advance]
    split
    · exact rated.moved rfl rfl (by simp) held_none
    · exact rated.moved rfl rfl (by simp) (held_some trivial)
  | claimAsio owner rate =>
    constructor
    · simp [Users.advance, Users.goOn, Audio.claimAsio]
    · exact rated.engine
    · exact fun zero _ => rated.idle zero (by simp)
    · exact fun session same => absurd (same.symm.trans sound) (Option.some_ne_none session)
    · exact held_some rfl
  | changeRate owner rate previous => exact rated.changeRate
  | asioStart owner rate previous => exact rated.asioStart started
  | undoAsio previous =>
    have kept : previous = none → users.audio.shared.streams = 1 := by
      rintro rfl
      exact found held
    cases rate : (users.audio.undoAsio previous).shared.rate with
    | none =>
      simp only [Users.advance, rate]
      exact .undone known sound (claimed Nat.one_pos) kept held_none
    | some restored =>
      simp only [Users.advance, rate]
      split
      · rename_i needed
        exact .undone known sound (claimed Nat.one_pos) kept (held_some ⟨rate, needed⟩)
      · exact .undone known sound (claimed Nat.one_pos) kept held_none
  | restart restored => exact rated.restarted rfl (by simp) known.1 known.2 started
  | setAsio owner rate =>
    refine { rated with idle := fun zero => absurd zero (Nat.succ_ne_zero _), session := ?_, holder := held_none }
    intro session same
    cases same
    exact known
  | stopAsio owner =>
    cases slot : users.audio.asio with
    | none =>
      simp only [Users.advance, Audio.takeAsio, slot, Users.finish]
      exact rated.moved rfl rfl (by simp) held_none
    | some session =>
      by_cases owned : session.owner = owner
      · simp only [Users.advance, Audio.takeAsio, slot, if_pos owned, Users.goOn]
        exact { rated with
          idle := fun zero _ => rated.idle zero (by simp)
          session := fun session same => absurd same.symm (Option.some_ne_none session)
          holder := held_some trivial }
      · simp only [Users.advance, Audio.takeAsio, slot, if_neg owned, Users.finish]
        exact rated.moved rfl rfl (by simp) held_none
  | leaveAsio => exact rated.uncounted rfl rfl (held_some trivial)
  | releaseAsio =>
    have returned : Rated users.audio (users.advance started .releaseAsio).control :=
      rated.moved rfl rfl (by simp) held_none
    exact returned.releaseRate (claimed Nat.one_pos) further rfl
  | suspend =>
    exact { rated with
      engine := fun running same => absurd same.symm (Option.some_ne_none running)
      idle := fun _ _ => rfl
      holder := held_none }
  | resume =>
    have returned : Rated users.audio none := rated.moved rfl rfl (by simp) held_none
    cases rate : users.audio.shared.rate with
    | none =>
      simp only [Users.advance, rate]
      exact returned
    | some set =>
      simp only [Users.advance, rate]
      split
      · rename_i needed
        exact rated.moved rfl rfl (by simp) (held_some ⟨rate, needed.1⟩)
      · exact returned
  | resumeStart rate => exact rated.restarted rfl (by simp) known.1 known.2 started

theorem Users.Took.rated {users after : Users} {event : Users.Event} (took : Users.Took users event after)
    (counted : Users.Counted users) (found : RateFound users event) (rated : Rated users.audio users.control) :
    Rated after.audio after.control := by
  have further := took.counted counted
  cases took with
  | aside audio releasing stopping shared asio engine prepared more inside =>
    exact rated.kept shared asio engine prepared
  | @claimRate stream fresh => exact rated.claimRate stream.rate
  | @releaseRate stream known idle free =>
    have positive := counted.streams_positive (Or.inr (Or.inr (Or.inr ⟨stream, known⟩)))
    exact Rated.releaseRate rated positive further rfl
  | lock entered free allowed stopping =>
    obtain ⟨ignorant, steady⟩ := allowed.ignorant
    rw [free] at rated
    exact rated.moved rfl steady (by simp) (held_some ignorant)
  | advance held started => exact rated.advance counted held found

theorem rated_start : Rated Users.start.audio Users.start.control where
  rateless := by decide
  engine running same := absurd same.symm (Option.some_ne_none running)
  idle _ _ := rfl
  session session same := absurd same.symm (Option.some_ne_none session)
  holder := held_none

theorem run_rated {events : List Users.Event} {final : Users} (found : Along Users.step RateFound .start events)
    (ran : run Users.step .start events = some final) : Rated final.audio final.control := by
  have both : Users.Counted final ∧ Rated final.audio final.control := by
    refine run_invariant (fun users => Users.Counted users ∧ Rated users.audio users.control) ?_ found ran
      ⟨Users.counted_start, rated_start⟩
    rintro before event after allowed stepped ⟨counted, rated⟩
    have took := Users.step_took stepped
    exact ⟨took.counted counted, took.rated counted allowed rated⟩
  exact both.2

/-- The card's rate is known while anyone counts on it, and a running engine and
a session play at it. -/
def RateKept (users : Users) : Prop :=
  (0 < users.audio.shared.streams → users.audio.shared.rate.isSome = true) ∧
  (users.control = none → ∀ running, users.audio.hardware.engine = some running → users.audio.shared.rate = some running) ∧
  (∀ session, users.audio.asio = some session → ∀ running, users.audio.hardware.engine = some running →
    running = session.rate)

theorem Rated.rateKept {users : Users} (rated : Rated users.audio users.control) (counted : Users.Counted users) :
    RateKept users := by
  refine ⟨?_, ?_, ?_⟩
  · intro needed
    exact Option.isSome_iff_ne_none.mpr fun unset => Nat.ne_of_gt needed (rated.rateless.mp unset)
  · intro free running same
    have at_ := rated.engine running same
    rwa [free] at at_
  · intro session slot running same
    have at_ := rated.engine running same
    have asked := rated.session session slot
    -- No other session is on its way while there is one.
    have steady : expected users.audio users.control = users.audio.shared.rate := by
      unfold expected
      split
      · rename_i owner rate previous held
        exact absurd (slot.symm.trans (counted.holder _ held)) (Option.some_ne_none session)
      · rfl
    rw [steady, asked] at at_
    exact (Option.some.inj at_).symm

/-- Every run in which a start that fails finds a rate to give back keeps the
card's rate; from a reachable state, one that finds none loses it at once. -/
theorem card_rate_kept_when_found {events : List Users.Event} {final : Users}
    (ran : run Users.step .start events = some final) :
    (Along Users.step RateFound .start events → RateKept final) ∧
      (∀ event after, ¬ RateFound final event → final.step event = some after → ¬ RateKept after) := by
  have counted := Users.run_counted ran
  constructor
  · intro found
    exact (run_rated found ran).rateKept counted
  · intro event after unfound stepped kept
    cases event with
    | advance started =>
      obtain ⟨held, others⟩ := Classical.not_imp.mp unfound
      rw [Users.step, held] at stepped
      have lost : (final.audio.undoAsio none).shared.rate = none := by simp [Audio.undoAsio]
      have claims : 0 < final.claims := by
        simp only [Users.claims, held]
        exact Nat.one_pos
      have positive := counted.streams_positive (Or.inr (Or.inr (Or.inl claims)))
      simp only [Option.map_some, Users.advance, lost, Option.some.injEq] at stepped
      subst stepped
      have left : 0 < (final.audio.undoAsio none).shared.streams := by
        simp only [Audio.undoAsio, Users.decrement_positive positive]
        omega
      have known := kept.1 left
      simp only [Users.finish, lost, Option.isSome_none] at known
      exact absurd known Bool.false_ne_true
    | _ => exact unfound trivial

/-- A stream at 44.1 kHz plays while the start of a session at 48 kHz fails. -/
def failedStartWhilePlaying : List Users.Event :=
  let stream : Endpoint := ⟨0, .output12, .hz44100⟩
  [.attach, .claimRate stream, .lock (.prepare stream), .advance true, .advance true, .lock (.startAsio 7 .hz48000),
    .advance true, .advance true, .advance true, .advance false, .advance true, .advance true]

theorem card_rate_kept_when_found_while_playing :
    ∃ final, run Users.step .start failedStartWhilePlaying = some final ∧ RateKept final ∧
      final.audio.hardware.engine = some .hz44100 := by
  have plays : (run Users.step .start failedStartWhilePlaying).any
      (fun final => final.audio.hardware.engine == some .hz44100) = true := by decide +kernel
  obtain ⟨final, ran, playing⟩ := (Option.any_eq_true _ _).mp plays
  exact ⟨final, ran, (card_rate_kept_when_found ran).1 (by decide +kernel), beq_iff_eq.mp playing⟩

/-- A stream at 44.1 kHz comes while the first session's engine starts, and fails. -/
def failedStart : List Users.Event :=
  [.attach, .lock (.startAsio 7 .hz48000), .advance true, .advance true, .claimRate ⟨0, .output12, .hz44100⟩,
    .advance true, .advance false, .advance true]

/-- The stream plays, another one at 48 kHz comes, and then a session at 48 kHz. -/
def laterSession : List Users.Event :=
  [.lock (.prepare ⟨0, .output12, .hz44100⟩), .advance true, .advance true, .claimRate ⟨1, .output34, .hz48000⟩,
    .lock (.startAsio 8 .hz48000), .advance true, .advance true, .advance true, .advance true, .advance true]

/-- The failed start takes the rate away from the stream, and the session that
comes later plays at the stream's rate. -/
theorem card_rate_lost_to_failed_start :
    ∃ lost wrong, run Users.step .start failedStart = some lost ∧ lost.audio.shared = ⟨1, none⟩ ∧ ¬ RateKept lost ∧
      run Users.step lost laterSession = some wrong ∧ wrong.audio.asio = some ⟨8, .hz48000⟩ ∧
      wrong.audio.hardware.engine = some .hz44100 ∧ ¬ RateKept wrong := by
  have loses : (run Users.step .start failedStart).any (fun lost => lost.audio.shared == ⟨1, none⟩ &&
      (run Users.step lost laterSession).any (fun wrong =>
        wrong.audio.asio == some ⟨8, .hz48000⟩ && wrong.audio.hardware.engine == some .hz44100)) = true := by
    decide +kernel
  obtain ⟨lost, ran, checked⟩ := (Option.any_eq_true _ _).mp loses
  obtain ⟨shared, later⟩ := Bool.and_eq_true_iff.mp checked
  obtain ⟨wrong, went, playing⟩ := (Option.any_eq_true _ _).mp later
  obtain ⟨session, engine⟩ := Bool.and_eq_true_iff.mp playing
  rw [beq_iff_eq] at shared session engine
  refine ⟨lost, wrong, ran, shared, ?_, went, session, engine, ?_⟩
  · intro kept
    have known := kept.1 (by rw [shared]; decide)
    rw [shared] at known
    exact absurd known Bool.false_ne_true
  · intro kept
    have same := kept.2.2 _ session _ engine
    cases same

end Ak1Driver.Driver
