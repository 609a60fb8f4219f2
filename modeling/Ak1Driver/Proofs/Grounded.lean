import Ak1Driver.Proofs.Accounts

/-! What the audio keeps through every run, whatever fails: without streams
there is no rate, without users no engine, and no engine without a device. -/

namespace Ak1Driver.Driver
open Proto Lib.Transition

/-- What the operation that holds the control lock knows of the engine's users. -/
def Section.Needed (audio : Audio) : Section → Prop
  | .restart _ | .resumeStart _ => 0 < audio.hardware.prepared
  | _ => True

/-- What every run keeps, also one that loses the card's rate. -/
structure Grounded (audio : Audio) (control : Option Section) : Prop where
  rateless : audio.shared.streams = 0 → audio.shared.rate = none
  idle : audio.hardware.prepared = 0 → (∀ owner rate, control ≠ some (.setAsio owner rate)) → audio.hardware.engine = none
  attached : ∀ running, audio.hardware.engine = some running → audio.hardware.attached = true
  holder : ∀ entered, control = some entered → entered.Needed audio

theorem grounded_start : Grounded Users.start.audio Users.start.control where
  rateless _ := rfl
  idle _ _ := rfl
  attached running same := absurd same.symm (Option.some_ne_none running)
  holder := held_none

variable {audio : Audio} {control next : Option Section}

theorem Grounded.shared (grounded : Grounded audio control) {shared : Shared}
    (rateless : shared.streams = 0 → shared.rate = none) : Grounded { audio with shared } control where
  rateless := rateless
  idle := grounded.idle
  attached := grounded.attached
  holder entered held := by
    have before := grounded.holder entered held
    cases entered <;> exact before

/-- An operation that returns, or goes on to another section. -/
theorem Grounded.moved (grounded : Grounded audio control)
    (aside : audio.hardware.prepared = 0 → ∀ owner rate, control ≠ some (.setAsio owner rate))
    (holder : ∀ entered, next = some entered → entered.Needed audio) : Grounded audio next where
  rateless := grounded.rateless
  idle zero _ := grounded.idle zero (aside zero)
  attached := grounded.attached
  holder := holder

theorem Grounded.stopped (grounded : Grounded audio control)
    (holder : ∀ entered, next = some entered → entered.Needed audio.stopEngine) : Grounded audio.stopEngine next where
  rateless := grounded.rateless
  idle _ _ := rfl
  attached running same := absurd same.symm (Option.some_ne_none running)
  holder := holder

theorem Grounded.uncounted (grounded : Grounded audio control)
    (holder : ∀ entered, next = some entered → entered.Needed audio.uncountPrepared) :
    Grounded audio.uncountPrepared next := by
  obtain ⟨shared, _, prepared⟩ := Users.uncountPrepared_kept audio
  constructor
  · rw [shared]
    exact grounded.rateless
  · intro zero _
    rw [Users.uncountPrepared_engine, if_pos (prepared ▸ zero)]
  · intro running same
    have attached : audio.uncountPrepared.hardware.attached = audio.hardware.attached := by
      simp only [Audio.uncountPrepared]
      split <;> rfl
    rw [Users.uncountPrepared_engine] at same
    split at same
    · cases same
    · exact attached.trans (grounded.attached running same)
  · exact holder

/-- An engine starts for those who have it prepared or are about to. -/
theorem Grounded.started (grounded : Grounded audio control) (rate : SampleRate) (started : Bool)
    (aside : audio.hardware.prepared = 0 → ∀ owner rate, control ≠ some (.setAsio owner rate))
    (needed : (audio.startEngine rate started).1 = true → audio.hardware.prepared = 0 →
      ∃ owner rate, next = some (.setAsio owner rate))
    (holder : ∀ entered, next = some entered → entered.Needed (audio.startEngine rate started).2) :
    Grounded (audio.startEngine rate started).2 next := by
  rcases audio.startEngine_cases rate started with ⟨outcome, attached, _⟩ | ⟨outcome, _⟩
  · rw [outcome] at needed holder ⊢
    refine ⟨grounded.rateless, ?_, fun _ _ => attached, holder⟩
    intro zero other
    obtain ⟨owner, rate, session⟩ := needed rfl zero
    exact absurd session (other owner rate)
  · rw [outcome] at holder ⊢
    exact grounded.moved aside holder

theorem Grounded.counted (grounded : Grounded audio control) (asio : Option Session) :
    Grounded { audio.countPrepared with asio } none where
  rateless := grounded.rateless
  idle zero := absurd zero (Nat.succ_ne_zero _)
  attached := grounded.attached
  holder := held_none

theorem Grounded.advance {users : Users} (grounded : Grounded users.audio users.control) {entered : Section}
    (held : users.control = some entered) (started : Bool) :
    Grounded (users.advance started entered).audio (users.advance started entered).control := by
  have known := grounded.holder entered held
  rw [held] at grounded
  cases entered with
  | prepare stream =>
    cases stopped : users.audio.hardware.engine with
    | none =>
      simp only [Users.advance, stopped, Users.goOn]
      exact grounded.moved (by simp) (held_some trivial)
    | some running =>
      simp only [Users.advance, stopped, Users.finish]
      exact grounded.counted users.audio.asio
  | prepareStart stream rate =>
    rcases users.audio.startEngine_cases rate started with ⟨outcome, attached, _⟩ | ⟨outcome, _⟩
    · simp only [Users.advance, outcome, Users.finish]
      exact ⟨grounded.rateless, fun zero => absurd zero (Nat.succ_ne_zero _), fun _ _ => attached, held_none⟩
    · simp only [Users.advance, outcome, Users.finish]
      exact grounded.moved (by simp) held_none
  | release stream => exact grounded.uncounted held_none
  | startAsio owner rate =>
    simp only [Users.advance]
    split
    · exact grounded.moved (by simp) held_none
    · exact grounded.moved (by simp) (held_some trivial)
  | claimAsio owner rate =>
    refine ⟨?_, fun zero _ => grounded.idle zero (by simp), grounded.attached, held_some trivial⟩
    exact fun zero => absurd zero (Nat.succ_ne_zero _)
  | changeRate owner rate previous =>
    simp only [Users.advance, Users.goOn]
    split
    · exact grounded.stopped (held_some trivial)
    · exact grounded.moved (by simp) (held_some trivial)
  | asioStart owner rate previous =>
    cases stopped : users.audio.hardware.engine with
    | some running =>
      simp only [Users.advance, stopped, Users.goOn]
      exact grounded.moved (by simp) (held_some trivial)
    | none =>
      have begun : ∀ next : Section, next.Needed (users.audio.startEngine rate started).2 →
          ((users.audio.startEngine rate started).1 = true → next = .setAsio owner rate) →
          Grounded (users.audio.startEngine rate started).2 (some next) := by
        intro next knows only
        exact grounded.started rate started (by simp) (fun success _ => ⟨owner, rate, congrArg some (only success)⟩)
          (held_some knows)
      rcases users.audio.startEngine_cases rate started with ⟨outcome, _⟩ | ⟨outcome, _⟩
      · rw [outcome] at begun
        simp only [Users.advance, stopped, outcome, Users.goOn]
        exact begun _ trivial fun _ => rfl
      · rw [outcome] at begun
        simp only [Users.advance, stopped, outcome, Users.goOn]
        exact begun _ trivial fun failed => absurd failed Bool.false_ne_true
  | undoAsio previous =>
    have undone : Grounded (users.audio.undoAsio previous) (some (.undoAsio previous)) :=
      grounded.shared fun zero => if_pos zero
    cases rate : (users.audio.undoAsio previous).shared.rate with
    | none =>
      simp only [Users.advance, rate]
      exact undone.moved (by simp) held_none
    | some restored =>
      simp only [Users.advance, rate]
      split
      · rename_i needed
        exact undone.moved (by simp) (held_some needed)
      · exact undone.moved (by simp) held_none
  | restart restored =>
    exact grounded.started restored started (by simp) (fun _ zero => absurd zero (Nat.ne_of_gt known)) held_none
  | setAsio owner rate => exact grounded.counted (some ⟨owner, rate⟩)
  | stopAsio owner =>
    cases slot : users.audio.asio with
    | none =>
      simp only [Users.advance, Audio.takeAsio, slot, Users.finish]
      exact grounded.moved (by simp) held_none
    | some session =>
      by_cases owned : session.owner = owner
      · simp only [Users.advance, Audio.takeAsio, slot, if_pos owned, Users.goOn]
        exact ⟨grounded.rateless, fun zero _ => grounded.idle zero (by simp), grounded.attached, held_some trivial⟩
      · simp only [Users.advance, Audio.takeAsio, slot, if_neg owned, Users.finish]
        exact grounded.moved (by simp) held_none
  | leaveAsio => exact grounded.uncounted (held_some trivial)
  | releaseAsio =>
    have returned : Grounded users.audio none := grounded.moved (by simp) held_none
    exact returned.shared fun zero => if_pos zero
  | suspend => exact grounded.stopped held_none
  | resume =>
    have returned : Grounded users.audio none := grounded.moved (by simp) held_none
    cases rate : users.audio.shared.rate with
    | none =>
      simp only [Users.advance, rate]
      exact returned
    | some set =>
      simp only [Users.advance, rate]
      split
      · rename_i needed
        exact grounded.moved (by simp) (held_some needed.1)
      · exact returned
  | resumeStart rate =>
    exact grounded.started rate started (by simp) (fun _ zero => absurd zero (Nat.ne_of_gt known)) held_none

theorem Grounded.kept {after : Audio} (grounded : Grounded audio control) (shared : after.shared = audio.shared)
    (hardware : after.hardware = audio.hardware) : Grounded after control where
  rateless := by
    rw [shared]
    exact grounded.rateless
  idle := by
    rw [hardware]
    exact grounded.idle
  attached := by
    rw [hardware]
    exact grounded.attached
  holder entered held := by
    have before := grounded.holder entered held
    have prepared := congrArg Hardware.prepared hardware
    cases entered <;> first | exact trivial | exact Nat.lt_of_lt_of_eq before prepared.symm

theorem Section.Allowed.needed {users : Users} {entered : Section} (allowed : entered.Allowed users) :
    entered.Needed users.audio := by
  cases entered <;> first | exact trivial | exact allowed.elim

theorem step_grounded {users after : Users} {event : Users.Event} (stepped : users.step event = some after)
    (grounded : Grounded users.audio users.control) : Grounded after.audio after.control := by
  cases event with
  | attach =>
    obtain ⟨_, same⟩ := Option.ite_none_right_eq_some.mp stepped
    cases same
    refine ⟨grounded.rateless, grounded.idle, fun _ _ => rfl, fun entered held => ?_⟩
    have before := grounded.holder entered held
    cases entered <;> exact before
  | claimRate stream =>
    obtain ⟨_, same⟩ := Option.ite_none_right_eq_some.mp stepped
    cases same
    exact grounded.shared fun zero => absurd zero (Nat.succ_ne_zero _)
  | releaseRate stream =>
    obtain ⟨_, same⟩ := Option.ite_none_right_eq_some.mp stepped
    cases same
    exact grounded.shared fun zero => if_pos zero
  | run stream =>
    obtain ⟨_, same⟩ := Option.ite_none_right_eq_some.mp stepped
    cases same
    exact grounded.kept rfl rfl
  | pause stream =>
    obtain ⟨_, same⟩ := Option.ite_none_right_eq_some.mp stepped
    cases same
    obtain ⟨shared, _, hardware⟩ := Users.pause_kept users.audio stream
    exact grounded.kept shared hardware
  | beginRelease stream =>
    obtain ⟨_, same⟩ := Option.ite_none_right_eq_some.mp stepped
    cases same
    obtain ⟨shared, _, hardware⟩ := Users.pause_kept users.audio stream
    exact grounded.kept shared hardware
  | beginStop owner =>
    have same : after.audio = users.audio ∧ after.control = users.control := by
      simp only [Users.step] at stepped
      split at stepped
      · split at stepped <;> cases stepped <;> exact ⟨rfl, rfl⟩
      · cases stepped
        exact ⟨rfl, rfl⟩
    rw [same.1, same.2]
    exact grounded
  | lock entered =>
    obtain ⟨free, locked⟩ := Option.ite_none_right_eq_some.mp stepped
    obtain ⟨allowed, stopping, rfl⟩ := Users.enter_allowed locked
    rw [free] at grounded
    exact grounded.moved (by simp) (held_some allowed.needed)
  | advance started =>
    obtain ⟨entered, held, rfl⟩ := Option.map_eq_some_iff.mp stepped
    exact grounded.advance held started

theorem reachable_grounded {users : Users} (reached : Reachable Users.step .start users) :
    Grounded users.audio users.control :=
  reached.invariant (fun users => Grounded users.audio users.control) (fun _ _ _ => step_grounded) grounded_start

end Ak1Driver.Driver
