/-! Runs of a system whose step is a partial function of its state and an
event. A side condition on the steps taken is kept apart from the step itself,
so that one system serves every assumption about its environment. -/

namespace Ak1Driver.Lib.Transition

/-- The state after `events`, or `none` if one of them is not enabled. -/
def run (step : σ → ε → Option σ) : σ → List ε → Option σ
  | state, [] => some state
  | state, event :: events => (step state event).bind (run step · events)

/-- Every step of the run meets `allowed` in the state it is taken from. -/
def Along (step : σ → ε → Option σ) (allowed : σ → ε → Prop) : σ → List ε → Prop
  | _, [] => True
  | state, event :: events =>
    allowed state event ∧ ∀ after, step state event = some after → Along step allowed after events

def decideAlong (step : σ → ε → Option σ) (allowed : σ → ε → Prop) [∀ state event, Decidable (allowed state event)] :
    (state : σ) → (events : List ε) → Decidable (Along step allowed state events)
  | _, [] => .isTrue trivial
  | state, event :: events =>
    match stepped : step state event with
    | none => decidable_of_iff (allowed state event) (by simp [Along, stepped])
    | some after =>
      have := decideAlong step allowed after events
      decidable_of_iff (allowed state event ∧ Along step allowed after events) (by simp [Along, stepped])

instance (step : σ → ε → Option σ) (allowed : σ → ε → Prop) [∀ state event, Decidable (allowed state event)]
    (state : σ) (events : List ε) : Decidable (Along step allowed state events) :=
  decideAlong step allowed state events

def Reachable (step : σ → ε → Option σ) (initial state : σ) : Prop :=
  ∃ events, run step initial events = some state

/-- Whether a system that can be set up runs through `events` to a state that
passes `check`. -/
def passes (step : σ → ε → Option σ) (created : Except κ β) (start : β → σ) (events : List ε)
    (check : β → σ → Bool) : Bool :=
  match created with
  | .ok made => (run step (start made) events).any (check made)
  | .error _ => false

variable {step : σ → ε → Option σ} {allowed : σ → ε → Prop}

theorem exists_of_passes {created : Except κ β} {start : β → σ} {events : List ε} {check : β → σ → Bool}
    (passed : passes step created start events check = true) :
    ∃ made final, created = .ok made ∧ run step (start made) events = some final ∧ check made final = true := by
  cases created with
  | error reason => cases passed
  | ok made =>
    obtain ⟨final, ran, checked⟩ := (Option.any_eq_true _ _).mp passed
    exact ⟨made, final, rfl, ran, checked⟩

@[simp] theorem run_nil (state : σ) : run step state [] = some state := rfl

theorem run_cons {state final : σ} {event : ε} {events : List ε} :
    run step state (event :: events) = some final ↔
      ∃ after, step state event = some after ∧ run step after events = some final := by
  simp only [run, Option.bind_eq_some_iff]

theorem run_append {state final : σ} {first second : List ε} :
    run step state (first ++ second) = some final ↔
      ∃ middle, run step state first = some middle ∧ run step middle second = some final := by
  induction first generalizing state with
  | nil => simp
  | cons event events ih =>
    simp only [List.cons_append, run_cons, ih]
    constructor
    · rintro ⟨after, stepped, middle, ran, rest⟩
      exact ⟨middle, ⟨after, stepped, ran⟩, rest⟩
    · rintro ⟨middle, ⟨after, stepped, ran⟩, rest⟩
      exact ⟨after, stepped, middle, ran, rest⟩

theorem along_append {state middle : σ} {first second : List ε}
    (ran : run step state first = some middle) :
    Along step allowed state (first ++ second) ↔
      Along step allowed state first ∧ Along step allowed middle second := by
  induction first generalizing state with
  | nil =>
    cases ran
    simp [Along]
  | cons event events ih =>
    obtain ⟨after, stepped, rest⟩ := run_cons.mp ran
    have unique : ∀ other, step state event = some other → other = after := by
      intro other same
      exact Option.some.inj (same.symm.trans stepped)
    simp only [List.cons_append, Along]
    constructor
    · rintro ⟨enabled, later⟩
      have split := (ih rest).mp (later after stepped)
      exact ⟨⟨enabled, fun other same => (unique other same) ▸ split.1⟩, split.2⟩
    · rintro ⟨⟨enabled, later⟩, last⟩
      exact ⟨enabled, fun other same => (unique other same) ▸ (ih rest).mpr ⟨later after stepped, last⟩⟩

/-- What every allowed step keeps, every allowed run keeps. -/
theorem run_invariant (holds : σ → Prop)
    (kept : ∀ state event after, allowed state event → step state event = some after → holds state → holds after)
    {state final : σ} {events : List ε} (along : Along step allowed state events)
    (ran : run step state events = some final) (start : holds state) : holds final := by
  induction events generalizing state with
  | nil =>
    cases ran
    exact start
  | cons event events ih =>
    obtain ⟨after, stepped, rest⟩ := run_cons.mp ran
    exact ih (along.2 after stepped) rest (kept state event after along.1 stepped start)

/-- Two conditions on a run's steps agree if they agree wherever an invariant
holds that steps of either kind keep. -/
theorem along_iff {other : σ → ε → Prop} (holds : σ → Prop)
    (same : ∀ state event, holds state → (allowed state event ↔ other state event))
    (kept : ∀ state event after, allowed state event → step state event = some after → holds state → holds after)
    {state : σ} (events : List ε) (start : holds state) :
    Along step allowed state events ↔ Along step other state events := by
  induction events generalizing state with
  | nil => exact Iff.rfl
  | cons event events ih =>
    constructor
    · rintro ⟨first, rest⟩
      refine ⟨(same state event start).mp first, fun after stepped => ?_⟩
      exact (ih (kept state event after first stepped start)).mp (rest after stepped)
    · rintro ⟨first, rest⟩
      have permitted := (same state event start).mpr first
      refine ⟨permitted, fun after stepped => ?_⟩
      exact (ih (kept state event after permitted stepped start)).mpr (rest after stepped)

theorem along_trivial (state : σ) (events : List ε) : Along step (fun _ _ => True) state events := by
  induction events generalizing state with
  | nil => trivial
  | cons event events ih => exact ⟨trivial, fun after _ => ih after⟩

theorem Reachable.invariant (holds : σ → Prop) {initial state : σ} (reached : Reachable step initial state)
    (kept : ∀ state event after, step state event = some after → holds state → holds after)
    (start : holds initial) : holds state := by
  obtain ⟨events, ran⟩ := reached
  exact run_invariant holds (fun before event after _ => kept before event after) (along_trivial initial events) ran start

end Ak1Driver.Lib.Transition
