import Ak1Driver.Driver.Handles
import Ak1Driver.Proofs.Accounts

/-! A session ends with its handle if no START fills the slot behind the back of
the cleanup callback: a request that began before the callback may still be
starting the engine when the callback looks at the slot. -/

namespace Ak1Driver.Driver
open Proto Lib.Transition

theorem advance_asio (users : Users) (started : Bool) (entered : Section) :
    (users.advance started entered).audio.asio =
      match entered with
      | .setAsio owner rate => some ⟨owner, rate⟩
      | .stopAsio owner => users.audio.asio.filter (·.owner ≠ owner)
      | _ => users.audio.asio := by
  have begun : ∀ rate, (users.audio.startEngine rate started).2.asio = users.audio.asio :=
    fun rate => (Users.startEngine_kept users.audio rate started).2.1
  have uncounted := (Users.uncountPrepared_kept users.audio).2.1
  cases entered with
  | prepare stream =>
    simp only [Users.advance]
    split <;> rfl
  | prepareStart stream rate =>
    rcases users.audio.startEngine_cases rate started with ⟨outcome, _⟩ | ⟨outcome, _⟩ <;>
      simp only [Users.advance, outcome] <;> rfl
  | release stream => exact uncounted
  | startAsio owner rate =>
    simp only [Users.advance]
    split <;> rfl
  | changeRate owner rate previous =>
    simp only [Users.advance, Users.goOn]
    split <;> rfl
  | asioStart owner rate previous =>
    simp only [Users.advance]
    split
    · rfl
    · rcases users.audio.startEngine_cases rate started with ⟨outcome, _⟩ | ⟨outcome, _⟩ <;> simp only [outcome] <;> rfl
  | undoAsio previous =>
    simp only [Users.advance]
    split
    · split <;> rfl
    · rfl
  | restart restored => exact begun restored
  | stopAsio owner =>
    cases slot : users.audio.asio with
    | none => simp [Users.advance, Audio.takeAsio, slot, Users.finish]
    | some session =>
      by_cases owned : session.owner = owner
      · simp [Users.advance, Audio.takeAsio, slot, owned, Users.goOn, Option.filter]
      · simp [Users.advance, Audio.takeAsio, slot, owned, Users.finish, Option.filter]
  | leaveAsio => exact uncounted
  | resume =>
    simp only [Users.advance]
    split
    · split <;> rfl
    · rfl
  | resumeStart rate => exact begun rate
  | _ => rfl

theorem advance_stopping (users : Users) (started : Bool) (entered : Section) :
    (users.advance started entered).stopping = users.stopping := by
  cases entered with
  | prepare stream | prepareStart stream rate | startAsio owner rate | stopAsio owner =>
    simp only [Users.advance]
    split <;> rfl
  | asioStart owner rate previous | undoAsio previous | resume =>
    simp only [Users.advance]
    split
    · first | rfl | (split <;> rfl)
    · first | rfl | (split <;> rfl)
  | _ => rfl

theorem beginStop_step (users : Users) (owner : Owner) :
    users.step (.beginStop owner) =
      some { users with stopping := if Handles.owns users owner then owner :: users.stopping else users.stopping } := by
  simp only [Users.step]
  split
  · rename_i session slot
    have owned : Handles.owns users owner = decide (session.owner = owner) := by simp [Handles.owns, slot]
    rw [owned]
    by_cases same : session.owner = owner
    · rw [if_pos same, decide_eq_true same, if_pos rfl]
    · rw [if_neg same, decide_eq_false same, if_neg Bool.false_ne_true]
  · rename_i slot
    have free : Handles.owns users owner = false := by simp [Handles.owns, slot]
    rw [free, if_neg Bool.false_ne_true]

theorem lockStop_step {users after : Users} {owner : Owner} (locked : users.step (.lock (.stopAsio owner)) = some after) :
    users.control = none ∧
      after = { users with control := some (.stopAsio owner), stopping := users.stopping.erase owner } := by
  obtain ⟨free, entered⟩ := Option.ite_none_right_eq_some.mp locked
  obtain ⟨_, same⟩ := Option.ite_none_right_eq_some.mp entered
  cases same
  exact ⟨free, rfl⟩

theorem aside_step {users after : Users} {event : Users.Event} (aside : Handles.isAside event = true)
    (stepped : users.step event = some after) :
    after.audio.asio = users.audio.asio ∧ after.stopping = users.stopping ∧
      ∀ entered, users.control = some entered → after.control = some entered := by
  cases event with
  | pause stream =>
    obtain ⟨_, same⟩ := Option.ite_none_right_eq_some.mp stepped
    cases same
    exact ⟨(Users.pause_kept users.audio stream).2.1, rfl, fun _ => id⟩
  | beginRelease stream =>
    obtain ⟨_, same⟩ := Option.ite_none_right_eq_some.mp stepped
    cases same
    exact ⟨(Users.pause_kept users.audio stream).2.1, rfl, fun _ => id⟩
  | beginStop owner => cases aside
  | advance started => cases aside
  | lock entered =>
    obtain ⟨free, locked⟩ := Option.ite_none_right_eq_some.mp stepped
    have kept : after.audio.asio = users.audio.asio ∧ after.stopping = users.stopping := by
      cases entered with
      | prepare stream | release stream =>
        obtain ⟨_, same⟩ := Option.ite_none_right_eq_some.mp locked
        cases same
        exact ⟨rfl, rfl⟩
      | suspend | resume =>
        cases locked
        exact ⟨rfl, rfl⟩
      | startAsio owner rate | stopAsio owner => cases aside
      | _ => cases locked
    exact ⟨kept.1, kept.2, fun _ held => absurd (free.symm.trans held) (Option.some_ne_none _ ∘ Eq.symm)⟩
  | _ =>
    obtain ⟨_, same⟩ := Option.ite_none_right_eq_some.mp stepped
    cases same
    exact ⟨rfl, rfl, fun _ => id⟩

namespace Handles

/-- A call of `stop_asio` by a request that has yet to look at the slot under the lock. -/
def StopPending (handles : Handles) (owner : Owner) : Prop :=
  owner ∈ handles.stops ∨ owner ∈ handles.users.stopping ∨ handles.users.control = some (.stopAsio owner)

/-- Whatever the cleanup callback of a handle leaves in the slot, a STOP request takes. -/
def Guarded (handles : Handles) : Prop :=
  ∀ owner, handles.cleanup owner = .looked → owns handles.users owner = true → handles.StopPending owner

/-- Whose session the holder of the control lock is about to put into the slot. -/
def filling (handles : Handles) : Option Owner :=
  match handles.users.control with
  | some (.setAsio owner _) => some owner
  | _ => none

/-- No START fills the slot after its handle's cleanup has looked at it for the
last time, unless a STOP of the handle is still to look. -/
def FilledInTime (handles : Handles) : Event → Prop
  | .advance _ => ∀ owner ∈ handles.filling, handles.cleanup owner = .looked →
      owner ∈ handles.stops ∨ owner ∈ handles.users.stopping
  | _ => True

instance (handles : Handles) (event : Event) : Decidable (FilledInTime handles event) :=
  match event with
  | .advance _ => inferInstanceAs (Decidable (∀ owner ∈ handles.filling, _ → _))
  | .receiveStart .. | .rejectStart .. | .lockStart .. | .receiveStop _ | .lookStop _ | .lockStop _ | .callCleanup _
  | .lookCleanup _ | .lockCleanup _ | .aside _ => .isTrue trivial

theorem guarded_start : Guarded start := by
  intro owner looked
  cases looked

theorem Guarded.noneOutlives {handles : Handles} (guarded : Guarded handles) : handles.NoneOutlives := by
  intro owner looked quiet
  apply Bool.eq_false_of_not_eq_true
  intro owned
  obtain ⟨_, stops, stopping, control⟩ := quiet
  rcases guarded owner looked owned with waits | waits | held
  · exact stops waits
  · exact stopping waits
  · exact control _ held rfl

theorem Guarded.carried {handles after : Handles} (guarded : Guarded handles)
    (looked : ∀ owner, after.cleanup owner = .looked → owns after.users owner = true →
      handles.cleanup owner = .looked ∧ owns handles.users owner = true)
    (pending : ∀ owner, owns handles.users owner = true → handles.StopPending owner → after.StopPending owner) :
    Guarded after := by
  intro owner past owned
  obtain ⟨before, held⟩ := looked owner past owned
  exact pending owner held (guarded owner before held)

theorem setCleanup_looked {handles : Handles} {owner other : Owner} {place : Cleanup} (place_ : place ≠ .looked)
    (looked : (handles.setCleanup owner place).cleanup other = .looked) : handles.cleanup other = .looked := by
  by_cases same : other = owner
  · subst same
    simp only [setCleanup, Function.update_self] at looked
    exact absurd looked place_
  · simpa only [setCleanup, Function.update_of_ne same] using looked

theorem Guarded.lookStop {handles : Handles} (guarded : Guarded handles) (owner : Owner) :
    Guarded { handles with
      users := { handles.users with
        stopping := if owns handles.users owner then owner :: handles.users.stopping else handles.users.stopping }
      stops := handles.stops.erase owner } := by
  apply guarded.carried
  · exact fun other looked owned => ⟨looked, owned⟩
  · intro other owned pending
    by_cases same : other = owner
    · subst same
      rw [if_pos owned]
      exact .inr (.inl List.mem_cons_self)
    · rcases pending with waits | waits | held
      · exact .inl ((List.mem_erase_of_ne same).mpr waits)
      · refine .inr (.inl ?_)
        split
        · exact List.mem_cons_of_mem _ waits
        · exact waits
      · exact .inr (.inr held)

/-- The lock keeps whoever waits for it with the same owner waiting. -/
theorem Guarded.lockStop {handles : Handles} (guarded : Guarded handles) {owner : Owner}
    (free : handles.users.control = none) {cleanup : Owner → Cleanup}
    (looked : ∀ other, cleanup other = .looked → handles.cleanup other = .looked) :
    Guarded { handles with
      users := { handles.users with
        control := some (.stopAsio owner)
        stopping := handles.users.stopping.erase owner }
      cleanup := cleanup } := by
  apply guarded.carried
  · exact fun other past owned => ⟨looked other past, owned⟩
  · intro other owned pending
    by_cases same : other = owner
    · subst same
      exact .inr (.inr rfl)
    · rcases pending with waits | waits | held
      · exact .inl waits
      · exact .inr (.inl ((List.mem_erase_of_ne same).mpr waits))
      · exact absurd (free.symm.trans held) (Option.some_ne_none _ ∘ Eq.symm)

theorem owns_some {users : Users} {owner : Owner} :
    owns users owner = true ↔ ∃ session, users.audio.asio = some session ∧ session.owner = owner := by
  cases slot : users.audio.asio with
  | none => simp [owns, slot]
  | some session => simp [owns, slot]

theorem Guarded.advance {handles : Handles} (guarded : Guarded handles) {entered : Section}
    (held : handles.users.control = some entered) {started : Bool} (inTime : FilledInTime handles (.advance started))
    {cleanup : Owner → Cleanup} (looked : ∀ other, cleanup other = .looked →
      handles.cleanup other = .looked ∨ entered = .stopAsio other) :
    Guarded { handles with users := handles.users.advance started entered, cleanup := cleanup } := by
  intro owner past owned
  have stopping : (handles.users.advance started entered).stopping = handles.users.stopping :=
    advance_stopping handles.users started entered
  obtain ⟨session, slot, owner_⟩ := owns_some.mp owned
  rw [advance_asio] at slot
  have waits : owner ∈ handles.stops ∨ owner ∈ handles.users.stopping := by
    -- A slot that nobody filled or emptied belonged to the same handle before.
    have kept : handles.users.audio.asio = some session → entered ≠ .stopAsio owner →
        owner ∈ handles.stops ∨ owner ∈ handles.users.stopping := by
      intro same other
      have before := Or.resolve_right (looked owner past) other
      rcases guarded owner before (owns_some.mpr ⟨session, same, owner_⟩) with waits | waits | control
      · exact .inl waits
      · exact .inr waits
      · exact absurd (Option.some.inj (held.symm.trans control)) other
    cases entered with
    | setAsio other rate =>
      cases slot
      have same : other = owner := owner_
      subst same
      exact inTime other (by simp [filling, held]) (Or.resolve_right (looked other past) Section.noConfusion)
    | stopAsio other =>
      obtain ⟨same, differs⟩ := Option.filter_eq_some_iff.mp slot
      refine kept same fun mine => ?_
      cases mine
      simp [owner_] at differs
    | _ => exact kept slot Section.noConfusion
  rcases waits with waits | waits
  · exact .inl waits
  · exact .inr (.inl (stopping ▸ waits))

theorem Guarded.step {handles after : Handles} {event : Event} (guarded : Guarded handles)
    (inTime : FilledInTime handles event) (stepped : handles.step event = some after) : Guarded after := by
  cases event with
  | receiveStart owner rate =>
    obtain ⟨_, same⟩ := Option.ite_none_right_eq_some.mp stepped
    cases same
    exact guarded.carried (fun _ looked owned => ⟨looked, owned⟩) (fun _ _ => id)
  | rejectStart owner rate =>
    obtain ⟨_, same⟩ := Option.ite_none_right_eq_some.mp stepped
    cases same
    exact guarded.carried (fun _ looked owned => ⟨looked, owned⟩) (fun _ _ => id)
  | lockStart owner rate =>
    obtain ⟨_, mapped⟩ := Option.ite_none_right_eq_some.mp stepped
    obtain ⟨users, locked, rfl⟩ := Option.map_eq_some_iff.mp mapped
    obtain ⟨free, entered⟩ := Option.ite_none_right_eq_some.mp locked
    cases entered
    apply guarded.carried
    · exact fun _ looked owned => ⟨looked, owned⟩
    · rintro other _ (waits | waits | held)
      · exact .inl waits
      · exact .inr (.inl waits)
      · exact absurd (free.symm.trans held) (Option.some_ne_none _ ∘ Eq.symm)
  | receiveStop owner =>
    obtain ⟨_, same⟩ := Option.ite_none_right_eq_some.mp stepped
    cases same
    apply guarded.carried
    · exact fun _ looked owned => ⟨looked, owned⟩
    · rintro other _ (waits | rest)
      · exact .inl (List.mem_cons_of_mem _ waits)
      · exact .inr rest
  | lookStop owner =>
    obtain ⟨_, mapped⟩ := Option.ite_none_right_eq_some.mp stepped
    obtain ⟨users, looked, rfl⟩ := Option.map_eq_some_iff.mp mapped
    rw [beginStop_step] at looked
    cases looked
    exact guarded.lookStop owner
  | lockStop owner =>
    obtain ⟨_, mapped⟩ := Option.ite_none_right_eq_some.mp stepped
    obtain ⟨users, locked, rfl⟩ := Option.map_eq_some_iff.mp mapped
    obtain ⟨free, rfl⟩ := lockStop_step locked
    exact guarded.lockStop free fun _ => id
  | callCleanup owner =>
    obtain ⟨_, same⟩ := Option.ite_none_right_eq_some.mp stepped
    cases same
    exact guarded.carried (fun _ looked owned => ⟨setCleanup_looked Cleanup.noConfusion looked, owned⟩) (fun _ _ => id)
  | lookCleanup owner =>
    obtain ⟨_, mapped⟩ := Option.ite_none_right_eq_some.mp stepped
    obtain ⟨users, looked, rfl⟩ := Option.map_eq_some_iff.mp mapped
    rw [beginStop_step] at looked
    cases looked
    apply guarded.carried
    · intro other past owned
      refine ⟨?_, owned⟩
      by_cases same : other = owner
      · subst same
        have mine : owns handles.users other = true := owned
        simp [setCleanup, mine] at past
      · simpa only [setCleanup, Function.update_of_ne same] using past
    · rintro other _ (waits | waits | held)
      · exact .inl waits
      · refine .inr (.inl ?_)
        simp only
        split
        · exact List.mem_cons_of_mem _ waits
        · exact waits
      · exact .inr (.inr held)
  | lockCleanup owner =>
    obtain ⟨_, mapped⟩ := Option.ite_none_right_eq_some.mp stepped
    obtain ⟨users, locked, rfl⟩ := Option.map_eq_some_iff.mp mapped
    obtain ⟨free, rfl⟩ := lockStop_step locked
    exact guarded.lockStop free fun _ => setCleanup_looked Cleanup.noConfusion
  | advance started =>
    obtain ⟨users, advanced, rfl⟩ := Option.map_eq_some_iff.mp stepped
    obtain ⟨entered, held, rfl⟩ := Option.map_eq_some_iff.mp advanced
    have plain : Guarded { handles with users := handles.users.advance started entered } :=
      guarded.advance held inTime fun _ looked => .inl looked
    rw [held]
    cases entered with
    | stopAsio owner =>
      simp only
      split
      · apply guarded.advance held inTime
        intro other looked
        by_cases same : other = owner
        · exact .inr (congrArg Section.stopAsio same.symm)
        · exact .inl (by simpa only [setCleanup, Function.update_of_ne same] using looked)
      · exact plain
    | _ => exact plain
  | aside event =>
    obtain ⟨aside, mapped⟩ := Option.ite_none_right_eq_some.mp stepped
    obtain ⟨users, moved, rfl⟩ := Option.map_eq_some_iff.mp mapped
    obtain ⟨asio, stopping, control⟩ := aside_step aside moved
    apply guarded.carried
    · intro other looked owned
      exact ⟨looked, by simpa only [owns, asio] using owned⟩
    · rintro other _ (waits | waits | held)
      · exact .inl waits
      · exact .inr (.inl (stopping ▸ waits))
      · exact .inr (.inr (control _ held))

/-- Where no START fills the slot behind the cleanup's back, no session outlives its handle. -/
theorem no_session_outlives {events : List Event} {final : Handles} (inTime : Along step FilledInTime start events)
    (ran : run step start events = some final) : final.NoneOutlives :=
  Guarded.noneOutlives (run_invariant Guarded (fun _ _ _ allowed stepped guarded => guarded.step allowed stepped) inTime
    ran guarded_start)

/-- A session that is started and whose handle closes without stopping it. -/
def closedUnstopped : List Event :=
  [.aside .attach, .receiveStart 7 .hz48000, .lockStart 7 .hz48000, .advance true, .advance true, .advance true,
    .advance true, .advance true, .callCleanup 7, .lookCleanup 7, .lockCleanup 7, .advance true, .advance true, .advance true]

theorem no_session_outlives_closed :
    ∃ final, run step start closedUnstopped = some final ∧ final.cleanup 7 = .looked ∧ owns final.users 7 = false := by
  have closes : (run step start closedUnstopped).any (fun final => final.cleanup 7 == .looked &&
      (final.starts.isEmpty && (final.stops.isEmpty && (final.users.stopping.isEmpty && final.users.control.isNone)))) =
        true := by decide +kernel
  obtain ⟨final, ran, checked⟩ := (Option.any_eq_true _ _).mp closes
  simp only [Bool.and_eq_true, beq_iff_eq, List.isEmpty_iff, Option.isNone_iff_eq_none] at checked
  obtain ⟨looked, starts, stops, stopping, free⟩ := checked
  have quiet : final.Quiet 7 := by simp [Quiet, starts, stops, stopping, free]
  exact ⟨final, ran, looked, no_session_outlives (by decide +kernel) ran 7 looked quiet⟩

/-- The handle closes while the engine of its session starts. -/
def closedWhileStarting : List Event :=
  [.aside .attach, .receiveStart 7 .hz48000, .lockStart 7 .hz48000, .advance true, .advance true, .advance true,
    .callCleanup 7, .lookCleanup 7, .advance true, .advance true]

theorem session_outlives_handle :
    ¬ ∀ (events : List Event) (final : Handles), run step start events = some final → final.NoneOutlives := by
  intro claim
  have leaks : (run step start closedWhileStarting).any (fun final => final.cleanup 7 == .looked &&
      (owns final.users 7 && (final.starts.isEmpty && (final.stops.isEmpty && (final.users.stopping.isEmpty &&
        final.users.control.isNone))))) = true := by decide +kernel
  obtain ⟨final, ran, checked⟩ := (Option.any_eq_true _ _).mp leaks
  simp only [Bool.and_eq_true, beq_iff_eq, List.isEmpty_iff, Option.isNone_iff_eq_none] at checked
  obtain ⟨looked, owned, starts, stops, stopping, free⟩ := checked
  have quiet : final.Quiet 7 := by simp [Quiet, starts, stops, stopping, free]
  exact absurd (owned.symm.trans (claim _ final ran 7 looked quiet)) Bool.noConfusion

end Handles
end Ak1Driver.Driver
