import Ak1Driver.Proofs.FailedStart

/-! Each slot of running streams refers to the stream that was run last in it, as
long as that one has been neither paused nor released, and to none otherwise. -/

namespace Ak1Driver.Driver
open Proto Lib.Transition

/-- The stream that the engine moves frames of in a slot. -/
def Frames.stream (audio : Audio) (slot : Slot) : Option Endpoint := audio.running slot

/-- The event takes nothing from a stream that runs in a slot. -/
def Spares (slot : Slot) (stream : Endpoint) (event : Users.Event) : Prop :=
  event ≠ .pause stream ∧ event ≠ .beginRelease stream ∧ ∀ other, event = .run other → other.slot ≠ slot

/-- The stream was run last in its slot and neither paused nor released since. -/
def Latest (slot : Slot) (events : List Users.Event) (stream : Endpoint) : Prop :=
  stream.slot = slot ∧ ∃ earlier later, events = earlier ++ .run stream :: later ∧ ∀ event ∈ later, Spares slot stream event

variable {slot : Slot} {stream : Endpoint} {running : Slot → Option Endpoint} {event : Users.Event} {events : List Users.Event}

theorem latest_concat : Latest slot (events ++ [event]) stream ↔
    (event = .run stream ∧ stream.slot = slot) ∨ (Latest slot events stream ∧ Spares slot stream event) := by
  constructor
  · rintro ⟨same, earlier, later, split, spared⟩
    rcases List.eq_nil_or_concat' later with none | ⟨middle, last, rfl⟩
    · subst none
      obtain ⟨_, last⟩ := List.append_inj' split rfl
      exact .inl ⟨List.cons.inj last |>.1, same⟩
    · rw [← List.cons_append, ← List.append_assoc] at split
      obtain ⟨front, back⟩ := List.append_inj' split rfl
      cases back
      refine .inr ⟨⟨same, earlier, middle, front, fun event member => ?_⟩, ?_⟩
      · exact spared event (List.mem_append_left _ member)
      · exact spared event (List.mem_append_right _ List.mem_cons_self)
  · rintro (⟨rfl, same⟩ | ⟨⟨same, earlier, later, rfl, spared⟩, spares⟩)
    · exact ⟨same, events, [], rfl, nofun⟩
    · refine ⟨same, earlier, later ++ [event], by simp, fun other member => ?_⟩
      rcases List.mem_append.mp member with old | new
      · exact spared other old
      · exact List.mem_singleton.mp new ▸ spares

/-- A stream runs only in the slot that it is for. -/
def Slotted (running : Slot → Option Endpoint) : Prop := ∀ slot stream, running slot = some stream → stream.slot = slot

theorem paused_iff (slotted : Slotted running) (paused : Endpoint) :
    (if running paused.slot = some paused then Function.update running paused.slot none else running) slot = some stream ↔
      running slot = some stream ∧ paused ≠ stream := by
  by_cases runs : running paused.slot = some paused
  · rw [if_pos runs]
    by_cases same : slot = paused.slot
    · subst same
      rw [Function.update_self, runs]
      constructor
      · intro none
        cases none
      · rintro ⟨some, other⟩
        exact absurd (Option.some.inj some) other
    · rw [Function.update_of_ne same]
      refine (and_iff_left_of_imp fun some other => same ?_).symm
      rw [other]
      exact (slotted slot stream some).symm
  · rw [if_neg runs]
    refine (and_iff_left_of_imp fun some other => runs ?_).symm
    rw [other, slotted slot stream some]
    exact some

theorem keepRunning_iff (slotted : Slotted running) : keepRunning running event slot = some stream ↔
    (event = .run stream ∧ stream.slot = slot) ∨ (running slot = some stream ∧ Spares slot stream event) := by
  cases event with
  | run other =>
    have spares : Spares slot stream (.run other) ↔ other.slot ≠ slot := by
      simp [Spares]
    rw [spares, Users.Event.run.injEq]
    by_cases same : other.slot = slot
    · subst same
      rw [keepRunning, Function.update_self, Option.some.injEq]
      constructor
      · intro same
        exact .inl ⟨same, same ▸ rfl⟩
      · rintro (⟨same, _⟩ | ⟨_, differs⟩)
        · exact same
        · exact absurd rfl differs
    · rw [keepRunning, Function.update_of_ne (Ne.symm same)]
      constructor
      · exact fun some => .inr ⟨some, same⟩
      · rintro (⟨equal, here⟩ | ⟨some, _⟩)
        · exact absurd (equal ▸ here) same
        · exact some
  | pause other | beginRelease other =>
    rw [keepRunning, paused_iff slotted other]
    simp [Spares]
  | _ => simp [keepRunning, Spares]

theorem keepRunning_slotted (slotted : Slotted running) (event : Users.Event) : Slotted (keepRunning running event) := by
  intro slot stream some
  rcases (keepRunning_iff slotted).mp some with ⟨_, same⟩ | ⟨runs, _⟩
  · exact same
  · exact slotted slot stream runs

/-- The slots of a run follow its calls. -/
theorem foldl_latest (events : List Users.Event) :
    Slotted (events.foldl keepRunning fun _ => none) ∧
      ∀ slot stream, (events.foldl keepRunning fun _ => none) slot = some stream ↔ Latest slot events stream := by
  induction events using List.reverseRecOn with
  | nil =>
    refine ⟨nofun, fun slot stream => ⟨nofun, ?_⟩⟩
    rintro ⟨_, earlier, later, split, _⟩
    simp at split
  | append_singleton events event ih =>
    obtain ⟨slotted, latest⟩ := ih
    rw [List.foldl_concat]
    refine ⟨keepRunning_slotted slotted event, fun slot stream => ?_⟩
    rw [keepRunning_iff slotted, latest_concat, latest]

/-- Every stream in a slot is prepared and no release of it has begun. -/
def Live (users : Users) : Prop :=
  ∀ slot stream, users.audio.running slot = some stream → stream ∈ users.prepared ∧ stream ∉ users.releasing

theorem advance_streams (users : Users) (started : Bool) (entered : Section) :
    (users.advance started entered).releasing ⊆ users.releasing ∧
      ∀ stream ∈ users.prepared, entered ≠ .release stream → stream ∈ (users.advance started entered).prepared := by
  cases entered with
  | prepare other =>
    simp only [Users.advance]
    split
    · exact ⟨Finset.Subset.refl _, fun _ inside _ => inside⟩
    · exact ⟨Finset.Subset.refl _, fun _ inside _ => Finset.mem_insert_of_mem inside⟩
  | prepareStart other rate =>
    rcases users.audio.startEngine_cases rate started with ⟨outcome, _⟩ | ⟨outcome, _⟩
    · simp only [Users.advance, outcome]
      exact ⟨Finset.Subset.refl _, fun _ inside _ => Finset.mem_insert_of_mem inside⟩
    · simp only [Users.advance, outcome]
      exact ⟨Finset.Subset.refl _, fun _ inside _ => inside⟩
  | release other =>
    refine ⟨Finset.erase_subset _ _, fun stream inside different => ?_⟩
    exact Finset.mem_erase_of_ne_of_mem (fun same => different (same ▸ rfl)) inside
  | startAsio owner rate =>
    simp only [Users.advance]
    split <;> exact ⟨Finset.Subset.refl _, fun _ inside _ => inside⟩
  | asioStart owner rate previous =>
    simp only [Users.advance]
    split
    · exact ⟨Finset.Subset.refl _, fun _ inside _ => inside⟩
    · rcases users.audio.startEngine_cases rate started with ⟨outcome, _⟩ | ⟨outcome, _⟩ <;> simp only [outcome] <;>
        exact ⟨Finset.Subset.refl _, fun _ inside _ => inside⟩
  | undoAsio previous =>
    simp only [Users.advance]
    split
    · split <;> exact ⟨Finset.Subset.refl _, fun _ inside _ => inside⟩
    · exact ⟨Finset.Subset.refl _, fun _ inside _ => inside⟩
  | stopAsio owner =>
    simp only [Users.advance]
    split <;> exact ⟨Finset.Subset.refl _, fun _ inside _ => inside⟩
  | resume =>
    simp only [Users.advance]
    split
    · split <;> exact ⟨Finset.Subset.refl _, fun _ inside _ => inside⟩
    · exact ⟨Finset.Subset.refl _, fun _ inside _ => inside⟩
  | _ => exact ⟨Finset.Subset.refl _, fun _ inside _ => inside⟩

/-- A stream stays live over whatever leaves it alone. -/
theorem step_spares {users after : Users} (counted : Users.Counted users) (stepped : users.step event = some after)
    (prepared : stream ∈ users.prepared) (free : stream ∉ users.releasing) (spares : Spares slot stream event) :
    stream ∈ after.prepared ∧ stream ∉ after.releasing := by
  cases event with
  | beginRelease other =>
    obtain ⟨_, same⟩ := Option.ite_none_right_eq_some.mp stepped
    cases same
    refine ⟨prepared, fun inside => ?_⟩
    rcases Finset.mem_insert.mp inside with new | old
    · exact spares.2.1 (new ▸ rfl)
    · exact free old
  | beginStop owner =>
    simp only [Users.step] at stepped
    split at stepped
    · split at stepped <;> cases stepped <;> exact ⟨prepared, free⟩
    · cases stepped
      exact ⟨prepared, free⟩
  | lock entered =>
    obtain ⟨_, locked⟩ := Option.ite_none_right_eq_some.mp stepped
    obtain ⟨_, stopping, rfl⟩ := Users.enter_allowed locked
    exact ⟨prepared, free⟩
  | advance started =>
    obtain ⟨entered, held, rfl⟩ := Option.map_eq_some_iff.mp stepped
    obtain ⟨fewer, kept⟩ := advance_streams users started entered
    refine ⟨kept stream prepared fun release => ?_, fun inside => free (fewer inside)⟩
    have releasing := counted.holder entered held
    rw [release] at releasing
    exact free releasing
  | _ =>
    obtain ⟨_, same⟩ := Option.ite_none_right_eq_some.mp stepped
    cases same
    exact ⟨prepared, free⟩

theorem step_live {users after : Users} (counted : Users.Counted users) (slotted : Slotted users.audio.running)
    (live : Live users) (stepped : users.step event = some after) : Live after := by
  intro slot stream runs
  rw [step_running stepped] at runs
  rcases (keepRunning_iff slotted).mp runs with ⟨rfl, _⟩ | ⟨ran, spares⟩
  · obtain ⟨ready, same⟩ := Option.ite_none_right_eq_some.mp stepped
    cases same
    exact ready
  · obtain ⟨prepared, free⟩ := live slot stream ran
    exact step_spares counted stepped prepared free spares

theorem run_live {users : Users} (ran : run Users.step .start events = some users) : Live users := by
  refine (run_invariant (fun users => Users.Counted users ∧ Slotted users.audio.running ∧ Live users) ?_
    (along_trivial _ events) ran ⟨Users.counted_start, nofun, nofun⟩).2.2
  rintro before event after _ stepped ⟨counted, slotted, live⟩
  refine ⟨(Users.step_took stepped).counted counted, ?_, step_live counted slotted live stepped⟩
  rw [step_running stepped]
  exact keepRunning_slotted slotted event

/-- In any run a slot holds exactly the stream that was run last in it, if that
one was neither paused nor released since; it is then a prepared stream that no
one releases or destroys, and what others do leaves it where it is. -/
theorem slots_never_dangle {users : Users} (ran : run Users.step .start events = some users) (slot : Slot) (stream : Endpoint) :
    (Frames.stream users.audio slot = some stream ↔ Latest slot events stream) ∧
      (Frames.stream users.audio slot = some stream →
        stream ∈ users.created ∧ stream ∈ users.prepared ∧ stream ∉ users.releasing ∧
        users.step (.releaseRate stream) = none ∧
        ∀ event after, users.step event = some after → (∀ other, event ≠ .run other ∨ other.slot ≠ slot) →
          event ≠ .pause stream → event ≠ .beginRelease stream → Frames.stream after.audio slot = some stream) := by
  have held : users.audio.running = events.foldl keepRunning fun _ => none := run_running ran
  obtain ⟨slotted, latest⟩ := foldl_latest events
  rw [← held] at slotted latest
  refine ⟨latest slot stream, fun runs => ?_⟩
  obtain ⟨prepared, free⟩ := run_live ran slot stream runs
  refine ⟨(Users.run_counted ran).created prepared, prepared, free, ?_, fun event after stepped others paused released => ?_⟩
  · exact if_neg fun idle => idle.2.1 prepared
  · rw [Frames.stream, step_running stepped]
    refine (keepRunning_iff slotted).mpr (.inr ⟨runs, paused, released, fun other same => ?_⟩)
    exact (others other).resolve_left (absurd same)

/-- Two streams run in the same slot one after the other, and the first is then paused. -/
def pausesFirst : List Users.Event :=
  let first : Endpoint := ⟨1, .output12, .hz44100⟩
  let second : Endpoint := ⟨2, .output12, .hz48000⟩
  [.attach, .claimRate first, .claimRate second, .lock (.prepare first), .advance true, .advance true, .lock (.prepare second),
    .advance true, .run first, .run second, .pause first]

theorem slots_never_dangle_two_streams :
    ∃ users, run Users.step .start pausesFirst = some users ∧
      Frames.stream users.audio .output12 = some ⟨2, .output12, .hz48000⟩ ∧
      Latest .output12 pausesFirst ⟨2, .output12, .hz48000⟩ := by
  have runs : (run Users.step .start pausesFirst).any
      (fun users => Frames.stream users.audio .output12 = some ⟨2, .output12, .hz48000⟩) = true := by decide +kernel
  obtain ⟨users, ran, checked⟩ := (Option.any_eq_true _ _).mp runs
  have second := of_decide_eq_true checked
  exact ⟨users, ran, second, (slots_never_dangle ran .output12 _).1.mp second⟩

end Ak1Driver.Driver
