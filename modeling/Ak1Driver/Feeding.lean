import Ak1Driver.Conversion

/-! A resampler by itself: what it makes of a list of frames, pulled from it one
output frame at a time as playback does, or pushed into it one input frame at a
time as capture does. -/

namespace Ak1Driver.Proto.Resampler
variable {channels : Nat}

/-- The next output frame, with as much of `input` as it needs; and the input left. -/
def pull (kernel : Kernel) : List (Frame channels) → Resampler channels →
    Option (Frame channels × List (Frame channels) × Resampler channels)
  | [], resampler =>
    match resampler.pop kernel with
    | (some frame, resampler) => some (frame, [], resampler)
    | (none, _) => none
  | first :: input, resampler =>
    match resampler.pop kernel with
    | (some frame, resampler) => some (frame, first :: input, resampler)
    | (none, resampler) => pull kernel input (resampler.push first)

def pulls (kernel : Kernel) : Nat → List (Frame channels) → Resampler channels →
    Option (List (Frame channels) × List (Frame channels) × Resampler channels)
  | 0, input, resampler => some ([], input, resampler)
  | count + 1, input, resampler => do
    let (frame, input, resampler) ← pull kernel input resampler
    let (frames, input, resampler) ← pulls kernel count input resampler
    return (frame :: frames, input, resampler)

/-- Every output frame that the input so far is enough for. -/
def drain (kernel : Kernel) : Nat → Resampler channels → Option (List (Frame channels) × Resampler channels)
  | 0, _ => none
  | fuel + 1, resampler =>
    match resampler.pop kernel with
    | (some frame, resampler) => (drain kernel fuel resampler).map fun (frames, resampler) => (frame :: frames, resampler)
    | (none, resampler) => some ([], resampler)

/-- The output frames that follow each frame of `input`. -/
def convert (kernel : Kernel) (fuel : Nat) : List (Frame channels) → Resampler channels →
    Option (List (List (Frame channels)) × Resampler channels)
  | [], resampler => some ([], resampler)
  | first :: input, resampler => do
    let (frames, resampler) ← drain kernel fuel (resampler.push first)
    let (rest, resampler) ← convert kernel fuel input resampler
    return (frames :: rest, resampler)

variable {kernel : Kernel}

@[simp] theorem push_rates (resampler : Resampler channels) (frame : Frame channels) :
    (resampler.push frame).rates = resampler.rates := rfl

@[simp] theorem pop_rates (kernel : Kernel) (resampler : Resampler channels) :
    (resampler.pop kernel).2.rates = resampler.rates := by
  simp only [pop]
  split <;> rfl

theorem pull_rates {input left : List (Frame channels)} {resampler after : Resampler channels} {frame : Frame channels}
    (pulled : pull kernel input resampler = some (frame, left, after)) : after.rates = resampler.rates := by
  induction input generalizing resampler with
  | nil =>
    have kept := pop_rates kernel resampler
    simp only [pull] at pulled
    split at pulled
    · rename_i popped
      cases pulled
      rwa [popped] at kept
    · cases pulled
  | cons first input ih =>
    have kept := pop_rates kernel resampler
    simp only [pull] at pulled
    split at pulled
    · rename_i popped
      cases pulled
      rwa [popped] at kept
    · rename_i popped
      rw [popped] at kept
      exact (ih pulled).trans kept

theorem pull_append {input left : List (Frame channels)} {resampler after : Resampler channels} {frame : Frame channels}
    (pulled : pull kernel input resampler = some (frame, left, after)) (more : List (Frame channels)) :
    pull kernel (input ++ more) resampler = some (frame, left ++ more, after) := by
  induction input generalizing resampler with
  | nil =>
    simp only [pull] at pulled
    split at pulled
    · rename_i popped
      cases pulled
      cases more with
      | nil => simp only [List.nil_append, pull, popped]
      | cons next more => simp only [List.nil_append, pull, popped]
    · cases pulled
  | cons first input ih =>
    simp only [pull] at pulled
    split at pulled
    · rename_i popped
      cases pulled
      simp only [List.cons_append, pull, popped]
    · rename_i popped
      simp only [List.cons_append, pull, popped]
      exact ih pulled

theorem drain_rates {fuel : Nat} {resampler after : Resampler channels} {frames : List (Frame channels)}
    (drained : drain kernel fuel resampler = some (frames, after)) : after.rates = resampler.rates := by
  induction fuel generalizing resampler frames with
  | zero => cases drained
  | succ fuel ih =>
    have kept := pop_rates kernel resampler
    simp only [drain] at drained
    split at drained
    · rename_i popped
      obtain ⟨⟨rest, last⟩, further, same⟩ := Option.map_eq_some_iff.mp drained
      cases same
      rw [popped] at kept
      exact (ih further).trans kept
    · rename_i popped
      cases drained
      rwa [popped] at kept

theorem pull_tracks {fromHz toHz up down pushed popped : Nat} (lowest : LowestTerms fromHz toHz up down)
    {input left : List (Frame channels)} {resampler after : Resampler channels} {frame : Frame channels}
    (tracks : Tracks fromHz toHz up down pushed popped resampler)
    (pulled : pull kernel input resampler = some (frame, left, after)) :
    ∃ more, Tracks fromHz toHz up down more (popped + 1) after := by
  induction input generalizing resampler pushed with
  | nil =>
    rcases tracks.pop_cases lowest kernel with ⟨_, none⟩ | ⟨_, first, next, some, tracked, _⟩
    · simp only [pull, none] at pulled
      cases pulled
    · simp only [pull, some] at pulled
      cases pulled
      exact ⟨pushed, tracked⟩
  | cons first input ih =>
    rcases tracks.pop_cases lowest kernel with ⟨_, none⟩ | ⟨_, ready, next, some, tracked, _⟩
    · simp only [pull, none] at pulled
      exact ih (tracks.push first) pulled
    · simp only [pull, some] at pulled
      cases pulled
      exact ⟨pushed, tracked⟩

/-- Each frame pulled moves the position on by one output frame. -/
theorem pulls_tracks {fromHz toHz up down pushed popped : Nat} (lowest : LowestTerms fromHz toHz up down)
    {count : Nat} {input frames left : List (Frame channels)} {resampler after : Resampler channels}
    (tracks : Tracks fromHz toHz up down pushed popped resampler)
    (pulled : pulls kernel count input resampler = some (frames, left, after)) :
    ∃ more, Tracks fromHz toHz up down more (popped + count) after := by
  induction count generalizing input frames resampler pushed popped with
  | zero =>
    cases pulled
    exact ⟨pushed, tracks⟩
  | succ count ih =>
    simp only [pulls, Option.bind_eq_bind, Option.bind_eq_some_iff] at pulled
    obtain ⟨⟨frame, middle, next⟩, first, ⟨rest, last, final⟩, further, same⟩ := pulled
    cases same
    obtain ⟨more, tracked⟩ := pull_tracks lowest tracks first
    obtain ⟨all, still⟩ := ih tracked further
    exact ⟨all, by rwa [Nat.add_assoc, Nat.add_comm 1] at still⟩

/-- One more frame is pulled, with the input that it needs. -/
theorem pulls_concat {count : Nat} {input more frames : List (Frame channels)} {frame : Frame channels}
    {resampler middle after : Resampler channels} (pulled : pulls kernel count input resampler = some (frames, [], middle))
    (last : pull kernel more middle = some (frame, [], after)) :
    pulls kernel (count + 1) (input ++ more) resampler = some (frames ++ [frame], [], after) := by
  induction count generalizing input frames resampler with
  | zero =>
    cases pulled
    simp only [pulls, List.nil_append, last, Option.bind_eq_bind, Option.bind_some]
    rfl
  | succ count ih =>
    obtain ⟨⟨first, left, next⟩, one, rest⟩ := Option.bind_eq_some_iff.mp pulled
    obtain ⟨⟨others, left', final⟩, further, same⟩ := Option.bind_eq_some_iff.mp rest
    cases same
    have all := ih further
    rw [pulls, pull_append one]
    simp only [Option.bind_eq_bind, Option.bind_some, all]
    rfl

theorem drain_pushed {fuel : Nat} {resampler after : Resampler channels} {frames : List (Frame channels)}
    (drained : drain kernel fuel resampler = some (frames, after)) : after.pushed = resampler.pushed := by
  induction fuel generalizing resampler frames with
  | zero => cases drained
  | succ fuel ih =>
    have kept : (resampler.pop kernel).2.pushed = resampler.pushed := by
      simp only [pop]
      split <;> rfl
    simp only [drain] at drained
    split at drained
    · rename_i popped
      obtain ⟨⟨rest, last⟩, further, same⟩ := Option.map_eq_some_iff.mp drained
      cases same
      rw [popped] at kept
      exact (ih further).trans kept
    · rename_i popped
      cases drained
      rwa [popped] at kept

theorem convert_pushed {fuel : Nat} {input : List (Frame channels)} {resampler after : Resampler channels}
    {stored : List (List (Frame channels))} (converted : convert kernel fuel input resampler = some (stored, after)) :
    after.pushed = resampler.pushed + input.length := by
  induction input generalizing resampler stored with
  | nil =>
    cases converted
    rfl
  | cons first input ih =>
    simp only [convert, Option.bind_eq_bind, Option.bind_eq_some_iff] at converted
    obtain ⟨⟨frames, next⟩, drained, ⟨rest, last⟩, further, same⟩ := converted
    cases same
    have pushed : next.pushed = resampler.pushed + 1 := drain_pushed drained
    rw [ih further, pushed, List.length_cons, Nat.add_assoc, Nat.add_comm 1]

/-- One more frame is pushed, and all that it makes is taken. -/
theorem convert_concat {fuel : Nat} {input frames : List (Frame channels)} {stored : List (List (Frame channels))}
    {frame : Frame channels} {resampler middle after : Resampler channels}
    (converted : convert kernel fuel input resampler = some (stored, middle))
    (last : drain kernel fuel (middle.push frame) = some (frames, after)) :
    convert kernel fuel (input ++ [frame]) resampler = some (stored ++ [frames], after) := by
  induction input generalizing stored resampler with
  | nil =>
    cases converted
    simp only [List.nil_append, convert, last, Option.bind_eq_bind, Option.bind_some]
    rfl
  | cons first input ih =>
    obtain ⟨⟨now, next⟩, one, rest⟩ := Option.bind_eq_some_iff.mp converted
    obtain ⟨⟨others, final⟩, further, same⟩ := Option.bind_eq_some_iff.mp rest
    cases same
    have all := ih further
    rw [List.cons_append, convert]
    simp only [one, Option.bind_eq_bind, Option.bind_some, all]
    rfl

/-- A resampler but for the frames pushed into it. -/
def blank (resampler : Resampler channels) : Resampler channels :=
  { resampler with history := Vector.replicate historyFrames silence }

theorem push_blank {first second : Resampler channels} (same : first.blank = second.blank) (frame other : Frame channels) :
    (first.push frame).blank = (second.push other).blank :=
  congrArg (fun resampler : Resampler channels => { resampler with pushed := resampler.pushed + 1 }) same

/-- Whether a frame is ready does not depend on the frames pushed. -/
theorem pop_blank (resampler : Resampler channels) :
    (resampler.pop kernel).1.isSome = (resampler.blank.pop kernel).1.isSome ∧
      (resampler.pop kernel).2.blank = (resampler.blank.pop kernel).2.blank := by
  by_cases waits : resampler.up = 0 ∨ resampler.pushed ≤ resampler.center + resampler.taps
  · have also : resampler.blank.up = 0 ∨ resampler.blank.pushed ≤ resampler.blank.center + resampler.blank.taps := waits
    rw [pop, pop, if_pos waits, if_pos also]
    exact ⟨rfl, rfl⟩
  · have also : ¬ (resampler.blank.up = 0 ∨ resampler.blank.pushed ≤ resampler.blank.center + resampler.blank.taps) := waits
    rw [pop, pop, if_neg waits, if_neg also]
    exact ⟨rfl, rfl⟩

theorem pop_alike {first second : Resampler channels} (same : first.blank = second.blank) :
    (first.pop kernel).1.isSome = (second.pop kernel).1.isSome ∧
      (first.pop kernel).2.blank = (second.pop kernel).2.blank := by
  obtain ⟨ready, left⟩ := @pop_blank channels kernel first
  obtain ⟨also, right⟩ := @pop_blank channels kernel second
  rw [same] at ready left
  exact ⟨ready.trans also.symm, left.trans right.symm⟩

end Ak1Driver.Proto.Resampler
