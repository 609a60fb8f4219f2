import Ak1Driver.Lib.Transition
import Ak1Driver.Proto.Resample

/-! A resampler in use: the frames pushed into it and popped from it since it
was reset. Its position is the exact rational number of input frames that the
number of frames popped stands for. -/

namespace Ak1Driver
open Proto Lib.Transition

/-- Two positive rates whose ratio, output to input, is `up` / `down` in lowest terms. -/
structure LowestTerms (fromHz toHz up down : Nat) : Prop where
  fromPositive : 0 < fromHz
  toPositive : 0 < toHz
  fromSmall : fromHz < 2 ^ 31
  toSmall : toHz < 2 ^ 31
  coprime : up.Coprime down
  ratio : toHz * down = fromHz * up

/-- Half the kernel's width, in input frames. -/
def halfWidth (up down : Nat) : Nat := (zeroCrossings * max up down) ⌈/⌉ up

namespace LowestTerms
variable {fromHz toHz up down : Nat}

theorem split (lowest : LowestTerms fromHz toHz up down) :
    0 < Proto.gcd fromHz toHz ∧ fromHz = down * Proto.gcd fromHz toHz ∧ toHz = up * Proto.gcd fromHz toHz := by
  have divides : up ∣ toHz * down := ⟨fromHz, by rw [lowest.ratio, Nat.mul_comm]⟩
  obtain ⟨common, whole⟩ := lowest.coprime.dvd_of_dvd_mul_right divides
  have positive : 0 < up * common := whole ▸ lowest.toPositive
  have other : fromHz = down * common := by
    apply Nat.eq_of_mul_eq_mul_right (Nat.pos_of_mul_pos_right positive)
    rw [← lowest.ratio, whole, Nat.mul_assoc, Nat.mul_comm, Nat.mul_comm common]
  have divisor : Proto.gcd fromHz toHz = common := by
    rw [gcd_eq, other, whole, Nat.gcd_mul_right, Nat.gcd_comm, lowest.coprime, Nat.one_mul]
  rw [divisor]
  exact ⟨Nat.pos_of_mul_pos_left positive, other, whole⟩

theorem up_positive (lowest : LowestTerms fromHz toHz up down) : 0 < up := by
  obtain ⟨_, _, whole⟩ := lowest.split
  exact Nat.pos_of_mul_pos_right (whole ▸ lowest.toPositive)

theorem down_positive (lowest : LowestTerms fromHz toHz up down) : 0 < down := by
  obtain ⟨_, whole, _⟩ := lowest.split
  exact Nat.pos_of_mul_pos_right (whole ▸ lowest.fromPositive)

theorem up_small (lowest : LowestTerms fromHz toHz up down) : up < 2 ^ 31 := by
  obtain ⟨positive, _, whole⟩ := lowest.split
  exact Nat.lt_of_le_of_lt (whole ▸ Nat.le_mul_of_pos_right up positive) lowest.toSmall

theorem down_small (lowest : LowestTerms fromHz toHz up down) : down < 2 ^ 31 := by
  obtain ⟨positive, whole, _⟩ := lowest.split
  exact Nat.lt_of_le_of_lt (whole ▸ Nat.le_mul_of_pos_right down positive) lowest.fromSmall

end LowestTerms

/-- What a resampler is set to for a ratio. -/
structure Settings (fromHz toHz up down : Nat) (resampler : Resampler channels) : Prop where
  rates : resampler.rates = (fromHz, toHz)
  upTerm : resampler.up = up
  downTerm : resampler.down = down
  scale : resampler.scale = max up down
  taps : resampler.taps = halfWidth up down
  gain : resampler.gain = if up < down then up * 2 ^ 16 / down else 0
  reciprocal : resampler.reciprocal = 2 ^ 32 / max up down
  step : resampler.step = (up * steps / max up down, up * steps % max up down)

/-- A resampler set to a ratio, at the position of output frame number `popped`. -/
structure Tracks (fromHz toHz up down pushed popped : Nat) (resampler : Resampler channels) : Prop
    extends Settings fromHz toHz up down resampler where
  pushed : resampler.pushed = pushed
  position : resampler.center * up + resampler.phase = popped * down
  within : resampler.phase < up

namespace Tracks
variable {channels fromHz toHz up down pushed popped : Nat} {resampler : Resampler channels}

theorem new (lowest : LowestTerms fromHz toHz up down) :
    Tracks fromHz toHz up down 0 0 (Resampler.new fromHz toHz : Resampler channels) := by
  obtain ⟨positive, input, output⟩ := lowest.split
  have upTerm : toHz / Proto.gcd fromHz toHz = up := Nat.div_eq_of_eq_mul_left positive output
  have downTerm : fromHz / Proto.gcd fromHz toHz = down := Nat.div_eq_of_eq_mul_left positive input
  simp only [Resampler.new, Resampler.reset, upTerm, downTerm]
  exact ⟨⟨rfl, rfl, rfl, rfl, rfl, rfl, rfl, rfl⟩, rfl, by simp, lowest.up_positive⟩

theorem center (tracks : Tracks fromHz toHz up down pushed popped resampler) :
    resampler.center = popped * down / up := by
  rw [← tracks.position, Nat.mul_comm, Nat.mul_add_div (Nat.zero_lt_of_lt tracks.within),
    Nat.div_eq_of_lt tracks.within, Nat.add_zero]

theorem push (tracks : Tracks fromHz toHz up down pushed popped resampler) (frame : Frame channels) :
    Tracks fromHz toHz up down (pushed + 1) popped (resampler.push frame) :=
  { tracks with pushed := congrArg Nat.succ tracks.pushed }

theorem pop_cases (lowest : LowestTerms fromHz toHz up down) (kernel : Kernel)
    (tracks : Tracks fromHz toHz up down pushed popped resampler) :
    (pushed ≤ popped * down / up + halfWidth up down ∧ resampler.pop kernel = (none, resampler)) ∨
    (popped * down / up + halfWidth up down < pushed ∧ ∃ frame after, resampler.pop kernel = (some frame, after) ∧
      Tracks fromHz toHz up down pushed (popped + 1) after ∧ after.history = resampler.history) := by
  have started : ¬ resampler.up = 0 := by
    rw [tracks.upTerm]
    exact Nat.ne_of_gt lowest.up_positive
  by_cases enough : popped * down / up + halfWidth up down < pushed
  · right
    have ready : ¬ resampler.pushed ≤ resampler.center + resampler.taps := by
      rw [tracks.pushed, tracks.center, tracks.taps]
      exact Nat.not_le_of_lt enough
    have small : resampler.phase + resampler.down < 2 ^ 32 := by
      have := lowest.up_small
      have := lowest.down_small
      have := tracks.within
      rw [tracks.downTerm]
      omega
    rw [Resampler.pop, if_neg (not_or.mpr ⟨started, ready⟩)]
    refine ⟨enough, _, _, rfl, ?_, rfl⟩
    simp only [Nat.mod_eq_of_lt small]
    refine { tracks with position := ?_, within := ?_ }
    · have split := Nat.div_add_mod (resampler.phase + resampler.down) up
      have before := tracks.position
      simp only [tracks.upTerm, tracks.downTerm] at *
      rw [Nat.add_mul, Nat.add_mul, Nat.one_mul, Nat.mul_comm (_ / up)]
      omega
    · simp only [tracks.upTerm]
      exact Nat.mod_lt _ lowest.up_positive
  · left
    have wait : resampler.pushed ≤ resampler.center + resampler.taps := by
      rw [tracks.pushed, tracks.center, tracks.taps]
      exact Nat.le_of_not_lt enough
    rw [Resampler.pop, if_pos (Or.inr wait)]
    exact ⟨Nat.le_of_not_lt enough, rfl⟩

end Tracks

structure Conversion (channels : Nat) where
  resampler : Resampler channels
  input : List (Frame channels)
  output : List (Frame channels)
  /-- Whether no frame was pushed since the last pop that found none. -/
  starved : Bool

namespace Conversion
variable {channels : Nat}

def start (fromHz toHz : Nat) : Conversion channels := ⟨.new fromHz toHz, [], [], true⟩

inductive Event (channels : Nat) where
  | push (frame : Frame channels)
  | pop

def push (conversion : Conversion channels) (frame : Frame channels) : Conversion channels :=
  { conversion with
    resampler := conversion.resampler.push frame
    input := conversion.input ++ [frame]
    starved := false }

def pop (kernel : Kernel) (conversion : Conversion channels) : Conversion channels :=
  let (popped, resampler) := conversion.resampler.pop kernel
  { conversion with
    resampler := resampler
    output := conversion.output ++ popped.toList
    starved := conversion.starved || popped.isNone }

def step (kernel : Kernel) (conversion : Conversion channels) : Event channels → Option (Conversion channels)
  | .push frame => some (conversion.push frame)
  | .pop => some (conversion.pop kernel)

theorem step_tracks (lowest : LowestTerms fromHz toHz up down) {kernel : Kernel} {before after : Conversion channels}
    {event : Event channels} (stepped : step kernel before event = some after)
    (tracks : Tracks fromHz toHz up down before.input.length before.output.length before.resampler) :
    Tracks fromHz toHz up down after.input.length after.output.length after.resampler := by
  cases event with
  | push frame =>
    cases stepped
    simpa only [push, List.length_append, List.length_singleton] using tracks.push frame
  | pop =>
    cases stepped
    rcases tracks.pop_cases lowest kernel with ⟨_, none⟩ | ⟨_, frame, after, some, next, _⟩
    · simpa only [pop, none, Option.toList_none, List.append_nil] using tracks
    · simpa only [pop, some, Option.toList_some, List.length_append, List.length_singleton] using next

theorem run_tracks (lowest : LowestTerms fromHz toHz up down) {kernel : Kernel} {events : List (Event channels)}
    {final : Conversion channels} (ran : run (step kernel) (start fromHz toHz) events = some final) :
    Tracks fromHz toHz up down final.input.length final.output.length final.resampler :=
  Reachable.invariant (fun state => Tracks fromHz toHz up down state.input.length state.output.length state.resampler)
    ⟨events, ran⟩ (fun _ _ _ stepped => step_tracks lowest stepped) (Tracks.new lowest)

end Conversion
end Ak1Driver
