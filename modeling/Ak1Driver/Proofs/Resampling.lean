import Ak1Driver.Interpolation
import Mathlib.Algebra.Order.BigOperators.Group.Finset
import Mathlib.Algebra.Order.Ring.Abs
import Mathlib.Algebra.Order.Ring.Int
import Mathlib.Data.List.GetD

/-! The resampler computes the interpolation formula. Its history holds every
frame a pop reads, because input is pushed only when a pop has found too little. -/

namespace Ak1Driver.Proofs.Resampling
open Proto Interpolation Lib.Transition

variable {channels fromHz toHz up down : Nat} {kernel : Kernel}

theorem wrap64_add (value more : Int) : wrap64 (wrap64 value + more) = wrap64 (value + more) := Int.bmod_add_bmod

theorem wrap64_small {value : Int} (low : -2 ^ 63 ≤ value) (high : value < 2 ^ 63) : wrap64 value = value := by
  apply Int.bmod_eq_of_le <;> omega

theorem place_eq (position : Int) : (Resampler.place position : Int) = position % 512 := by
  simp only [Resampler.place, historyFrames]
  omega

theorem place_ne {position other : Int} (before : position < other) (near : other - position < 512) :
    Resampler.place other ≠ Resampler.place position := by
  have first := place_eq position
  have second := place_eq other
  omega

/-- The history holds the last frames of the input, as many as it can. -/
def Holds (resampler : Resampler channels) (input : List (Frame channels)) : Prop :=
  ∀ position : Int, input.length - 512 ≤ position → position < input.length →
    resampler.frameAt position = inputAt input position

theorem holds_new : Holds (Resampler.new fromHz toHz : Resampler channels) [] := by
  intro position _ before
  rw [inputAt_before before]
  exact Vector.getElem_replicate _

theorem frameAt_push {resampler : Resampler channels} {frame : Frame channels} {position : Int} :
    (resampler.push frame).frameAt position =
      if Resampler.place resampler.pushed = Resampler.place position then frame else resampler.frameAt position :=
  Vector.getElem_set (Resampler.place_lt _) (Resampler.place_lt _)

theorem holds_push {resampler : Resampler channels} {input : List (Frame channels)}
    (counted : resampler.pushed = input.length) (holds : Holds resampler input) (frame : Frame channels) :
    Holds (resampler.push frame) (input ++ [frame]) := by
  intro position after before
  rw [List.length_append, List.length_singleton] at after before
  rw [frameAt_push, counted]
  by_cases last : position = input.length
  · rw [last, inputAt_last, if_pos rfl]
  · have earlier : position < input.length := by omega
    rw [inputAt_push earlier, if_neg (place_ne earlier (by omega))]
    exact holds position (by omega) earlier

theorem nextTap_eq {resampler : Resampler channels} (settings : Settings fromHz toHz up down resampler)
    (positive : 0 < up) (position : Nat) :
    resampler.nextTap (position / max up down) (position % max up down) =
      ((position + up * steps) / max up down, (position + up * steps) % max up down) := by
  have scalePositive : 0 < max up down := Nat.lt_of_lt_of_le positive (Nat.le_max_left up down)
  rw [Resampler.nextTap, settings.scale, settings.step, Nat.add_div scalePositive, Nat.add_mod_eq_ite]
  split
  · rfl
  · rfl

theorem coefficient_eq {resampler : Resampler channels} (settings : Settings fromHz toHz up down resampler)
    (scaled : up < down → resampler.gain ≠ 0) {position : Nat}
    (inside : position / max up down < zeroCrossings * steps) :
    resampler.coefficient kernel (position / max up down) (position % max up down) inside =
      weightAt kernel up down position := by
  simp only [Resampler.coefficient, weightAt, dif_pos inside, settings.reciprocal, Nat.shiftRight_eq_div_pow]
  by_cases lower : up < down
  · rw [if_pos (scaled lower), if_pos lower, settings.gain, if_pos lower]
  · rw [if_neg lower, if_neg (by rw [settings.gain, if_neg lower]; decide)]

private theorem sum_past_end {frames : Nat → Int} {position left : Nat}
    (past : ¬ position / max up down < zeroCrossings * steps) :
    ∑ t ∈ Finset.range left, frames t * weightAt kernel up down (position + t * (up * steps)) = 0 := by
  apply Finset.sum_eq_zero
  intro t _
  have further : ¬ (position + t * (up * steps)) / max up down < zeroCrossings * steps := by
    have grown : position / max up down ≤ (position + t * (up * steps)) / max up down :=
      Nat.div_le_div_right (Nat.le_add_right _ _)
    exact fun before => past (Nat.lt_of_le_of_lt grown before)
  rw [weightAt, dif_neg further, Int.mul_zero]

variable (kernel) in
theorem addTaps_eq {resampler : Resampler channels} (settings : Settings fromHz toHz up down resampler)
    (positive : 0 < up) (scaled : up < down → resampler.gain ≠ 0) (first direction : Int) {channel : Nat}
    (inside : channel < channels) (left tap position : Nat) (sums : Vector Int channels) (sum : Int)
    (summed : sums[channel] = wrap64 sum) :
    (resampler.addTaps kernel first direction left tap (position / max up down) (position % max up down) sums)[channel] =
      wrap64 (sum + ∑ t ∈ Finset.range left, (resampler.frameAt (first + direction * (tap + t : Nat)))[channel] *
        weightAt kernel up down (position + t * (up * steps))) := by
  induction left generalizing tap position sums sum with
  | zero => simpa [Resampler.addTaps] using summed
  | succ left ih =>
    by_cases more : position / max up down < zeroCrossings * steps
    · have added := ih (tap + 1) (position + up * steps)
        (sums.zipWith (fun sum sample => wrap64 (sum + sample * weightAt kernel up down position))
          (resampler.frameAt (first + direction * tap)))
        (sum + (resampler.frameAt (first + direction * tap))[channel] * weightAt kernel up down position)
        (by rw [Vector.getElem_zipWith, summed, wrap64_add])
      rw [Resampler.addTaps, dif_pos more, coefficient_eq settings scaled more]
      simp only [nextTap_eq settings positive]
      have taps : ∀ t, tap + 1 + t = tap + (t + 1) := by omega
      have positions : ∀ t, position + up * steps + t * (up * steps) = position + (t + 1) * (up * steps) := by
        intro t
        rw [Nat.succ_mul]
        omega
      rw [added, Finset.sum_range_succ']
      simp only [taps, positions, Nat.add_zero, Nat.zero_mul]
      rw [Int.add_assoc, Int.add_comm (_ * _)]
    · rw [Resampler.addTaps, dif_neg more, sum_past_end more, Int.add_zero]
      exact summed

variable (kernel) in
theorem addSide_back {resampler : Resampler channels} {input : List (Frame channels)} {pushed popped channel : Nat}
    (tracks : Tracks fromHz toHz up down pushed popped resampler) (scaled : up < down → resampler.gain ≠ 0)
    (kept : ∀ t < halfWidth up down, resampler.frameAt (resampler.center - t) = inputAt input (resampler.center - t))
    (inside : channel < channels) {sums : Vector Int channels} {sum : Int} (summed : sums[channel] = wrap64 sum) :
    (resampler.addSide kernel sums (-1) resampler.phase)[channel] =
      wrap64 (sum + ∑ t ∈ Finset.range (halfWidth up down),
        contribution kernel up down input popped channel inside (resampler.center - t)) := by
  have added := addTaps_eq kernel tracks.toSettings (Nat.zero_lt_of_lt tracks.within) scaled resampler.center (-1) inside
    (halfWidth up down) 0 (resampler.phase * steps) sums sum summed
  rw [Resampler.addSide, tracks.scale, tracks.taps]
  refine added.trans (congrArg (fun total => wrap64 (sum + total)) (Finset.sum_congr rfl ?_))
  intro t member
  have moved : (resampler.center : Int) + -1 * (0 + t : Nat) = resampler.center - t := by omega
  rw [contribution, response, moved, kept t (Finset.mem_range.mp member), distance_back tracks.position, Nat.add_mul,
    Nat.mul_assoc t]

variable (kernel) in
theorem addSide_ahead {resampler : Resampler channels} {input : List (Frame channels)} {pushed popped channel : Nat}
    (tracks : Tracks fromHz toHz up down pushed popped resampler) (scaled : up < down → resampler.gain ≠ 0)
    (kept : ∀ t < halfWidth up down,
      resampler.frameAt (resampler.center + 1 + t) = inputAt input (resampler.center + 1 + t))
    (inside : channel < channels) {sums : Vector Int channels} {sum : Int} (summed : sums[channel] = wrap64 sum) :
    (resampler.addSide kernel sums 1 (up - resampler.phase))[channel] =
      wrap64 (sum + ∑ t ∈ Finset.range (halfWidth up down),
        contribution kernel up down input popped channel inside (resampler.center + 1 + t)) := by
  have added := addTaps_eq kernel tracks.toSettings (Nat.zero_lt_of_lt tracks.within) scaled (resampler.center + 1) 1
    inside (halfWidth up down) 0 ((up - resampler.phase) * steps) sums sum summed
  rw [Resampler.addSide, tracks.scale, tracks.taps]
  refine added.trans (congrArg (fun total => wrap64 (sum + total)) (Finset.sum_congr rfl ?_))
  intro t member
  have moved : (resampler.center + 1 : Int) + 1 * (0 + t : Nat) = resampler.center + 1 + t := by omega
  rw [contribution, response, moved, kept t (Finset.mem_range.mp member), distance_ahead tracks.position tracks.within,
    Nat.add_mul, Nat.mul_assoc t]

/-- A resampler that passes its assertion scales its kernel when converting down. -/
theorem gain_ne_zero {resampler : Resampler channels} (settings : Settings fromHz toHz up down resampler)
    (positive : 0 < up) (asserted : resampler.Asserted) (lower : up < down) : resampler.gain ≠ 0 := by
  have narrow : down ⌈/⌉ up ≤ 2 ^ 16 := by
    have := asserted
    rw [Resampler.Asserted, settings.downTerm, settings.upTerm] at this
    simp only [historyFrames] at this
    omega
  have near : down ≤ up * 2 ^ 16 := (ceilDiv_le_iff_le_smul positive).mp narrow
  rw [settings.gain, if_pos lower]
  exact Nat.ne_of_gt (Nat.div_pos near (Nat.lt_trans positive lower))

private theorem rounded_eq {sum : Int} {taps : Nat} (narrow : 2 * taps < 511) (bounded : |sum| ≤ 2 * (taps * 2 ^ 54)) :
    Resampler.rounded (wrap64 sum) = clamp ((2 ^ 29 + sum) / 2 ^ 30) minSample maxSample := by
  obtain ⟨low, high⟩ := abs_le.mp bounded
  rw [Resampler.rounded, wrap64_add, wrap64_small (by omega) (by omega), Int.add_comm sum]

variable (kernel) in
theorem contribution_bounds {input : List (Frame channels)} (fits : ∀ frame ∈ input, FrameFits24 frame)
    (positive : 0 < up) (k : Nat) {channel : Nat} (inside : channel < channels) (j : Int) :
    |contribution kernel up down input k channel inside j| ≤ 2 ^ 54 := by
  have sample : |(inputAt input j)[channel]| ≤ 2 ^ 23 := by
    by_cases known : 0 ≤ j ∧ j < input.length
    · have member : inputAt input j ∈ input := by
        rw [inputAt, if_neg (by omega), List.getD_eq_getElem _ _ (by omega)]
        exact List.getElem_mem _
      obtain ⟨low, high⟩ := fits _ member channel inside
      exact abs_le.mpr ⟨low, high.le⟩
    · have silent : inputAt input j = silence := by
        by_cases before : j < 0
        · exact inputAt_before before
        · rw [inputAt, if_neg before, List.getD_eq_default _ _ (by omega)]
      rw [silent, silence, Vector.getElem_replicate]
      decide
  have weight : |response kernel up down k j| ≤ 2 ^ 31 := abs_le.mpr (weightAt_bounds positive _)
  rw [contribution, abs_mul]
  exact Int.mul_le_mul sample weight (abs_nonneg _) (by decide)

theorem sum_bounds {term : Nat → Int} (bounded : ∀ t, |term t| ≤ 2 ^ 54) (count : Nat) :
    |∑ t ∈ Finset.range count, term t| ≤ count * 2 ^ 54 := by
  calc |∑ t ∈ Finset.range count, term t|
      ≤ ∑ t ∈ Finset.range count, |term t| := Finset.abs_sum_le_sum_abs _ _
    _ ≤ (Finset.range count).card • 2 ^ 54 := Finset.sum_le_card_nsmul _ _ _ fun t _ => bounded t
    _ = count * 2 ^ 54 := by rw [Finset.card_range, nsmul_eq_mul]

variable (kernel) in
theorem sides_eq {resampler : Resampler channels} {input : List (Frame channels)} {pushed popped channel : Nat}
    (tracks : Tracks fromHz toHz up down pushed popped resampler) (inside : channel < channels)
    (covered : resampler.center + halfWidth up down < input.length) :
    ∑ t ∈ Finset.range (halfWidth up down),
        contribution kernel up down input popped channel inside (resampler.center - t) +
      ∑ t ∈ Finset.range (halfWidth up down),
        contribution kernel up down input popped channel inside (resampler.center + 1 + t) =
      ∑ j ∈ Finset.range input.length, contribution kernel up down input popped channel inside j := by
  apply Lib.Sides.sum_sides covered
  · intro j before
    rw [contribution, inputAt_before before, silence, Vector.getElem_replicate, Int.zero_mul]
  · intro t far
    rw [contribution, response_back (Nat.zero_lt_of_lt tracks.within) tracks.position far, Int.mul_zero]
  · intro t far
    rw [contribution, response_ahead tracks.position tracks.within far, Int.mul_zero]

/-- A pop computes the formula if the history holds all it reads, which is
when no more was pushed than this output needs. -/
theorem pop_interpolated (lowest : LowestTerms fromHz toHz up down) {resampler after : Resampler channels}
    {input : List (Frame channels)} {popped : Nat} {frame : Frame channels}
    (tracks : Tracks fromHz toHz up down input.length popped resampler) (asserted : resampler.Asserted)
    (fits : ∀ frame ∈ input, FrameFits24 frame) (holds : Holds resampler input)
    (exact : input.length = popped * down / up + halfWidth up down + 1)
    (took : resampler.pop kernel = (some frame, after)) {channel : Nat} (inside : channel < channels) :
    frame[channel] = interpolated kernel up down input popped channel inside := by
  have positive := lowest.up_positive
  have scaled := gain_ne_zero tracks.toSettings positive asserted
  have narrow : 2 * halfWidth up down < 511 := by
    have := asserted
    rw [Resampler.Asserted, tracks.taps] at this
    simp only [historyFrames] at this
    omega
  rw [← tracks.center] at exact
  have bounded (j : Int) : |contribution kernel up down input popped channel inside j| ≤ 2 ^ 54 :=
    contribution_bounds kernel fits positive popped inside j
  have back := addSide_back kernel tracks scaled (fun t near => holds _ (by omega) (by omega)) inside
    (show (Vector.replicate channels (wrap64 0))[channel] = wrap64 0 from Vector.getElem_replicate inside)
  have both := addSide_ahead kernel tracks scaled (fun t near => holds _ (by omega) (by omega)) inside back
  have sides := sides_eq kernel tracks inside (show resampler.center + halfWidth up down < input.length by omega)
  have total := abs_add_le (∑ t ∈ Finset.range (halfWidth up down),
        contribution kernel up down input popped channel inside (resampler.center - t))
      (∑ t ∈ Finset.range (halfWidth up down),
        contribution kernel up down input popped channel inside (resampler.center + 1 + t))
  have first := sum_bounds (fun t : Nat => bounded (resampler.center - t)) (halfWidth up down)
  have second := sum_bounds (fun t : Nat => bounded (resampler.center + 1 + t)) (halfWidth up down)
  rw [sides] at total
  rw [Int.zero_add, sides] at both
  rw [Resampler.pop] at took
  split at took
  · cases took
  · cases took
    rw [Vector.getElem_map, tracks.upTerm]
    apply (congrArg Resampler.rounded both).trans
    exact rounded_eq narrow (by omega)

theorem interpolated_push (lowest : LowestTerms fromHz toHz up down) {input : List (Frame channels)} {k channel : Nat}
    (complete : k * down / up + halfWidth up down < input.length) (frame : Frame channels) (inside : channel < channels) :
    interpolated kernel up down (input ++ [frame]) k channel inside = interpolated kernel up down input k channel inside := by
  have far : response kernel up down k input.length = 0 := by
    have place : (input.length : Int) =
        (k * down / up : Nat) + 1 + (input.length - (k * down / up + 1) : Nat) := by omega
    rw [place]
    exact response_ahead (Nat.div_add_mod' (k * down) up) (Nat.mod_lt _ lowest.up_positive) (by omega)
  rw [interpolated, interpolated, List.length_append, List.length_singleton, Finset.sum_range_succ, contribution, far,
    Int.mul_zero, Int.add_zero]
  congr 3
  apply Finset.sum_congr rfl
  intro j member
  have earlier : (j : Int) < input.length := by exact_mod_cast Finset.mem_range.mp member
  rw [contribution, contribution, inputAt_push earlier]

/-- Input is 24 bits wide, and is pushed only after a pop has found too little. -/
def PullOrder (conversion : Conversion channels) : Conversion.Event channels → Prop
  | .push frame => conversion.starved = true ∧ FrameFits24 frame
  | .pop => True

instance (conversion : Conversion channels) (event : Conversion.Event channels) : Decidable (PullOrder conversion event) :=
  match event with
  | .push frame => inferInstanceAs (Decidable (conversion.starved = true ∧ FrameFits24 frame))
  | .pop => .isTrue trivial

/-- What holds of a conversion that keeps to this order. -/
structure Interpolates (kernel : Kernel) (fromHz toHz up down : Nat) (conversion : Conversion channels) : Prop where
  tracks : Tracks fromHz toHz up down conversion.input.length conversion.output.length conversion.resampler
  fits : ∀ frame ∈ conversion.input, FrameFits24 frame
  holds : Holds conversion.resampler conversion.input
  near : conversion.input.length ≤ conversion.output.length * down / up + halfWidth up down + 1
  starved : conversion.starved = true →
    conversion.input.length ≤ conversion.output.length * down / up + halfWidth up down
  complete : ∀ k < conversion.output.length, k * down / up + halfWidth up down < conversion.input.length
  computed : ∀ k frame, conversion.output[k]? = some frame → ∀ channel (inside : channel < channels),
    frame[channel] = interpolated kernel up down conversion.input k channel inside

theorem interpolates_start (lowest : LowestTerms fromHz toHz up down) :
    Interpolates kernel fromHz toHz up down (Conversion.start fromHz toHz : Conversion channels) where
  tracks := Tracks.new lowest
  fits := by simp [Conversion.start]
  holds := holds_new
  near := Nat.zero_le _
  starved _ := Nat.zero_le _
  complete k before := absurd before (Nat.not_lt_zero k)
  computed k frame popped := by simp [Conversion.start] at popped

theorem interpolates_push (lowest : LowestTerms fromHz toHz up down) {conversion : Conversion channels}
    (interpolates : Interpolates kernel fromHz toHz up down conversion) (starved : conversion.starved = true)
    {frame : Frame channels} (fits : FrameFits24 frame) :
    Interpolates kernel fromHz toHz up down (conversion.push frame) := by
  have counted : (conversion.input ++ [frame]).length = conversion.input.length + 1 := by simp
  constructor
  · simpa only [Conversion.push, counted] using interpolates.tracks.push frame
  · intro other member
    rcases List.mem_append.mp member with old | new
    · exact interpolates.fits other old
    · rwa [List.mem_singleton.mp new]
  · exact holds_push interpolates.tracks.pushed interpolates.holds frame
  · simpa only [Conversion.push, counted] using Nat.succ_le_succ (interpolates.starved starved)
  · intro still
    cases still
  · intro k before
    simpa only [Conversion.push, counted] using Nat.lt_succ_of_lt (interpolates.complete k before)
  · intro k popped some channel inside
    obtain ⟨before, _⟩ := List.getElem?_eq_some_iff.mp some
    exact (interpolates.computed k popped some channel inside).trans
      (interpolated_push lowest (interpolates.complete k before) frame inside).symm

theorem asserted_new {resampler : Resampler channels} (settings : Settings fromHz toHz up down resampler)
    (lowest : LowestTerms fromHz toHz up down) (asserted : (Resampler.new fromHz toHz : Resampler channels).Asserted) :
    resampler.Asserted := by
  have original := (Tracks.new lowest : Tracks _ _ _ _ _ _ (Resampler.new fromHz toHz : Resampler channels)).toSettings
  rw [Resampler.Asserted, original.taps, original.upTerm, original.downTerm] at asserted
  rwa [Resampler.Asserted, settings.taps, settings.upTerm, settings.downTerm]

theorem interpolates_pop (lowest : LowestTerms fromHz toHz up down)
    (asserted : (Resampler.new fromHz toHz : Resampler channels).Asserted) {conversion : Conversion channels}
    (interpolates : Interpolates kernel fromHz toHz up down conversion) :
    Interpolates kernel fromHz toHz up down (conversion.pop kernel) := by
  have further := Conversion.step_tracks lowest (rfl : Conversion.step kernel conversion .pop = _) interpolates.tracks
  rcases interpolates.tracks.pop_cases lowest kernel with ⟨few, found⟩ | ⟨enough, frame, after, found, next, same⟩
  · simp only [Conversion.pop, found, Option.toList_none, List.append_nil]
    exact { interpolates with starved := fun _ => few }
  · have counted : (conversion.output ++ [frame]).length = conversion.output.length + 1 := by simp
    have grown : conversion.output.length * down / up ≤ (conversion.output.length + 1) * down / up :=
      Nat.div_le_div_right (Nat.mul_le_mul_right down (Nat.le_succ _))
    have exact := Nat.le_antisymm interpolates.near enough
    simp only [Conversion.pop, found, Option.toList_some, Option.isNone_some, Bool.or_false] at further ⊢
    refine { interpolates with tracks := further, holds := ?_, near := ?_, starved := ?_, complete := ?_, computed := ?_ }
    · intro position after before
      rw [Resampler.frameAt, same]
      exact interpolates.holds position after before
    · have := interpolates.near
      simp only [counted]
      omega
    · intro still
      have := interpolates.starved still
      omega
    · intro k before
      rw [counted] at before
      rcases Nat.lt_succ_iff_lt_or_eq.mp before with old | last
      · exact interpolates.complete k old
      · rwa [last]
    · intro k popped some channel inside
      by_cases old : k < conversion.output.length
      · rw [List.getElem?_append_left old] at some
        exact interpolates.computed k popped some channel inside
      · obtain ⟨before, _⟩ := List.getElem?_eq_some_iff.mp some
        rw [counted] at before
        have last : k = conversion.output.length := Nat.le_antisymm (Nat.le_of_lt_succ before) (Nat.le_of_not_lt old)
        rw [last, List.getElem?_concat_length] at some
        cases some
        rw [last]
        exact pop_interpolated lowest interpolates.tracks (asserted_new interpolates.tracks.toSettings lowest asserted)
          interpolates.fits interpolates.holds exact found inside

theorem run_interpolates (lowest : LowestTerms fromHz toHz up down)
    (asserted : (Resampler.new fromHz toHz : Resampler channels).Asserted) {events : List (Conversion.Event channels)}
    {final : Conversion channels} (ordered : Along (Conversion.step kernel) PullOrder (.start fromHz toHz) events)
    (ran : run (Conversion.step kernel) (.start fromHz toHz) events = some final) :
    Interpolates kernel fromHz toHz up down final := by
  refine run_invariant (Interpolates kernel fromHz toHz up down) ?_ ordered ran (interpolates_start lowest)
  intro before event after allowed stepped holds
  cases event with
  | push frame =>
    cases stepped
    exact interpolates_push lowest holds allowed.1 allowed.2
  | pop =>
    cases stepped
    exact interpolates_pop lowest asserted holds

/-- Every frame a resampler gives out in this order is the interpolation
formula's, in each channel by itself. -/
theorem resampler_interpolates (lowest : LowestTerms fromHz toHz up down)
    (asserted : (Resampler.new fromHz toHz : Resampler channels).Asserted) {events : List (Conversion.Event channels)}
    {final : Conversion channels} (ordered : Along (Conversion.step kernel) PullOrder (.start fromHz toHz) events)
    (ran : run (Conversion.step kernel) (.start fromHz toHz) events = some final) {k : Nat} {frame : Frame channels}
    (popped : final.output[k]? = some frame) {channel : Nat} (inside : channel < channels) :
    frame[channel] = interpolated kernel up down final.input k channel inside := by
  have interpolates := run_interpolates lowest asserted ordered ran
  exact interpolates.computed k frame popped channel inside

/-- Enough input for one frame at 44.1 kHz from one at 48 kHz. -/
def firstPull : List (Conversion.Event 2) :=
  (List.replicate 36 [.pop, .push #v[1000000, -4]]).flatten ++ [.pop]

/-- The first frame of a conversion down, for a flat kernel. -/
theorem resampler_interpolates_first_pull :
    ∃ final frame, run (Conversion.step (Vector.replicate _ (2 ^ 30))) (.start 48000 44100) firstPull = some final ∧
      final.output[0]? = some frame ∧
      ∀ channel (inside : channel < 2),
        frame[channel] = interpolated (Vector.replicate _ (2 ^ 30)) 147 160 final.input 0 channel inside := by
  have lowest : LowestTerms 48000 44100 147 160 := ⟨by decide, by decide, by decide, by decide, by decide, by decide⟩
  have enough : (run (Conversion.step (Vector.replicate _ (2 ^ 30))) (.start 48000 44100) firstPull).any
      (fun final => final.output[0]?.isSome) = true := by decide +kernel
  obtain ⟨final, ran, some⟩ := (Option.any_eq_true _ _).mp enough
  obtain ⟨frame, popped⟩ := Option.isSome_iff_exists.mp some
  exact ⟨final, frame, ran, popped, fun _ inside =>
    resampler_interpolates lowest (by decide +kernel) (by decide +kernel) ran popped inside⟩

end Ak1Driver.Proofs.Resampling
