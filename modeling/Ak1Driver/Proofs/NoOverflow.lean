import Ak1Driver.Proofs.Resampling
import Ak1Driver.Proto.Checked
import Ak1Driver.Proto.Device

/-! The resampler's arithmetic stays within its types. Every bound comes from
the terms of the ratio: a share of the way between two table entries, a gain of
at most one, and as many products as the history has room for. -/

namespace Ak1Driver.Proofs.NoOverflow
open Proto Interpolation Lib.Transition Lib.Checked

variable {channels : Nat} {kernel : Kernel} {resampler : Resampler channels}

/-- What the build promises of its table. -/
def Moderate (kernel : Kernel) : Prop :=
  ∀ index (_ : index < zeroCrossings * steps + 2), |kernel[index].toInt| ≤ 2 ^ 30

/-- The terms of a ratio that a resampler can compute with. -/
structure Bounded (resampler : Resampler channels) : Prop where
  upPositive : 0 < resampler.up
  upSmall : resampler.up ≤ 2 ^ 18
  downSmall : resampler.down ≤ 2 ^ 18
  scalePositive : 0 < resampler.scale
  scaleSmall : resampler.scale ≤ 2 ^ 18
  taps : 2 * resampler.taps < 511
  gain : resampler.gain ≤ 2 ^ 16
  reciprocalPositive : 0 < resampler.reciprocal
  reciprocal : resampler.scale * resampler.reciprocal ≤ 2 ^ 32
  whole : resampler.step.1 ≤ steps
  part : resampler.step.2 < resampler.scale
  within : resampler.phase < resampler.up
  center : resampler.center ≤ 2 ^ 62 + 2 ^ 19
  pushed : resampler.pushed < 2 ^ 62
  fits : ∀ position, FrameFits24 (resampler.frameAt position)

theorem scaled_lt (bounded : Bounded resampler) {fraction : Nat} (within : fraction < resampler.scale) :
    fraction * resampler.reciprocal < 2 ^ 32 :=
  Nat.lt_of_lt_of_le (Nat.mul_lt_mul_of_pos_right within bounded.reciprocalPositive) bounded.reciprocal

/-- How far between its two entries a tap reads the kernel, in units of 1 / 2^16. -/
def weight (resampler : Resampler channels) (fraction : Nat) : Nat := (fraction * resampler.reciprocal) >>> 16

theorem weight_lt (bounded : Bounded resampler) {fraction : Nat} (within : fraction < resampler.scale) :
    weight resampler fraction < 2 ^ 16 := by
  rw [weight, Nat.shiftRight_eq_div_pow]
  apply Nat.div_lt_of_lt_mul
  exact scaled_lt bounded within

/-- The kernel read between two of its entries, before the gain. -/
def between (left right : Int) (weight : Nat) : Int := left + (right - left) * weight / 2 ^ 16

theorem between_abs {left right : Int} {weight : Nat} (small : weight ≤ 2 ^ 16) (leftSmall : |left| ≤ 2 ^ 30)
    (rightSmall : |right| ≤ 2 ^ 30) : |between left right weight| ≤ 2 ^ 30 := by
  obtain ⟨low, high⟩ := between_ends left right small
  obtain ⟨leftLow, leftHigh⟩ := abs_le.mp leftSmall
  obtain ⟨rightLow, rightHigh⟩ := abs_le.mp rightSmall
  apply abs_le.mpr
  exact ⟨(le_min leftLow rightLow).trans low, high.trans (max_le leftHigh rightHigh)⟩

theorem gained_abs {value : Int} {gain : Nat} (small : gain ≤ 2 ^ 16) (bounded : |value| ≤ 2 ^ 30) :
    |value * gain / 2 ^ 16| ≤ 2 ^ 30 := by
  have shared := between_abs small (by decide : |(0 : Int)| ≤ 2 ^ 30) bounded
  simpa only [between, Int.sub_zero, Int.zero_add] using shared

private theorem product_abs {value : Int} {count bound : Nat} (small : |value| ≤ bound) (few : count ≤ 2 ^ 16) :
    |value * count| ≤ bound * 2 ^ 16 := by
  rw [abs_mul, Nat.abs_cast]
  exact Int.mul_le_mul small (by exact_mod_cast few) (Int.natCast_nonneg _) (Int.natCast_nonneg _)

theorem coefficient_safe (moderate : Moderate kernel) (bounded : Bounded resampler) {index fraction : Nat}
    (inside : index < zeroCrossings * steps) (within : fraction < resampler.scale) :
    Resampler.Checked.coefficient kernel resampler index fraction =
        some (resampler.coefficient kernel index fraction inside) ∧
      |resampler.coefficient kernel index fraction inside| ≤ 2 ^ 30 := by
  have next : index + 1 < zeroCrossings * steps + 2 := Nat.lt_succ_of_lt (Nat.succ_lt_succ inside)
  have leftSmall := moderate index (Nat.lt_of_succ_lt next)
  have rightSmall := moderate (index + 1) next
  have small := (weight_lt bounded within).le
  have whole := between_abs small leftSmall rightSmall
  have spanSmall : |kernel[index + 1].toInt - kernel[index].toInt| ≤ (2 ^ 31 : Nat) := by
    have total := abs_sub kernel[index + 1].toInt kernel[index].toInt
    omega
  have productSmall := product_abs spanSmall small
  have gainedSmall := product_abs (show |between kernel[index].toInt kernel[index + 1].toInt _| ≤ (2 ^ 30 : Nat) from whole)
    bounded.gain
  have left : kernel[index]? = some kernel[index] := Vector.getElem?_eq_getElem _
  have right : kernel[index + 1]? = some kernel[index + 1] := Vector.getElem?_eq_getElem _
  simp only [weight, between] at whole productSmall gainedSmall
  simp only [Resampler.Checked.coefficient, Resampler.coefficient, left, right, Option.bind_eq_bind, Option.bind_some,
    unsigned_of_lt 64 (Nat.lt_trans (scaled_lt bounded within) (by decide : 2 ^ 32 < 2 ^ 64)),
    signed_of_abs 64 (lt_of_le_of_lt spanSmall (by decide)), signed_of_abs 64 (lt_of_le_of_lt productSmall (by decide)),
    signed_of_abs 64 (lt_of_le_of_lt whole (by decide))]
  split
  · rw [signed_of_abs 64 (lt_of_le_of_lt gainedSmall (by decide))]
    exact ⟨rfl, gained_abs bounded.gain whole⟩
  · exact ⟨rfl, whole⟩

theorem nextTap_within (bounded : Bounded resampler) (index : Nat) {fraction : Nat} (within : fraction < resampler.scale) :
    (resampler.nextTap index fraction).2 < resampler.scale := by
  have part := bounded.part
  rw [Resampler.nextTap]
  split <;> dsimp only <;> omega

theorem nextTap_safe (bounded : Bounded resampler) {index fraction : Nat} (inside : index < zeroCrossings * steps)
    (within : fraction < resampler.scale) :
    Resampler.Checked.nextTap resampler index fraction = some (resampler.nextTap index fraction) := by
  have scaleSmall := bounded.scaleSmall
  have whole : resampler.step.1 ≤ 256 := bounded.whole
  have part := bounded.part
  have inside : index < 8192 := inside
  have moved : index + resampler.step.1 < 2 ^ 64 := by omega
  have further : fraction + resampler.step.2 < 2 ^ 64 := by omega
  rw [Resampler.Checked.nextTap, Resampler.nextTap, unsigned_of_lt 64 moved, unsigned_of_lt 64 further]
  simp only [Option.bind_eq_bind, Option.bind_some]
  split
  next carried =>
    rw [unsigned_of_lt 64 (by omega), minus_of_le carried]
    rfl
  next => rfl

/-- One turn of the loop: the products and the sums all fit. -/
theorem sums_safe {sums : Vector Int channels} {frame : Frame channels} {count : Nat} {coefficient : Int}
    (few : count < 510) (small : ∀ channel (_ : channel < channels), |sums[channel]| ≤ count * 2 ^ 53)
    (fits : FrameFits24 frame) (moderate : |coefficient| ≤ 2 ^ 30) :
    (Resampler.Checked.wide (frame.map (· * coefficient))).bind
        (fun products => Resampler.Checked.wide (sums.zipWith (· + ·) products)) =
      some (sums.zipWith (fun sum sample => wrap64 (sum + sample * coefficient)) frame) ∧
    ∀ channel (_ : channel < channels),
      |(sums.zipWith (fun sum sample => wrap64 (sum + sample * coefficient)) frame)[channel]| ≤ (count + 1 : Nat) * 2 ^ 53 := by
  have product : ∀ channel (_ : channel < channels), |frame[channel] * coefficient| ≤ 2 ^ 53 := by
    intro channel inside
    obtain ⟨low, high⟩ := fits channel inside
    have sample : |frame[channel]| ≤ 2 ^ 23 := abs_le.mpr ⟨low, high.le⟩
    rw [abs_mul]
    exact Int.mul_le_mul sample moderate (abs_nonneg _) (by decide)
  have total : ∀ channel (_ : channel < channels), |sums[channel] + frame[channel] * coefficient| ≤ (count + 1 : Nat) * 2 ^ 53 := by
    intro channel inside
    have both := abs_add_le sums[channel] (frame[channel] * coefficient)
    have one := small channel inside
    have other := product channel inside
    omega
  have unwrapped : ∀ channel (_ : channel < channels),
      wrap64 (sums[channel] + frame[channel] * coefficient) = sums[channel] + frame[channel] * coefficient := by
    intro channel inside
    obtain ⟨low, high⟩ := abs_le.mp (total channel inside)
    apply Resampling.wrap64_small <;> omega
  have products : Resampler.Checked.Wide (frame.map (· * coefficient)) := by
    intro channel inside
    rw [Vector.getElem_map]
    exact lt_of_le_of_lt (product channel inside) (by decide)
  have added : sums.zipWith (· + ·) (frame.map (· * coefficient)) =
      sums.zipWith (fun sum sample => wrap64 (sum + sample * coefficient)) frame := by
    apply Vector.ext
    intro channel inside
    rw [Vector.getElem_zipWith, Vector.getElem_zipWith, Vector.getElem_map, unwrapped channel inside]
  have after : ∀ channel (_ : channel < channels),
      |(sums.zipWith (fun sum sample => wrap64 (sum + sample * coefficient)) frame)[channel]| ≤ (count + 1 : Nat) * 2 ^ 53 := by
    intro channel inside
    rw [Vector.getElem_zipWith, unwrapped channel inside]
    exact total channel inside
  refine ⟨?_, after⟩
  rw [Resampler.Checked.wide, if_pos products, Option.bind_some, added, Resampler.Checked.wide, if_pos]
  intro channel inside
  have := after channel inside
  omega

theorem addTaps_safe (moderate : Moderate kernel) (bounded : Bounded resampler) {first direction : Int}
    (near : |first| ≤ 2 ^ 62 + 2 ^ 20) (unit : |direction| ≤ 1) (left tap index fraction : Nat)
    (sums : Vector Int channels) (count : Nat) (few : count + left ≤ 510) (narrow : tap + left < 256)
    (within : fraction < resampler.scale)
    (small : ∀ channel (_ : channel < channels), |sums[channel]| ≤ count * 2 ^ 53) :
    Resampler.Checked.addTaps kernel resampler first direction left tap index fraction sums =
        some (resampler.addTaps kernel first direction left tap index fraction sums) ∧
      ∀ channel (_ : channel < channels),
        |(resampler.addTaps kernel first direction left tap index fraction sums)[channel]| ≤ (count + left : Nat) * 2 ^ 53 := by
  induction left generalizing tap index fraction sums count with
  | zero => exact ⟨rfl, small⟩
  | succ left ih =>
    by_cases inside : index < zeroCrossings * steps
    · obtain ⟨read, weighed⟩ := coefficient_safe moderate bounded inside within
      obtain ⟨summed, after⟩ := sums_safe (by omega) small (bounded.fits (first + direction * tap)) weighed
      have turned : |direction * tap| ≤ 2 ^ 8 := by
        rw [abs_mul, Nat.abs_cast]
        calc |direction| * (tap : Int) ≤ 1 * 2 ^ 8 := Int.mul_le_mul unit (by omega) (by omega) (by decide)
          _ = 2 ^ 8 := by decide
      have moved : |first + direction * tap| < 2 ^ 63 := by
        have both := abs_add_le first (direction * tap)
        omega
      obtain ⟨rest, total⟩ := ih (tap + 1) (resampler.nextTap index fraction).1 (resampler.nextTap index fraction).2 _
        (count + 1) (by omega) (by omega) (nextTap_within bounded index within) after
      rw [Resampler.Checked.addTaps, if_pos inside, Resampler.addTaps, dif_pos inside]
      simp only [Option.bind_eq_bind, read, Option.bind_some, signed_of_abs 64 (lt_of_le_of_lt turned (by decide)),
        signed_of_abs 64 moved]
      rw [← Option.bind_assoc, summed, Option.bind_some, nextTap_safe bounded inside within, Option.bind_some]
      refine ⟨rest, ?_⟩
      rwa [Nat.add_right_comm] at total
    · rw [Resampler.Checked.addTaps, if_neg inside, Resampler.addTaps, dif_neg inside]
      refine ⟨rfl, ?_⟩
      intro channel within
      have := small channel within
      omega

theorem addSide_safe (moderate : Moderate kernel) (bounded : Bounded resampler) {direction : Int} (unit : |direction| ≤ 1)
    {distance : Nat} (close : distance ≤ 2 ^ 18) {sums : Vector Int channels} {count : Nat}
    (few : count + resampler.taps ≤ 510)
    (small : ∀ channel (_ : channel < channels), |sums[channel]| ≤ count * 2 ^ 53) :
    Resampler.Checked.addSide kernel resampler sums direction distance =
        some (resampler.addSide kernel sums direction distance) ∧
      ∀ channel (_ : channel < channels),
        |(resampler.addSide kernel sums direction distance)[channel]| ≤ (count + resampler.taps : Nat) * 2 ^ 53 := by
  have center := bounded.center
  have narrow := bounded.taps
  have located : distance * steps < 2 ^ 64 := by
    have := Nat.mul_le_mul_right steps close
    exact Nat.lt_of_le_of_lt this (by decide)
  have near : |if direction < 0 then (resampler.center : Int) else resampler.center + 1| ≤ 2 ^ 62 + 2 ^ 20 := by
    split <;> apply abs_le.mpr <;> omega
  have first : Resampler.Checked.first resampler direction =
      some (if direction < 0 then (resampler.center : Int) else resampler.center + 1) := by
    rw [Resampler.Checked.first]
    split
    · rfl
    · exact signed_of_abs 64 (abs_lt.mpr (by omega))
  obtain ⟨added, total⟩ := addTaps_safe moderate bounded near unit resampler.taps 0 (distance * steps / resampler.scale)
    (distance * steps % resampler.scale) sums count few (by omega) (Nat.mod_lt _ bounded.scalePositive) small
  rw [Resampler.Checked.addSide, Resampler.addSide]
  simp only [Option.bind_eq_bind, unsigned_of_lt 64 located, Option.bind_some, quotient_of_pos bounded.scalePositive,
    remainder_of_pos bounded.scalePositive, first]
  exact ⟨added, total⟩

/-- Both sides together add fewer than 511 products. -/
theorem popped_safe (moderate : Moderate kernel) (bounded : Bounded resampler)
    (enough : ¬ (resampler.up = 0 ∨ resampler.pushed ≤ resampler.center + resampler.taps)) :
    (Resampler.Checked.popped kernel resampler).map (fun (frame, resampler) => (some frame, resampler)) =
      some (resampler.pop kernel) := by
  have upSmall := bounded.upSmall
  have downSmall := bounded.downSmall
  have within := bounded.within
  have narrow := bounded.taps
  have center := bounded.center
  have start : ∀ channel (_ : channel < channels), |(Vector.replicate channels (0 : Int))[channel]| ≤ (0 : Nat) * 2 ^ 53 := by
    intro channel inside
    rw [Vector.getElem_replicate]
    decide
  obtain ⟨back, half⟩ := addSide_safe moderate bounded (by decide : |(-1 : Int)| ≤ 1)
    (show resampler.phase ≤ 2 ^ 18 by omega) (by omega) start
  obtain ⟨ahead, total⟩ := addSide_safe moderate bounded (by decide : |(1 : Int)| ≤ 1)
    (show resampler.up - resampler.phase ≤ 2 ^ 18 by omega) (by omega) half
  generalize summed : resampler.addSide kernel (resampler.addSide kernel (Vector.replicate channels 0) (-1) resampler.phase)
    1 (resampler.up - resampler.phase) = sums at ahead total
  have fits : ∀ channel (_ : channel < channels), |sums[channel] + 2 ^ 29| < 2 ^ 62 + 2 ^ 30 := by
    intro channel inside
    have := abs_le.mp (total channel inside)
    apply abs_lt.mpr
    omega
  have phase : resampler.phase + resampler.down < 2 ^ 32 := by omega
  have more : (resampler.phase + resampler.down) / resampler.up ≤ 2 ^ 19 :=
    Nat.le_trans (Nat.div_le_self _ _) (by omega)
  have moved : resampler.center + (resampler.phase + resampler.down) / resampler.up < 2 ^ 63 := by omega
  have wide : Resampler.Checked.Wide (sums.map (· + 2 ^ 29)) := by
    intro channel inside
    rw [Vector.getElem_map]
    exact lt_trans (fits channel inside) (by decide)
  have rounds : (sums.map (· + 2 ^ 29)).map (fun sum => clamp (sum / 2 ^ 30) minSample maxSample) =
      sums.map Resampler.rounded := by
    apply Vector.ext
    intro channel inside
    have ⟨low, high⟩ := abs_lt.mp (fits channel inside)
    rw [Vector.getElem_map, Vector.getElem_map, Vector.getElem_map, Resampler.rounded,
      Resampling.wrap64_small (by omega) (by omega)]
  rw [Resampler.Checked.popped, Resampler.pop, if_neg enough]
  simp only [Option.bind_eq_bind, back, minus_of_le within.le, ahead, unsigned_of_lt 32 phase,
    quotient_of_pos bounded.upPositive, remainder_of_pos bounded.upPositive, unsigned_of_lt 63 moved, Option.bind_some,
    Nat.mod_eq_of_lt phase, summed, Resampler.Checked.wide, if_pos wide, rounds, Option.map_some]

theorem pop_safe (moderate : Moderate kernel) (bounded : Bounded resampler) :
    Resampler.Checked.pop kernel resampler = some (resampler.pop kernel) := by
  have center := bounded.center
  have narrow := bounded.taps
  have needed : resampler.center + resampler.taps < 2 ^ 63 := by omega
  rw [Resampler.Checked.pop, if_neg (Nat.ne_of_gt bounded.upPositive)]
  simp only [Option.bind_eq_bind, unsigned_of_lt 63 needed, Option.bind_some]
  by_cases few : resampler.pushed ≤ resampler.center + resampler.taps
  · rw [if_pos few, Resampler.pop, if_pos (Or.inr few)]
  · rw [if_neg few]
    exact popped_safe moderate bounded (not_or.mpr ⟨Nat.ne_of_gt bounded.upPositive, few⟩)

theorem push_safe (bounded : Bounded resampler) (frame : Frame channels) :
    Resampler.Checked.push resampler frame = some (resampler.push frame) := by
  have counted := bounded.pushed
  have pushed : resampler.pushed + 1 < 2 ^ 63 := by omega
  simp only [Resampler.Checked.push, Option.bind_eq_bind, unsigned_of_lt 63 pushed, Option.bind_some, Resampler.push]

/-- Where the loop over taps on one side reads the kernel at each turn. -/
def tapAt (resampler : Resampler channels) (distance : Nat) : Nat → Nat × Nat
  | 0 => (distance * steps / resampler.scale, distance * steps % resampler.scale)
  | tap + 1 => resampler.nextTap (tapAt resampler distance tap).1 (tapAt resampler distance tap).2

theorem tapAt_within (bounded : Bounded resampler) (distance tap : Nat) :
    (tapAt resampler distance tap).2 < resampler.scale := by
  induction tap with
  | zero => exact Nat.mod_lt _ bounded.scalePositive
  | succ tap ih => exact nextTap_within bounded _ ih

/-- Everything a resampler may be asked to compute next fits its type. -/
structure Safe (kernel : Kernel) (resampler : Resampler channels) : Prop where
  push : ∀ frame, Resampler.Checked.push resampler frame = some (resampler.push frame)
  pop : Resampler.Checked.pop kernel resampler = some (resampler.pop kernel)
  popped : ∀ frame, (resampler.pop kernel).1 = some frame → FrameFits24 frame
  weight : ∀ distance tap, weight resampler (tapAt resampler distance tap).2 < 2 ^ 16
  between : ∀ distance tap (_ : (tapAt resampler distance tap).1 + 1 < zeroCrossings * steps + 2),
    let left := kernel[(tapAt resampler distance tap).1].toInt
    let right := kernel[(tapAt resampler distance tap).1 + 1].toInt
    let read := between left right (NoOverflow.weight resampler (tapAt resampler distance tap).2)
    min left right ≤ read ∧ read ≤ max left right

theorem clamp_fits (sample : Int) : Fits24 (clamp sample minSample maxSample) := by
  simp only [Fits24, clamp, minSample, maxSample]
  omega

theorem pop_fits (resampler : Resampler channels) {frame : Frame channels}
    (popped : (resampler.pop kernel).1 = some frame) : FrameFits24 frame := by
  rw [Resampler.pop] at popped
  split at popped
  · cases popped
  · cases popped
    intro channel inside
    rw [Vector.getElem_map]
    exact clamp_fits _

theorem safe_of_bounded (moderate : Moderate kernel) (bounded : Bounded resampler) : Safe kernel resampler where
  push := push_safe bounded
  pop := pop_safe moderate bounded
  popped _ := pop_fits resampler
  weight distance tap := weight_lt bounded (tapAt_within bounded distance tap)
  between distance tap _ := between_ends _ _ (weight_lt bounded (tapAt_within bounded distance tap)).le

variable {fromHz toHz up down : Nat}

theorem lowest_of_rates (fromPositive : 0 < fromHz) (toPositive : 0 < toHz) (fromSmall : fromHz < 2 ^ 31)
    (toSmall : toHz < 2 ^ 31) :
    LowestTerms fromHz toHz (toHz / Nat.gcd fromHz toHz) (fromHz / Nat.gcd fromHz toHz) where
  fromPositive := fromPositive
  toPositive := toPositive
  fromSmall := fromSmall
  toSmall := toSmall
  coprime := (Nat.coprime_div_gcd_div_gcd (Nat.gcd_pos_of_pos_left toHz fromPositive)).symm
  ratio := by
    rw [← Nat.mul_div_assoc _ (Nat.gcd_dvd_left _ _), ← Nat.mul_div_assoc _ (Nat.gcd_dvd_right _ _), Nat.mul_comm]

theorem terms_small (lowest : LowestTerms fromHz toHz up down) (fromSmall : fromHz ≤ 2 ^ 18) (toSmall : toHz ≤ 2 ^ 18) :
    up ≤ 2 ^ 18 ∧ down ≤ 2 ^ 18 := by
  obtain ⟨positive, input, output⟩ := lowest.split
  constructor
  · exact Nat.le_trans (output ▸ Nat.le_mul_of_pos_right up positive) toSmall
  · exact Nat.le_trans (input ▸ Nat.le_mul_of_pos_right down positive) fromSmall

/-- Frames that fit the card in the history, as every push keeps them. -/
def Stored (conversion : Conversion channels) : Prop := ∀ position, FrameFits24 (conversion.resampler.frameAt position)

theorem stored_start : Stored (Conversion.start fromHz toHz : Conversion channels) := by
  intro position channel inside
  have silent : (Conversion.start fromHz toHz : Conversion channels).resampler.frameAt position = silence :=
    Vector.getElem_replicate _
  rw [silent, silence, Vector.getElem_replicate]
  decide

theorem stored_step {conversion after : Conversion channels} {event : Conversion.Event channels}
    (allowed : Resampling.PullOrder conversion event) (stepped : Conversion.step kernel conversion event = some after)
    (stored : Stored conversion) : Stored after := by
  cases event with
  | push frame =>
    cases stepped
    intro position
    simp only [Conversion.push, Resampling.frameAt_push]
    split
    · exact allowed.2
    · exact stored position
  | pop =>
    cases stepped
    intro position
    have same : (conversion.resampler.pop kernel).2.history = conversion.resampler.history := by
      rw [Resampler.pop]
      split <;> rfl
    rw [Resampler.frameAt, Conversion.pop, same]
    exact stored position

private theorem reciprocal_bounds {scale : Nat} (positive : 0 < scale) (small : scale ≤ 2 ^ 18) :
    0 < 2 ^ 32 / scale ∧ scale * (2 ^ 32 / scale) ≤ 2 ^ 32 := by
  constructor
  · exact Nat.div_pos (Nat.le_trans small (by decide)) positive
  · exact Nat.mul_div_le _ _

theorem settings_bounds (lowest : LowestTerms fromHz toHz up down) (settings : Settings fromHz toHz up down resampler) :
    resampler.gain ≤ 2 ^ 16 ∧ resampler.step.1 ≤ steps ∧ resampler.step.2 < resampler.scale := by
  have positive : 0 < max up down := Nat.lt_of_lt_of_le lowest.up_positive (Nat.le_max_left up down)
  rw [settings.gain, settings.step, settings.scale]
  refine ⟨?_, ?_, Nat.mod_lt _ positive⟩
  · split
    next lower =>
      apply Nat.div_le_of_le_mul
      exact Nat.mul_le_mul_right _ lower.le
    next => exact Nat.zero_le _
  · apply Nat.div_le_of_le_mul
    exact Nat.mul_le_mul_right _ (Nat.le_max_left up down)

/-- The next output lies at most one step past input that is there. -/
theorem center_le (lowest : LowestTerms fromHz toHz up down) (small : down ≤ 2 ^ 18) {conversion : Conversion channels}
    (interpolates : Resampling.Interpolates kernel fromHz toHz up down conversion)
    (short : conversion.input.length < 2 ^ 62) : conversion.resampler.center ≤ 2 ^ 62 + 2 ^ 19 := by
  rw [interpolates.tracks.center]
  rcases Nat.eq_zero_or_pos conversion.output.length with none | some
  · rw [none, Nat.zero_mul, Nat.zero_div]
    exact Nat.zero_le _
  · have last := interpolates.complete (conversion.output.length - 1) (by omega)
    have split : conversion.output.length * down = (conversion.output.length - 1) * down + down := by
      rw [← Nat.succ_mul]
      congr 1
      omega
    have grown : conversion.output.length * down / up ≤ (conversion.output.length - 1) * down / up + down / up + 1 := by
      rw [split, Nat.add_div lowest.up_positive]
      exact Nat.add_le_add_left (by split <;> omega) _
    have one : down / up ≤ down := Nat.div_le_self _ _
    omega

theorem bounded_of_interpolates (lowest : LowestTerms fromHz toHz up down) (fromSmall : fromHz ≤ 2 ^ 18)
    (toSmall : toHz ≤ 2 ^ 18) (asserted : (Resampler.new fromHz toHz : Resampler channels).Asserted)
    {conversion : Conversion channels} (interpolates : Resampling.Interpolates kernel fromHz toHz up down conversion)
    (stored : Stored conversion) (short : conversion.input.length < 2 ^ 62) : Bounded conversion.resampler := by
  have settings := interpolates.tracks.toSettings
  have narrow := Resampling.asserted_new settings lowest asserted
  obtain ⟨upSmall, downSmall⟩ := terms_small lowest fromSmall toSmall
  obtain ⟨gain, whole, part⟩ := settings_bounds lowest settings
  have positive : 0 < max up down := Nat.lt_of_lt_of_le lowest.up_positive (Nat.le_max_left up down)
  have scaleSmall : max up down ≤ 2 ^ 18 := Nat.max_le.mpr ⟨upSmall, downSmall⟩
  obtain ⟨reciprocalPositive, reciprocal⟩ := reciprocal_bounds positive scaleSmall
  simp only [Resampler.Asserted, historyFrames] at narrow
  constructor
  · exact settings.upTerm ▸ lowest.up_positive
  · exact settings.upTerm ▸ upSmall
  · exact settings.downTerm ▸ downSmall
  · exact settings.scale ▸ positive
  · exact settings.scale ▸ scaleSmall
  · omega
  · exact gain
  · exact settings.reciprocal ▸ reciprocalPositive
  · rw [settings.scale, settings.reciprocal]
    exact reciprocal
  · exact whole
  · exact part
  · exact settings.upTerm ▸ interpolates.tracks.within
  · exact center_le lowest downSmall interpolates short
  · exact interpolates.tracks.pushed ▸ short
  · exact stored

theorem reset_safe (lowest : LowestTerms fromHz toHz up down) (fromSmall : fromHz ≤ 2 ^ 18) (toSmall : toHz ≤ 2 ^ 18)
    (asserted : (Resampler.new fromHz toHz : Resampler channels).Asserted) (resampler : Resampler channels) :
    Resampler.Checked.reset resampler fromHz toHz = some (.new fromHz toHz) := by
  obtain ⟨positive, input, output⟩ := lowest.split
  obtain ⟨upSmall, downSmall⟩ := terms_small lowest fromSmall toSmall
  have upTerm : toHz / Proto.gcd fromHz toHz = up := Nat.div_eq_of_eq_mul_left positive output
  have downTerm : fromHz / Proto.gcd fromHz toHz = down := Nat.div_eq_of_eq_mul_left positive input
  have scalePositive : 0 < max up down := Nat.lt_of_lt_of_le lowest.up_positive (Nat.le_max_left up down)
  have width : zeroCrossings * max up down < 2 ^ 64 := by
    have : max up down ≤ 2 ^ 18 := Nat.max_le.mpr ⟨upSmall, downSmall⟩
    simp only [zeroCrossings]
    omega
  have stepped : up * steps < 2 ^ 64 := by
    simp only [steps]
    omega
  have taps : Resampler.Checked.taps (zeroCrossings * max up down) up = some (halfWidth up down) := by
    have narrow : halfWidth up down < 2 ^ 63 := by
      have := asserted
      rw [Resampler.Asserted, (Tracks.new lowest : Tracks _ _ _ _ _ _ (Resampler.new fromHz toHz : Resampler channels)).taps]
        at this
      simp only [historyFrames] at this
      omega
    rw [Resampler.Checked.taps, if_neg (Nat.ne_of_gt lowest.up_positive)]
    exact unsigned_of_lt 63 narrow
  have gain : Resampler.Checked.gain up down = some (if up < down then up * 2 ^ 16 / down else 0) := by
    rw [Resampler.Checked.gain]
    split
    · have shifted : signed 64 (up * 2 ^ 16) = some ((up * 2 ^ 16 : Nat) : Int) := by
        rw [Nat.cast_mul, Nat.cast_pow]
        apply signed_of_abs 64
        apply abs_lt.mpr
        omega
      rw [shifted, Option.bind_some, quotient_of_pos lowest.down_positive, Int.toNat_natCast]
    · rfl
  simp only [Resampler.Checked.reset, Option.bind_eq_bind, quotient_of_pos positive, Option.bind_some, upTerm, downTerm,
    unsigned_of_lt 64 width, taps, gain, quotient_of_pos scalePositive, unsigned_of_lt 64 stepped,
    remainder_of_pos scalePositive]
  have same : ({ resampler with
      rates := (fromHz, toHz), up, down, scale := max up down, taps := halfWidth up down
      gain := if up < down then up * 2 ^ 16 / down else 0, reciprocal := 2 ^ 32 / max up down
      step := (up * steps / max up down, up * steps % max up down)
      pushed := 0
      center := 0
      phase := 0
      history := Vector.replicate historyFrames silence } : Resampler channels) = .new fromHz toHz := by
    simp only [Resampler.new, Resampler.reset, upTerm, downTerm, halfWidth]
  rw [same, if_pos asserted]

theorem rates_asserted (fromRate toRate : SampleRate) :
    (Resampler.new fromRate.hz toRate.hz : Resampler channels).Asserted := by
  simp only [Resampler.Asserted, Resampler.new, Resampler.reset]
  cases fromRate <;> cases toRate <;> decide +kernel

theorem rate_positive (rate : SampleRate) : 0 < rate.hz := by cases rate <;> decide

theorem rate_small (rate : SampleRate) : rate.hz ≤ 2 ^ 18 := by cases rate <;> decide

theorem rates_lowest (fromRate toRate : SampleRate) :
    LowestTerms fromRate.hz toRate.hz (toRate.hz / Nat.gcd fromRate.hz toRate.hz)
      (fromRate.hz / Nat.gcd fromRate.hz toRate.hz) := by
  have narrow (rate : SampleRate) : rate.hz < 2 ^ 31 := Nat.lt_of_le_of_lt (rate_small rate) (by decide)
  exact lowest_of_rates (rate_positive fromRate) (rate_positive toRate) (narrow fromRate) (narrow toRate)

/-- At any two of the card's rates, whatever frames of 24-bit samples were
pushed and popped so far, nothing a resampler computes next leaves its type,
and its outputs fit 24 bits. -/
theorem arithmetic_safe (moderate : Moderate kernel) {fromRate toRate : SampleRate}
    {events : List (Conversion.Event channels)} {final : Conversion channels}
    (ordered : Along (Conversion.step kernel) Resampling.PullOrder (.start fromRate.hz toRate.hz) events)
    (ran : run (Conversion.step kernel) (.start fromRate.hz toRate.hz) events = some final)
    (short : final.input.length < 2 ^ 62) :
    (∀ resampler : Resampler channels,
      Resampler.Checked.reset resampler fromRate.hz toRate.hz = some (.new fromRate.hz toRate.hz)) ∧
    Safe kernel final.resampler := by
  have lowest := rates_lowest fromRate toRate
  have asserted := @rates_asserted channels fromRate toRate
  refine ⟨reset_safe lowest (rate_small fromRate) (rate_small toRate) asserted, ?_⟩
  have interpolates := Resampling.run_interpolates lowest asserted ordered ran
  have stored : Stored final :=
    run_invariant Stored (fun _ _ _ allowed stepped stored => stored_step allowed stepped stored) ordered ran stored_start
  exact safe_of_bounded moderate
    (bounded_of_interpolates lowest (rate_small fromRate) (rate_small toRate) asserted interpolates stored short)

/-- A first frame at 44.1 kHz from 48 kHz, for a flat kernel. -/
theorem arithmetic_safe_first_pull :
    ∃ final, run (Conversion.step (Vector.replicate _ (2 ^ 30))) (.start 48000 44100) Resampling.firstPull = some final ∧
      final.output.length = 1 ∧
      (∀ resampler : Resampler 2, Resampler.Checked.reset resampler 48000 44100 = some (.new 48000 44100)) ∧
      Safe (Vector.replicate _ (2 ^ 30)) final.resampler := by
  have runs : (run (Conversion.step (Vector.replicate _ (2 ^ 30))) (.start 48000 44100) Resampling.firstPull).any
      (fun final => decide (final.output.length = 1 ∧ final.input.length < 2 ^ 62)) = true := by decide +kernel
  obtain ⟨final, ran, checked⟩ := (Option.any_eq_true _ _).mp runs
  obtain ⟨one, short⟩ := of_decide_eq_true checked
  have moderate : Moderate (Vector.replicate _ (2 ^ 30)) := by
    intro index inside
    rw [Vector.getElem_replicate]
    decide
  have safe := @arithmetic_safe 2 _ moderate .hz48000 .hz44100 _ _ (by decide +kernel) ran short
  exact ⟨final, ran, one, safe⟩

end Ak1Driver.Proofs.NoOverflow
