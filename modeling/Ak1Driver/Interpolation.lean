import Ak1Driver.Conversion
import Ak1Driver.Lib.Sides

/-! The interpolation formula in closed form: an output frame weights every
input frame by the kernel at their exact distance, which is a multiple of one
`up`-th of an input frame. Frames before the first one are silent. -/

namespace Ak1Driver.Interpolation
open Proto

/-- The kernel at a position in units of 1 / (`steps` * the larger term), read
linearly between two entries; its end and everything past it is zero. -/
def weightAt (kernel : Kernel) (up down position : Nat) : Int :=
  let scale := max up down
  if inside : position / scale < zeroCrossings * steps then
    have next : position / scale + 1 < zeroCrossings * steps + 2 := Nat.lt_succ_of_lt (Nat.succ_lt_succ inside)
    let left := kernel[position / scale].toInt
    let right := kernel[position / scale + 1].toInt
    let weight : Nat := position % scale * (2 ^ 32 / scale) / 2 ^ 16
    let between := left + (right - left) * weight / 2 ^ 16
    if up < down then between * (up * 2 ^ 16 / down : Nat) / 2 ^ 16 else between
  else 0

/-- The distance of an input frame from output frame number `k`, in units of 1 / `up`. -/
def distance (up down k : Nat) (j : Int) : Nat := (k * down - j * up).natAbs

def response (kernel : Kernel) (up down k : Nat) (j : Int) : Int :=
  weightAt kernel up down (distance up down k j * steps)

def inputAt {channels : Nat} (input : List (Frame channels)) (j : Int) : Frame channels :=
  if j < 0 then silence else input.getD j.toNat silence

/-- What input frame number `j` adds to a channel of output frame number `k`. -/
def contribution {channels : Nat} (kernel : Kernel) (up down : Nat) (input : List (Frame channels)) (k channel : Nat)
    (inside : channel < channels) (j : Int) : Int :=
  (inputAt input j)[channel] * response kernel up down k j

/-- A channel of output frame number `k`. -/
def interpolated {channels : Nat} (kernel : Kernel) (up down : Nat) (input : List (Frame channels)) (k channel : Nat)
    (inside : channel < channels) : Int :=
  clamp ((2 ^ 29 + ∑ j ∈ Finset.range input.length, contribution kernel up down input k channel inside j) / 2 ^ 30)
    minSample maxSample

variable {channels up down k : Nat} {kernel : Kernel} {input : List (Frame channels)} {frame : Frame channels}

theorem inputAt_push {j : Int} (inside : j < input.length) : inputAt (input ++ [frame]) j = inputAt input j := by
  by_cases before : j < 0
  · rw [inputAt, inputAt, if_pos before, if_pos before]
  · rw [inputAt, inputAt, if_neg before, if_neg before]
    simp only [List.getD_eq_getElem?_getD]
    rw [List.getElem?_append_left (by omega)]

theorem inputAt_last : inputAt (input ++ [frame]) input.length = frame := by
  rw [inputAt, if_neg (by omega)]
  simp

theorem inputAt_before {j : Int} (before : j < 0) : inputAt input j = silence := if_pos before

/-- A value between two others by a share of 1 / 2^16 lies between them. -/
theorem between_ends (left right : Int) {weight : Nat} (small : weight ≤ 2 ^ 16) :
    min left right ≤ left + (right - left) * weight / 2 ^ 16 ∧
      left + (right - left) * weight / 2 ^ 16 ≤ max left right := by
  have span : (2 : Int) ^ 16 = 65536 := rfl
  have weightLow : (0 : Int) ≤ weight := Int.natCast_nonneg _
  have weightHigh : (weight : Int) ≤ 65536 := by exact_mod_cast small
  rw [span]
  rcases Int.le_total left right with up | down
  · have low : 0 ≤ (right - left) * weight / 65536 := Int.ediv_nonneg (Int.mul_nonneg (by omega) weightLow) (by omega)
    have high : (right - left) * weight / 65536 ≤ right - left :=
      Int.ediv_le_of_le_mul (by omega) (Int.mul_le_mul_of_nonneg_left weightHigh (by omega))
    omega
  · have low : right - left ≤ (right - left) * weight / 65536 := by
      apply Int.le_ediv_of_mul_le (by omega)
      exact Int.mul_le_mul_of_nonpos_left (by omega) weightHigh
    have high : (right - left) * weight / 65536 ≤ 0 :=
      Int.ediv_le_of_le_mul (by omega) (by simpa using Int.mul_nonpos_of_nonpos_of_nonneg (by omega) weightLow)
    omega

private theorem between_bounds {left right : Int} {weight bound : Nat} (small : weight ≤ 2 ^ 16)
    (leftLow : -(bound : Int) ≤ left) (leftHigh : left ≤ bound) (rightLow : -(bound : Int) ≤ right)
    (rightHigh : right ≤ bound) :
    -(bound : Int) ≤ left + (right - left) * weight / 2 ^ 16 ∧ left + (right - left) * weight / 2 ^ 16 ≤ bound := by
  obtain ⟨low, high⟩ := between_ends left right small
  exact ⟨(le_min leftLow rightLow).trans low, high.trans (max_le leftHigh rightHigh)⟩

private theorem gained_bounds {value : Int} {gain bound : Nat} (small : gain ≤ 2 ^ 16) (low : -(bound : Int) ≤ value)
    (high : value ≤ bound) : -(bound : Int) ≤ value * gain / 2 ^ 16 ∧ value * gain / 2 ^ 16 ≤ bound := by
  have bounds := @between_bounds 0 value gain bound small (by omega) (by omega) low high
  simpa using bounds

theorem weightAt_bounds (positive : 0 < up) (position : Nat) :
    -(2 ^ 31 : Int) ≤ weightAt kernel up down position ∧ weightAt kernel up down position ≤ 2 ^ 31 := by
  have scalePositive : 0 < max up down := Nat.lt_of_lt_of_le positive (Nat.le_max_left up down)
  have weightSmall : position % max up down * (2 ^ 32 / max up down) / 2 ^ 16 ≤ 2 ^ 16 := by
    apply Nat.div_le_of_le_mul
    calc position % max up down * (2 ^ 32 / max up down)
        ≤ max up down * (2 ^ 32 / max up down) := Nat.mul_le_mul_right _ (Nat.mod_lt _ scalePositive).le
      _ ≤ 2 ^ 32 := Nat.mul_div_le _ _
  by_cases inside : position / max up down < zeroCrossings * steps
  · have next : position / max up down + 1 < zeroCrossings * steps + 2 := Nat.lt_succ_of_lt (Nat.succ_lt_succ inside)
    have bounds := @between_bounds kernel[position / max up down].toInt kernel[position / max up down + 1].toInt _ (2 ^ 31)
      weightSmall (Int32.le_toInt _) (Int32.toInt_lt _).le (Int32.le_toInt _) (Int32.toInt_lt _).le
    by_cases lower : up < down
    · have gainSmall : up * 2 ^ 16 / down ≤ 2 ^ 16 := by
        apply Nat.div_le_of_le_mul
        exact Nat.mul_le_mul_right _ lower.le
      rw [weightAt, dif_pos inside, if_pos lower]
      exact gained_bounds gainSmall bounds.1 bounds.2
    · rw [weightAt, dif_pos inside, if_neg lower]
      exact bounds
  · rw [weightAt, dif_neg inside]
    decide

/-- Past half its width the kernel is zero. -/
theorem response_far (positive : 0 < up) {j : Int} (far : halfWidth up down * up ≤ distance up down k j) :
    response kernel up down k j = 0 := by
  have scalePositive : 0 < max up down := Nat.lt_of_lt_of_le positive (Nat.le_max_left up down)
  have width : zeroCrossings * max up down ≤ up * halfWidth up down := le_smul_ceilDiv positive
  have beyond : ¬ distance up down k j * steps / max up down < zeroCrossings * steps := by
    apply Nat.not_lt_of_le
    apply (Nat.le_div_iff_mul_le scalePositive).mpr
    rw [Nat.mul_right_comm]
    apply Nat.mul_le_mul_right
    rw [Nat.mul_comm] at far
    exact Nat.le_trans width far
  rw [response, weightAt, dif_neg beyond]

theorem distance_back {center phase : Nat} (position : center * up + phase = k * down) (t : Nat) :
    distance up down k (center - t) = phase + t * up := by
  rw [distance, Int.sub_mul]
  omega

theorem distance_ahead {center phase : Nat} (position : center * up + phase = k * down) (within : phase < up) (t : Nat) :
    distance up down k (center + 1 + t) = up - phase + t * up := by
  rw [distance, Int.add_mul, Int.add_mul]
  omega

theorem response_back (positive : 0 < up) {center phase : Nat} (position : center * up + phase = k * down) {t : Nat}
    (far : halfWidth up down ≤ t) : response kernel up down k (center - t) = 0 := by
  apply response_far positive
  rw [distance_back position]
  exact Nat.le_add_left_of_le (Nat.mul_le_mul_right _ far)

theorem response_ahead {center phase : Nat} (position : center * up + phase = k * down) (within : phase < up) {t : Nat}
    (far : halfWidth up down ≤ t) : response kernel up down k (center + 1 + t) = 0 := by
  apply response_far (Nat.zero_lt_of_lt within)
  rw [distance_ahead position within]
  exact Nat.le_add_left_of_le (Nat.mul_le_mul_right _ far)

end Ak1Driver.Interpolation
