import Mathlib.Data.Nat.Basic

/-! An accumulator that adds a step and gives out the whole multiples of a
modulus. What it has given out never drifts from the exact ratio. -/

namespace Ak1Driver.Lib.Carry

variable {modulus step : Nat}

/-- What the accumulator gives out when it adds the step for the `count`-th time. -/
def given (modulus step count : Nat) : Nat := (count + 1) * step / modulus - count * step / modulus

theorem given_add (modulus step count : Nat) :
    count * step / modulus + given modulus step count = (count + 1) * step / modulus := by
  have grows : count * step / modulus ≤ (count + 1) * step / modulus :=
    Nat.div_le_div_right (Nat.mul_le_mul_right step (Nat.le_succ count))
  simp only [given]
  omega

/-- An accumulator that holds the remainder of `count` steps gives out `given`
and holds the remainder of one step more. -/
theorem carry_step (positive : 0 < modulus) (count : Nat) :
    (count * step % modulus + step) / modulus = given modulus step count ∧
      (count * step % modulus + step) % modulus = (count + 1) * step % modulus := by
  have split := Nat.div_add_mod (count * step) modulus
  have total : (count + 1) * step = count * step % modulus + step + modulus * (count * step / modulus) := by
    rw [Nat.succ_mul]
    omega
  constructor
  · rw [given, total, Nat.add_mul_div_left _ _ positive, Nat.add_sub_cancel]
  · rw [total, Nat.add_mul_mod_self_left]

/-- No turn gives out much more than the ratio. -/
theorem given_le (positive : 0 < modulus) (count : Nat) : given modulus step count ≤ step / modulus + 1 := by
  obtain ⟨same, _⟩ := @carry_step modulus step positive count
  have small : count * step % modulus ≤ modulus := Nat.le_of_lt (Nat.mod_lt _ positive)
  rw [← same]
  apply Nat.le_trans (Nat.div_le_div_right (Nat.add_le_add_right small step))
  exact Nat.le_of_eq ((congrArg (· / modulus) (Nat.add_comm _ _)).trans (Nat.add_div_right _ positive))

end Ak1Driver.Lib.Carry
