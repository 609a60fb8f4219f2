import Mathlib.Algebra.Order.Ring.Abs
import Mathlib.Data.Int.Order.Basic

/-! Arithmetic of machine integers that fails instead of wrapping. -/

namespace Ak1Driver.Lib.Checked

def signed (bits : Nat) (value : Int) : Option Int :=
  if -2 ^ (bits - 1) ≤ value ∧ value < 2 ^ (bits - 1) then some value else none

def unsigned (bits value : Nat) : Option Nat := if value < 2 ^ bits then some value else none

def minus (value less : Nat) : Option Nat := if less ≤ value then some (value - less) else none

def quotient (value divisor : Nat) : Option Nat := if divisor = 0 then none else some (value / divisor)

def remainder (value divisor : Nat) : Option Nat := if divisor = 0 then none else some (value % divisor)

variable {value divisor less : Nat}

theorem signed_of_abs (bits : Nat) {value : Int} (small : |value| < 2 ^ (bits - 1)) : signed bits value = some value := by
  obtain ⟨low, high⟩ := abs_lt.mp small
  exact if_pos ⟨low.le, high⟩

theorem unsigned_of_lt (bits : Nat) (small : value < 2 ^ bits) : unsigned bits value = some value := if_pos small

theorem minus_of_le (covered : less ≤ value) : minus value less = some (value - less) := if_pos covered

theorem quotient_of_pos (positive : 0 < divisor) : quotient value divisor = some (value / divisor) :=
  if_neg (Nat.ne_of_gt positive)

theorem remainder_of_pos (positive : 0 < divisor) : remainder value divisor = some (value % divisor) :=
  if_neg (Nat.ne_of_gt positive)

end Ak1Driver.Lib.Checked
