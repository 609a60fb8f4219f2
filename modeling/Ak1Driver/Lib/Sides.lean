import Mathlib.Algebra.BigOperators.Group.Finset.Basic
import Mathlib.Algebra.BigOperators.Intervals

/-! A sum over all indices from zero, taken outwards from a centre: first the
terms at and before it, then those after it, a fixed number on each side. -/

namespace Ak1Driver.Lib.Sides

theorem sum_range_of_vanish {f : Nat → Int} {reach n : Nat} (within : reach ≤ n) (vanish : ∀ i, reach ≤ i → f i = 0) :
    ∑ i ∈ Finset.range n, f i = ∑ i ∈ Finset.range reach, f i := by
  symm
  apply Finset.sum_subset
  · intro i member
    exact Finset.mem_range.mpr (Nat.lt_of_lt_of_le (Finset.mem_range.mp member) within)
  · intro i _ outside
    exact vanish i (Nat.le_of_not_lt fun inside => outside (Finset.mem_range.mpr inside))

theorem sum_range_vanish {f : Nat → Int} {first second : Nat} (firstVanish : ∀ i, first ≤ i → f i = 0)
    (secondVanish : ∀ i, second ≤ i → f i = 0) : ∑ i ∈ Finset.range first, f i = ∑ i ∈ Finset.range second, f i := by
  rcases Nat.le_total first second with within | within
  · exact (sum_range_of_vanish within firstVanish).symm
  · exact sum_range_of_vanish within secondVanish

/-- The first `taps` terms on each side are the whole sum, where the terms
further out and those before zero vanish. -/
theorem sum_sides {f : Int → Int} {center taps n : Nat} (covered : center + taps < n)
    (before : ∀ i : Int, i < 0 → f i = 0) (back : ∀ t : Nat, taps ≤ t → f (center - t) = 0)
    (ahead : ∀ t : Nat, taps ≤ t → f (center + 1 + t) = 0) :
    ∑ t ∈ Finset.range taps, f (center - t) + ∑ t ∈ Finset.range taps, f (center + 1 + t) =
      ∑ i ∈ Finset.range n, f i := by
  obtain ⟨rest, rfl⟩ : ∃ rest, n = center + taps + 1 + rest := Nat.exists_eq_add_of_le covered
  have lower : ∑ t ∈ Finset.range taps, f (center - t) = ∑ i ∈ Finset.range (center + 1), f i := by
    have past : ∀ t : Nat, center + 1 ≤ t → f (center - t) = 0 := by
      intro t beyond
      apply before
      omega
    calc ∑ t ∈ Finset.range taps, f (center - t)
        = ∑ t ∈ Finset.range (center + 1), f (center - t) := sum_range_vanish back past
      _ = ∑ i ∈ Finset.range (center + 1), f (center - (center + 1 - 1 - i : Nat)) :=
          (Finset.sum_range_reflect (fun t : Nat => f (center - t)) (center + 1)).symm
      _ = ∑ i ∈ Finset.range (center + 1), f i := by
          apply Finset.sum_congr rfl
          intro i member
          have inside := Finset.mem_range.mp member
          congr 1
          omega
  have upper : ∑ t ∈ Finset.range taps, f (center + 1 + t) = ∑ t ∈ Finset.range (taps + rest), f (center + 1 + t) :=
    (sum_range_of_vanish (Nat.le_add_right taps rest) ahead).symm
  have split : center + taps + 1 + rest = center + 1 + (taps + rest) := by omega
  rw [lower, upper, split, Finset.sum_range_add _ (center + 1)]
  push_cast
  rfl

end Ak1Driver.Lib.Sides
