import Mathlib.Algebra.BigOperators.Group.List.Basic
import Mathlib.Algebra.Ring.Nat

/-! What the members of a list add up to while one of them changes at a time. -/

namespace Ak1Driver.Lib

def tally (weight : α → Nat) (members : List α) : Nat := (members.map weight).sum

variable {weight other : α → Nat} {members : List α}

@[simp] theorem tally_nil : tally weight [] = 0 := rfl

@[simp] theorem tally_cons (member : α) : tally weight (member :: members) = weight member + tally weight members :=
  List.sum_cons

@[simp] theorem tally_append (more : List α) : tally weight (members ++ more) = tally weight members + tally weight more := by
  rw [tally, List.map_append, List.sum_append]
  rfl

theorem tally_add (members : List α) :
    tally (fun member => weight member + other member) members = tally weight members + tally other members := by
  induction members with
  | nil => rfl
  | cons member members ih =>
    simp only [tally_cons, ih]
    omega

/-- A change of one member changes the sum by as much. -/
theorem tally_set {place : Nat} {old : α} (found : members[place]? = some old) (new : α) :
    tally weight (members.set place new) + weight old = tally weight members + weight new := by
  induction members generalizing place with
  | nil => cases found
  | cons member members ih =>
    cases place with
    | zero =>
      cases found
      simp only [List.set_cons_zero, tally_cons]
      omega
    | succ place =>
      have rest := ih (show members[place]? = some old from found)
      simp only [List.set_cons_succ, tally_cons]
      omega

theorem le_tally {place : Nat} {member : α} (found : members[place]? = some member) : weight member ≤ tally weight members := by
  induction members generalizing place with
  | nil => cases found
  | cons first members ih =>
    cases place with
    | zero =>
      cases found
      exact Nat.le_add_right _ _
    | succ place => exact Nat.le_trans (ih found) (Nat.le_add_left _ _)

theorem add_le_tally {place another : Nat} {member second : α} (different : place ≠ another)
    (found : members[place]? = some member) (also : members[another]? = some second) :
    weight member + weight second ≤ tally weight members := by
  induction members generalizing place another with
  | nil => cases found
  | cons first members ih =>
    cases place with
    | zero =>
      cases found
      cases another with
      | zero => exact absurd rfl different
      | succ another =>
        have rest : weight second ≤ tally weight members := @le_tally _ _ _ another _ also
        rw [tally_cons]
        omega
    | succ place =>
      cases another with
      | zero =>
        cases also
        have rest : weight member ≤ tally weight members := @le_tally _ _ _ place _ found
        rw [tally_cons]
        omega
      | succ another =>
        have rest := ih (fun same => different (congrArg Nat.succ same)) found also
        rw [tally_cons]
        omega

theorem tally_eq_zero : tally weight members = 0 ↔ ∀ member ∈ members, weight member = 0 := by
  induction members with
  | nil => simp
  | cons first members ih => simp [ih]

end Ak1Driver.Lib
