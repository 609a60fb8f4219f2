import Ak1Driver.Lib.Window

/-! A bounded queue that keeps account of every item that left it, in the order
in which they left: served, or lost because a newer item needed its place. -/

namespace Ak1Driver.Lib
open Window

inductive Fate where
  | served
  | lost
  deriving DecidableEq, Repr

structure Ledger (α : Type u) where
  gone : List (α × Fate) := []
  /-- The items still waiting, oldest first. -/
  waiting : List α

namespace Ledger
variable {α : Type u}

/-- Every item so far, in the order of arrival. -/
def arrived (ledger : Ledger α) : List α := ledger.gone.map Prod.fst ++ ledger.waiting

def withFate (fate : Fate) (ledger : Ledger α) : List α := (ledger.gone.filter (·.2 = fate)).map Prod.fst

/-- A new item. When `capacity` items wait, the oldest of them makes room. -/
def arrive (capacity : Nat) (ledger : Ledger α) (item : α) : Ledger α :=
  match ledger.waiting with
  | [] => { ledger with waiting := [item] }
  | oldest :: rest =>
    if rest.length + 1 = capacity then ⟨ledger.gone ++ [(oldest, .lost)], rest ++ [item]⟩
    else ⟨ledger.gone, oldest :: rest ++ [item]⟩

/-- The oldest `count` items leave. -/
def serve (count : Nat) (ledger : Ledger α) : Ledger α :=
  ⟨ledger.gone ++ (ledger.waiting.take count).map (·, .served), ledger.waiting.drop count⟩

def arriveAll (capacity : Nat) (ledger : Ledger α) (items : List α) : Ledger α := items.foldl (arrive capacity) ledger

variable {capacity : Nat} {ledger : Ledger α}

@[simp] theorem arrive_arrived (capacity : Nat) (ledger : Ledger α) (item : α) :
    (ledger.arrive capacity item).arrived = ledger.arrived ++ [item] := by
  obtain ⟨gone, waiting⟩ := ledger
  cases waiting with
  | nil => simp [arrive, arrived]
  | cons oldest rest =>
    simp only [arrive]
    split <;> simp [arrived]

@[simp] theorem arrive_served (capacity : Nat) (ledger : Ledger α) (item : α) :
    (ledger.arrive capacity item).withFate .served = ledger.withFate .served := by
  obtain ⟨gone, waiting⟩ := ledger
  cases waiting with
  | nil => rfl
  | cons oldest rest =>
    simp only [arrive]
    split <;> simp [withFate]

/-- An item is lost exactly if the queue is full. -/
theorem arrive_lost (positive : 0 < capacity) (item : α) :
    (ledger.arrive capacity item).withFate .lost =
      ledger.withFate .lost ++ if ledger.waiting.length = capacity then ledger.waiting.take 1 else [] := by
  obtain ⟨gone, waiting⟩ := ledger
  cases waiting with
  | nil => simp [arrive, withFate, positive.ne]
  | cons oldest rest =>
    simp only [arrive, List.length_cons]
    split <;> simp [withFate]

theorem arrive_waiting (positive : 0 < capacity) (bounded : ledger.waiting.length ≤ capacity) (item : α) :
    (ledger.arrive capacity item).waiting = (ledger.waiting ++ [item]).rtake capacity := by
  obtain ⟨gone, waiting⟩ := ledger
  cases waiting with
  | nil => exact (rtake_of_fits positive).symm
  | cons oldest rest =>
    simp only [List.length_cons] at bounded
    simp only [arrive]
    split
    case isTrue full => simp [List.rtake, ← full]
    case isFalse room =>
      apply Eq.symm
      apply rtake_of_fits
      simp only [List.length_append, List.length_cons, List.length_nil]
      omega

theorem arrive_bounded (positive : 0 < capacity) (bounded : ledger.waiting.length ≤ capacity) (item : α) :
    (ledger.arrive capacity item).waiting.length ≤ capacity := by
  rw [arrive_waiting positive bounded, length_rtake]
  exact Nat.min_le_left _ _

@[simp] theorem serve_arrived (count : Nat) (ledger : Ledger α) : (ledger.serve count).arrived = ledger.arrived := by
  simp [serve, arrived, Function.comp_def]

theorem fates_marked (fate other : Fate) (items : List α) :
    ((items.map (·, fate)).filter (·.2 = other)).map Prod.fst = if fate = other then items else [] := by
  induction items with
  | nil => simp
  | cons item items ih => cases fate <;> cases other <;> simp_all

@[simp] theorem serve_served (count : Nat) (ledger : Ledger α) :
    (ledger.serve count).withFate .served = ledger.withFate .served ++ ledger.waiting.take count := by
  rw [withFate, serve, List.filter_append, List.map_append, fates_marked, if_pos rfl, withFate]

@[simp] theorem serve_lost (count : Nat) (ledger : Ledger α) :
    (ledger.serve count).withFate .lost = ledger.withFate .lost := by
  rw [withFate, serve, List.filter_append, List.map_append, fates_marked, if_neg Fate.noConfusion, List.append_nil,
    withFate]

@[simp] theorem arriveAll_arrived (capacity : Nat) (ledger : Ledger α) (items : List α) :
    (ledger.arriveAll capacity items).arrived = ledger.arrived ++ items := by
  induction items generalizing ledger with
  | nil => simp [arriveAll]
  | cons item items ih =>
    have rest := ih (ledger.arrive capacity item)
    rw [arrive_arrived, List.append_assoc, List.singleton_append] at rest
    exact rest

@[simp] theorem arriveAll_served (capacity : Nat) (ledger : Ledger α) (items : List α) :
    (ledger.arriveAll capacity items).withFate .served = ledger.withFate .served := by
  induction items generalizing ledger with
  | nil => rfl
  | cons item items ih => exact (ih (ledger.arrive capacity item)).trans (arrive_served _ _ _)

theorem arriveAll_waiting (positive : 0 < capacity) (items : List α) (bounded : ledger.waiting.length ≤ capacity) :
    (ledger.arriveAll capacity items).waiting = (ledger.waiting ++ items).rtake capacity := by
  induction items generalizing ledger with
  | nil => simp [arriveAll, rtake_of_fits bounded]
  | cons item items ih =>
    have rest := ih (arrive_bounded positive bounded item)
    rw [arrive_waiting positive bounded, rtake_rtake_append, List.append_assoc, List.singleton_append] at rest
    exact rest

end Ledger
end Ak1Driver.Lib
