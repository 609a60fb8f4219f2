import Mathlib.Data.List.Rotate
import Mathlib.Data.List.DropRight
import Mathlib.Data.Nat.ModEq

/-! Bounded queues that drop their oldest items, and circular buffers.
A queue of `capacity` items that received `items` holds `items.rtake capacity`;
a circular buffer holds the `count` cells from `start` on, wrapping around. -/

namespace Ak1Driver.Lib.Window

theorem rtake_of_fits {items : List α} {capacity : Nat} (fits : items.length ≤ capacity) :
    items.rtake capacity = items := by
  simp [List.rtake, Nat.sub_eq_zero_of_le fits]

theorem length_rtake (items : List α) (capacity : Nat) :
    (items.rtake capacity).length = min capacity items.length := by
  simp only [List.rtake, List.length_drop]
  omega

/-- Dropping early and dropping at the end leave the same newest items. -/
theorem rtake_rtake_append (items more : List α) (capacity : Nat) :
    (items.rtake capacity ++ more).rtake capacity = (items ++ more).rtake capacity := by
  have early : items.drop (items.length - capacity) ++ more = (items ++ more).drop (items.length - capacity) :=
    (List.drop_append_of_le_length (Nat.sub_le _ _)).symm
  simp only [List.rtake, early, List.drop_drop, List.length_drop, List.length_append]
  congr 1
  omega

theorem length_flatten_uniform {blocks : List (List α)} {size : Nat} (uniform : ∀ block ∈ blocks, block.length = size) :
    blocks.flatten.length = size * blocks.length := by
  induction blocks with
  | nil => simp
  | cons block blocks ih =>
    rw [List.flatten_cons, List.length_append, uniform block (by simp), ih fun other member => uniform other (by simp [member]),
      List.length_cons, Nat.mul_succ, Nat.add_comm]

/-- The `count` cells that follow `start`, oldest first. -/
def circular (cells : List α) (start count : Nat) : List α := (cells.rotate start).take count

/-- Where an item of a block is in the list of all blocks. -/
theorem getElem?_flatten_uniform {blocks : List (List α)} {size : Nat} (uniform : ∀ block ∈ blocks, block.length = size)
    {k : Nat} {block : List α} (known : blocks[k]? = some block) {i : Nat} (inside : i < size) :
    blocks.flatten[k * size + i]? = block[i]? := by
  obtain ⟨bound, rfl⟩ := List.getElem?_eq_some_iff.mp known
  have before : (blocks.take k).flatten.length = k * size := by
    rw [length_flatten_uniform fun block member => uniform block (List.mem_of_mem_take member),
      List.length_take_of_le (Nat.le_of_lt bound), Nat.mul_comm]
  have here : i < blocks[k].length := (uniform _ (List.getElem_mem bound)).symm ▸ inside
  have parts : blocks.flatten = (blocks.take k).flatten ++ (blocks[k] ++ (blocks.drop (k + 1)).flatten) := by
    rw [← List.flatten_cons, ← List.drop_eq_getElem_cons bound, ← List.flatten_append, List.take_append_drop]
  rw [parts, List.getElem?_append_right (before ▸ Nat.le_add_right _ _), before, Nat.add_sub_cancel_left]
  exact List.getElem?_append_left here

theorem length_circular {cells : List α} {count : Nat} (start : Nat) (fits : count ≤ cells.length) :
    (circular cells start count).length = count := by
  simp [circular, fits]

/-- The first free cell is `count` cells past `start`; filling it appends. -/
theorem circular_store (cells : List α) (start count : Nat) (item : α) (free : count < cells.length) :
    circular (cells.set ((start + count) % cells.length) item) start (count + 1) =
      circular cells start count ++ [item] := by
  apply List.ext_getElem
  · simp only [circular, List.length_take, List.length_rotate, List.length_set, List.length_append, List.length_singleton]
    omega
  intro position first second
  simp only [circular, List.length_take, List.length_rotate, List.length_set] at first
  simp only [circular, List.getElem_take, List.getElem_rotate, List.length_set, List.getElem_set, List.getElem_append,
    List.length_take, List.length_rotate, Nat.min_eq_left free.le]
  by_cases last : position = count
  · subst position
    simp [Nat.add_comm]
  · have older : position < count := by omega
    have apart : (start + count) % cells.length ≠ (position + start) % cells.length := by
      intro same
      have residues : Nat.ModEq cells.length count position :=
        Nat.ModEq.add_left_cancel' start (by simpa only [Nat.ModEq, Nat.add_comm position start] using same)
      rw [Nat.ModEq, Nat.mod_eq_of_lt free, Nat.mod_eq_of_lt (by omega)] at residues
      omega
    simp [older, apart]

theorem circular_take (cells : List α) (start count : Nat) (holds : count < cells.length) (inside : start < cells.length) :
    circular cells start (count + 1) = cells[start] :: circular cells ((start + 1) % cells.length) count := by
  apply List.ext_getElem
  · simp only [circular, List.length_take, List.length_rotate, List.length_cons]
    omega
  intro position first second
  simp only [circular, List.getElem_take, List.getElem_rotate, List.rotate_mod]
  cases position with
  | zero => simp [Nat.mod_eq_of_lt inside]
  | succ position =>
    simp only [List.getElem_cons_succ, List.getElem_take, List.getElem_rotate]
    congr 2
    omega

end Ak1Driver.Lib.Window
