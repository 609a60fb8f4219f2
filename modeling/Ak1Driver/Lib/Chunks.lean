import Mathlib.Data.List.Count
import Mathlib.Data.List.Range
import Mathlib.Data.Vector.Basic
import Mathlib.Algebra.BigOperators.Group.List.Basic
import Mathlib.Algebra.GroupWithZero.Nat

/-! A list cut into whole chunks of one size. Every list is the chunks put
together again and a rest shorter than a chunk, so facts about all lists reduce
to facts about lists of chunks. -/

namespace Ak1Driver.Lib.Chunks

def takeChunks (size : Nat) : (count : Nat) → (items : List α) → count * size ≤ items.length → List (Vector α size)
  | 0, _, _ => []
  | count + 1, items, fits =>
    ⟨(items.take size).toArray, by simp [Nat.succ_mul] at fits ⊢; omega⟩ ::
      takeChunks size count (items.drop size) (by simp [Nat.succ_mul] at fits ⊢; omega)

/-- The whole chunks of `items` in order; a shorter rest is left out. -/
def asChunks (size : Nat) (items : List α) : List (Vector α size) :=
  takeChunks size (items.length / size) items (Nat.div_mul_le_self _ _)

def remainder (size : Nat) (items : List α) : List α := items.drop (items.length / size * size)

def joined (chunks : List (Vector α size)) : List α := chunks.flatMap Vector.toList

variable {size : Nat}

@[simp] theorem joined_nil : joined ([] : List (Vector α size)) = [] := rfl

@[simp] theorem joined_cons (chunk : Vector α size) (chunks : List (Vector α size)) :
    joined (chunk :: chunks) = chunk.toList ++ joined chunks := rfl

@[simp] theorem length_joined (chunks : List (Vector α size)) : (joined chunks).length = chunks.length * size := by
  induction chunks with
  | nil => simp
  | cons chunk chunks ih => simp [ih, Nat.succ_mul, Nat.add_comm]

@[simp] theorem length_takeChunks (count : Nat) (items : List α) (fits : count * size ≤ items.length) :
    (takeChunks size count items fits).length = count := by
  induction count generalizing items with
  | zero => rfl
  | succ count ih => simp [takeChunks, ih]

@[simp] theorem length_asChunks (items : List α) : (asChunks size items).length = items.length / size :=
  length_takeChunks _ _ _

theorem takeChunks_joined (count : Nat) (items : List α) (fits : count * size ≤ items.length) :
    joined (takeChunks size count items fits) ++ items.drop (count * size) = items := by
  induction count generalizing items with
  | zero => simp [takeChunks]
  | succ count ih =>
    have later := ih (items.drop size) (by simp [Nat.succ_mul] at fits ⊢; omega)
    have dropped : (items.drop size).drop (count * size) = items.drop ((count + 1) * size) := by
      rw [List.drop_drop, Nat.succ_mul, Nat.add_comm]
    rw [dropped] at later
    simp only [takeChunks, joined_cons, Vector.toList_mk, List.append_assoc]
    rw [later, List.take_append_drop]

theorem asChunks_joined (items : List α) : joined (asChunks size items) ++ remainder size items = items :=
  takeChunks_joined _ items _

theorem joined_injective (positive : 0 < size) {first second : List (Vector α size)}
    (same : joined first = joined second) : first = second := by
  induction first generalizing second with
  | nil =>
    cases second with
    | nil => rfl
    | cons chunk chunks =>
      have lengths := congrArg List.length same
      simp at lengths
      omega
  | cons chunk chunks ih =>
    cases second with
    | nil =>
      have lengths := congrArg List.length same
      simp at lengths
      omega
    | cons other others =>
      have parts := List.append_inj same (by simp)
      have head : chunk = other := Vector.toList_inj.mp parts.1
      rw [head, ih parts.2]

/-- Cutting is undone by joining, and by nothing else. -/
theorem asChunks_of_joined (positive : 0 < size) (chunks : List (Vector α size)) {rest : List α}
    (short : rest.length < size) : asChunks size (joined chunks ++ rest) = chunks := by
  apply joined_injective positive
  have counted : (asChunks size (joined chunks ++ rest)).length = chunks.length := by
    rw [length_asChunks, List.length_append, length_joined, Nat.add_comm, Nat.add_mul_div_right _ _ positive,
      Nat.div_eq_of_lt short, Nat.zero_add]
  exact (List.append_inj (asChunks_joined (joined chunks ++ rest)) (by rw [length_joined, length_joined, counted])).1

theorem getElem?_joined (chunks : List (Vector α size)) (index offset : Nat) (inside : offset < size) :
    (joined chunks)[index * size + offset]? = chunks[index]?.map fun chunk => chunk[offset] := by
  induction chunks generalizing index with
  | nil => simp
  | cons chunk chunks ih =>
    cases index with
    | zero =>
      have first : offset < chunk.toList.length := by simpa using inside
      rw [joined_cons, Nat.zero_mul, Nat.zero_add, List.getElem?_append_left first]
      simp [inside]
    | succ index =>
      have position : (index + 1) * size + offset - chunk.toList.length = index * size + offset := by
        simp [Nat.succ_mul]
        omega
      rw [joined_cons, List.getElem?_append_right (by simp [Nat.succ_mul]; omega), position, ih]
      simp

theorem remainder_of_whole {items : List α} (whole : items.length % size = 0) : remainder size items = [] := by
  have covered : items.length / size * size = items.length := Nat.div_mul_cancel (Nat.dvd_of_mod_eq_zero whole)
  rw [remainder, covered, List.drop_length]

theorem joined_of_whole {items : List α} (whole : items.length % size = 0) : joined (asChunks size items) = items := by
  have parts : joined (asChunks size items) ++ remainder size items = items := asChunks_joined items
  rwa [remainder_of_whole whole, List.append_nil] at parts

theorem position_lt {index offset count : Nat} (chunk : index < count) (inside : offset < size) :
    index * size + offset < count * size := by
  have next : (index + 1) * size ≤ count * size := Nat.mul_le_mul_right size chunk
  rw [Nat.succ_mul] at next
  omega

theorem getElem?_asChunks {items : List α} {index offset : Nat} (chunk : index < (asChunks size items).length)
    (inside : offset < size) : items[index * size + offset]? = some (asChunks size items)[index][offset] := by
  have parts : joined (asChunks size items) ++ remainder size items = items := asChunks_joined items
  have within : index * size + offset < (joined (asChunks size items)).length := by
    rw [length_joined]
    exact position_lt chunk inside
  have placed := getElem?_joined (asChunks size items) index offset inside
  rw [← List.getElem?_append_left within, parts, List.getElem?_eq_getElem chunk] at placed
  exact placed

theorem countP_range_mul (holds : Nat → Bool) (blocks size : Nat) :
    (List.range (blocks * size)).countP holds =
      ((List.range blocks).map fun block => (List.range size).countP fun offset => holds (block * size + offset)).sum := by
  induction blocks with
  | zero => simp
  | succ blocks ih =>
    rw [Nat.succ_mul, List.range_add, List.countP_append, ih, List.countP_map, List.range_succ, List.map_append,
      List.sum_append]
    simp [Function.comp_def]

end Ak1Driver.Lib.Chunks
