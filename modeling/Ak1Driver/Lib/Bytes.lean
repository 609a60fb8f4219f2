import Ak1Driver.Lib.Chunks

/-! Numbers as bytes, the least significant one first, and stores of bytes into
a buffer. A store past the end of its buffer makes the buffer longer, so one
that keeps its length is inside. -/

namespace Ak1Driver.Lib.Bytes
open Lib.Chunks

def encode : (count value : Nat) → List UInt8
  | 0, _ => []
  | count + 1, value => UInt8.ofNat value :: encode count (value / 256)

def decode : List UInt8 → Nat
  | [] => 0
  | byte :: bytes => byte.toNat + 256 * decode bytes

@[simp] theorem length_encode (count value : Nat) : (encode count value).length = count := by
  induction count generalizing value with
  | zero => rfl
  | succ count ih => rw [encode, List.length_cons, ih]

theorem decode_encode (count value : Nat) : decode (encode count value) = value % 256 ^ count := by
  induction count generalizing value with
  | zero => rw [encode, decode, Nat.pow_zero, Nat.mod_one]
  | succ count ih =>
    have low : (UInt8.ofNat value).toNat = value % 256 := UInt8.toNat_ofNat
    rw [encode, decode, ih, low, Nat.pow_succ', Nat.mod_mul]

/-- Writes bytes into a buffer, starting at a place. -/
def store (buffer : List α) (place : Nat) (items : List α) : List α :=
  buffer.take place ++ items ++ buffer.drop (place + items.length)

@[simp] theorem length_store {buffer items : List α} {place : Nat} (inside : place + items.length ≤ buffer.length) :
    (store buffer place items).length = buffer.length := by
  simp only [store, List.length_append, List.length_take, List.length_drop]
  omega

/-- A store right behind another continues it. -/
theorem store_store {buffer first second : List α} {place : Nat}
    (inside : place + first.length + second.length ≤ buffer.length) :
    store (store buffer place first) (place + first.length) second = store buffer place (first ++ second) := by
  have width : (buffer.take place ++ first).length = place + first.length := by
    rw [List.length_append, List.length_take]
    omega
  have start : (store buffer place first).take (place + first.length) = buffer.take place ++ first :=
    List.take_left' width
  have rest : (store buffer place first).drop (place + first.length + second.length) =
      buffer.drop (place + (first ++ second).length) := by
    rw [← List.drop_drop, store, List.drop_left' width, List.drop_drop, List.length_append, Nat.add_assoc]
  rw [store, start, rest, store, List.append_assoc (buffer.take place)]

/-- Stores chunks one after the other, from a place on. -/
def storeAll (buffer : List α) (place : Nat) (chunks : List (Vector α size)) : List α :=
  chunks.zipIdx.foldl (fun buffer (chunk, index) => store buffer (place + index * size) chunk.toList) buffer

theorem storeAll_eq {buffer : List α} {place : Nat} (chunks : List (Vector α size))
    (inside : place + chunks.length * size ≤ buffer.length) :
    storeAll buffer place chunks = store buffer place (joined chunks) := by
  induction chunks using List.reverseRecOn with
  | nil => simp [storeAll, store]
  | append_singleton chunks chunk ih =>
    rw [List.length_append, List.length_singleton, Nat.succ_mul] at inside
    have earlier := ih (by omega)
    have whole : joined (chunks ++ [chunk]) = joined chunks ++ chunk.toList := by
      rw [joined, List.flatMap_append, List.flatMap_singleton]
      rfl
    rw [storeAll] at earlier ⊢
    rw [List.zipIdx_append, List.foldl_append, earlier, whole, ← store_store]
    · rw [length_joined, Nat.zero_add]
      rfl
    · rw [length_joined, Vector.length_toList]
      omega

end Ak1Driver.Lib.Bytes
