import Mathlib.Data.List.Basic

/-! Text as UTF-16. A character past the first plane takes two units, a high
surrogate and a low one; no other character has a unit among the surrogates. -/

namespace Ak1Driver.Lib.Utf16

def encodeChar (char : Char) : List UInt16 :=
  if char.toNat < 0x10000 then [UInt16.ofNat char.toNat]
  else
    let code := char.toNat - 0x10000
    [UInt16.ofNat (0xD800 + code / 0x400), UInt16.ofNat (0xDC00 + code % 0x400)]

def encode (text : String) : List UInt16 := text.toList.flatMap encodeChar

def decodeChars : List UInt16 → Option (List Char)
  | [] => some []
  | unit :: rest =>
    if unit.toNat < 0xD800 ∨ 0xE000 ≤ unit.toNat then (decodeChars rest).map (Char.ofNat unit.toNat :: ·)
    else
      match rest with
      | [] => none
      | low :: rest =>
        if unit.toNat < 0xDC00 ∧ 0xDC00 ≤ low.toNat ∧ low.toNat < 0xE000 then
          (decodeChars rest).map
            (Char.ofNat (0x10000 + (unit.toNat - 0xD800) * 0x400 + (low.toNat - 0xDC00)) :: ·)
        else none

/-- The text of these units, if they are one. -/
def decode (units : List UInt16) : Option String := (decodeChars units).map String.ofList

private theorem char_range (char : Char) : char.toNat < 0xD800 ∨ 0xE000 ≤ char.toNat ∧ char.toNat < 0x110000 := by
  rcases char.valid with small | ⟨past, inside⟩
  · exact Or.inl small
  · exact Or.inr ⟨past, inside⟩

private theorem unit_toNat {code : Nat} (small : code < 0x10000) : (UInt16.ofNat code).toNat = code :=
  UInt16.toNat_ofNat_of_lt' small

theorem decodeChars_append (char : Char) (rest : List UInt16) :
    decodeChars (encodeChar char ++ rest) = (decodeChars rest).map (char :: ·) := by
  have range := char_range char
  by_cases plane : char.toNat < 0x10000
  · rw [encodeChar, if_pos plane, List.singleton_append, decodeChars.eq_def]
    simp only [unit_toNat plane]
    rw [if_pos (by omega), Char.ofNat_toNat]
  · have high := @unit_toNat (0xD800 + (char.toNat - 0x10000) / 0x400) (by omega)
    have low := @unit_toNat (0xDC00 + (char.toNat - 0x10000) % 0x400) (by omega)
    have whole : 0x10000 + (0xD800 + (char.toNat - 0x10000) / 0x400 - 0xD800) * 0x400 +
        (0xDC00 + (char.toNat - 0x10000) % 0x400 - 0xDC00) = char.toNat := by
      omega
    rw [encodeChar, if_neg plane]
    simp only [List.cons_append, List.nil_append, decodeChars, high, low]
    rw [if_neg (by omega), if_pos (by omega), whole, Char.ofNat_toNat]

theorem decode_encode (text : String) : decode (encode text) = some text := by
  have chars : ∀ chars : List Char, decodeChars (chars.flatMap encodeChar) = some chars := by
    intro chars
    induction chars with
    | nil => rfl
    | cons char chars ih => rw [List.flatMap_cons, decodeChars_append, ih, Option.map_some]
  rw [decode, encode, chars, Option.map_some, String.ofList_toList]

/-- A unit that is a character of its own comes from that character. -/
theorem mem_encodeChar {char : Char} {unit : UInt16} (member : unit ∈ encodeChar char)
    (single : unit.toNat < 0xD800 ∨ 0xE000 ≤ unit.toNat) : encodeChar char = [unit] ∧ char.toNat = unit.toNat := by
  have range := char_range char
  by_cases plane : char.toNat < 0x10000
  · rw [encodeChar, if_pos plane] at member ⊢
    cases List.mem_singleton.mp member
    exact ⟨rfl, (unit_toNat plane).symm⟩
  · have high := @unit_toNat (0xD800 + (char.toNat - 0x10000) / 0x400) (by omega)
    have low := @unit_toNat (0xDC00 + (char.toNat - 0x10000) % 0x400) (by omega)
    rw [encodeChar, if_neg plane] at member
    simp only [List.mem_cons, List.not_mem_nil, or_false] at member
    rcases member with rfl | rfl <;> omega

theorem encodeChar_ne_nil (char : Char) : encodeChar char ≠ [] := by
  rw [encodeChar]
  split <;> exact List.cons_ne_nil _ _

theorem nul_of_mem {text : String} (member : 0 ∈ encode text) : Char.ofNat 0 ∈ text.toList := by
  obtain ⟨char, inside, unit⟩ := List.mem_flatMap.mp member
  obtain ⟨_, code⟩ := mem_encodeChar unit (Or.inl (by decide))
  have same : char = Char.ofNat 0 := Char.toNat_inj.mp code
  exact same ▸ inside

/-- What a text begins with, its units begin with. -/
theorem head_of_encode {text : String} {unit : UInt16} (single : unit.toNat < 0xD800 ∨ 0xE000 ≤ unit.toNat)
    (begins : (encode text).head? = some unit) : text.toList.head?.map Char.toNat = some unit.toNat := by
  rw [encode] at begins
  cases chars : text.toList with
  | nil =>
    rw [chars] at begins
    cases begins
  | cons char rest =>
    rw [chars, List.flatMap_cons] at begins
    have first : unit ∈ encodeChar char := by
      cases units : encodeChar char with
      | nil => exact absurd units (encodeChar_ne_nil char)
      | cons head tail =>
        rw [units] at begins
        cases begins
        exact List.mem_cons_self
    obtain ⟨_, code⟩ := mem_encodeChar first single
    exact congrArg some code

end Ak1Driver.Lib.Utf16
