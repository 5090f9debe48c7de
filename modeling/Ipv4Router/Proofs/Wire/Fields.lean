/-
This file reads and writes the fields of octet strings. A number written in a field
is read back from it, a field of a longer string is the field of the part that holds
it, and overwriting some octets changes these octets and no others.
-/

import Mathlib
import Ipv4Router.Wire.Link
import Ipv4Router.Address.Ipv4

namespace Ipv4Router

namespace Octets

/-! ### Numbers -/

/-- Reading the lowest `count` digits of a number gives its residue. -/
theorem toNat_ofNat (count number : Nat) : toNat (ofNat count number) = number % 256 ^ count := by
  induction count generalizing number with
  | zero => simp [ofNat, toNat, Nat.mod_one]
  | succ count inductionHypothesis =>
    have digits : 256 ^ (count + 1) = 256 * 256 ^ count := pow_succ' 256 count
    rw [ofNat, toNat_append_singleton, inductionHypothesis, UInt8.toNat_ofNat', digits,
      Nat.mod_mul]
    omega

theorem length_ofWord16 (word : UInt16) : (ofWord16 word).length = 2 := length_ofNat 2 _

/-- A word read from the octets of a word is the word. -/
theorem ofNat_toNat_ofWord16 (word : UInt16) : UInt16.ofNat (toNat (ofWord16 word)) = word := by
  have bound := word.toNat_lt
  rw [ofWord16, toNat_ofNat, Nat.mod_eq_of_lt (by omega), UInt16.ofNat_toNat]

/-! ### Fields -/

theorem length_field (octets : Octets) (offset width : Nat)
    (fits : offset + width ≤ octets.length) : (field octets offset width).length = width := by
  rw [field, List.length_take, List.length_drop]
  omega

theorem field_append_left (front rest : Octets) (offset width : Nat)
    (fits : offset + width ≤ front.length) :
    field (front ++ rest) offset width = field front offset width := by
  rw [field, List.drop_append_of_le_length (by omega),
    List.take_append_of_le_length (by rw [List.length_drop]; omega), field]

theorem field_append_right (front rest : Octets) (offset width : Nat)
    (beyond : front.length ≤ offset) :
    field (front ++ rest) offset width = field rest (offset - front.length) width := by
  rw [field, List.drop_append, List.drop_eq_nil_of_le beyond, List.nil_append, field]

theorem field_take (octets : Octets) (kept offset width : Nat) (fits : offset + width ≤ kept) :
    field (octets.take kept) offset width = field octets offset width := by
  rw [field, List.drop_take, List.take_take, min_eq_left (by omega), field]

theorem field_zero_length (octets : Octets) : field octets 0 octets.length = octets := by
  rw [field, List.drop_zero, List.take_length]

/-- Octet strings that agree in a range have the same field there. -/
theorem field_congr (first second : Octets) (offset width : Nat)
    (same : ∀ index, offset ≤ index → index < offset + width → first[index]? = second[index]?) :
    field first offset width = field second offset width := by
  refine List.ext_getElem? fun index => ?_
  rw [field, field, List.getElem?_take, List.getElem?_take]
  split
  · rename_i within
    rw [List.getElem?_drop, List.getElem?_drop, same _ (by omega) (by omega)]
  · rfl

theorem field_set (octets : Octets) (index : Nat) (fresh : UInt8) (offset width : Nat)
    (outside : index < offset ∨ offset + width ≤ index) :
    field (octets.set index fresh) offset width = field octets offset width :=
  field_congr _ _ _ _ fun _ _ _ => List.getElem?_set_ne (by omega)

/-! ### Single octets -/

theorem octetAt_congr (first second : Octets) (index : Nat)
    (same : first[index]? = second[index]?) : octetAt first index = octetAt second index := by
  rw [octetAt, octetAt, List.getD_eq_getElem?_getD, List.getD_eq_getElem?_getD, same]

theorem octetAt_take (octets : Octets) (kept offset : Nat) (fits : offset < kept) :
    octetAt (octets.take kept) offset = octetAt octets offset :=
  octetAt_congr _ _ _ (List.getElem?_take_of_lt fits)

theorem octetAt_drop (octets : Octets) (start index : Nat) :
    octetAt (octets.drop start) index = octetAt octets (start + index) := by
  rw [octetAt, octetAt, List.getD_eq_getElem?_getD, List.getD_eq_getElem?_getD,
    List.getElem?_drop]

theorem octetAt_field (octets : Octets) (offset width index : Nat) (inside : index < width) :
    octetAt (field octets offset width) index = octetAt octets (offset + index) := by
  rw [field, octetAt_take _ _ _ inside, octetAt_drop]

theorem octetAt_set_self (octets : Octets) (index : Nat) (fresh : UInt8)
    (inside : index < octets.length) : octetAt (octets.set index fresh) index = fresh := by
  rw [octetAt, List.getD_eq_getElem?_getD, List.getElem?_set_self inside, Option.getD_some]

theorem octetAt_set_ne (octets : Octets) (index : Nat) (fresh : UInt8) (place : Nat)
    (elsewhere : index ≠ place) :
    octetAt (octets.set index fresh) place = octetAt octets place :=
  octetAt_congr _ _ _ (List.getElem?_set_ne elsewhere)

/-! ### Words -/

/-- The octets of the word at an offset are the two octets there. -/
theorem ofWord16_word16At (octets : Octets) (offset : Nat) (fits : offset + 2 ≤ octets.length) :
    ofWord16 (word16At octets offset) = field octets offset 2 := by
  have width := length_field octets offset 2 fits
  have digits := ofNat_length_toNat (field octets offset 2)
  rw [width] at digits
  have bound : toNat (field octets offset 2) < 2 ^ 16 := by
    rw [← digits, toNat_ofNat]
    exact Nat.mod_lt _ (by decide)
  rw [ofWord16, word16At, UInt16.toNat_ofNat', Nat.mod_eq_of_lt bound, digits]

/-! ### Overwriting -/

theorem field_overwrite_self (octets : Octets) (offset : Nat) (fresh : Octets)
    (fits : offset ≤ octets.length) :
    field (overwrite octets offset fresh) offset fresh.length = fresh := by
  have front : (octets.take offset).length = offset := by rw [List.length_take]; omega
  rw [overwrite, List.append_assoc, field_append_right _ _ _ _ (le_of_eq front), front,
    Nat.sub_self, field_append_left _ _ _ _ (by omega), field_zero_length]

/-- Overwriting changes the octets in its range and no others. -/
theorem getElem?_overwrite (octets : Octets) (offset : Nat) (fresh : Octets)
    (fits : offset + fresh.length ≤ octets.length) (index : Nat) :
    (overwrite octets offset fresh)[index]? =
      if index < offset then octets[index]?
      else if index < offset + fresh.length then fresh[index - offset]?
      else octets[index]? := by
  have front : (octets.take offset).length = offset := by rw [List.length_take]; omega
  rw [overwrite, List.append_assoc]
  split
  · rename_i before
    rw [List.getElem?_append_left (by omega), List.getElem?_take_of_lt before]
  · rename_i notBefore
    rw [List.getElem?_append_right (by omega), front]
    split
    · rename_i within
      rw [List.getElem?_append_left (by omega)]
    · rename_i beyond
      rw [List.getElem?_append_right (by omega), List.getElem?_drop]
      congr 1
      omega

theorem octetAt_overwrite_of_lt (octets : Octets) (offset : Nat) (fresh : Octets)
    (fits : offset + fresh.length ≤ octets.length) (index : Nat) (before : index < offset) :
    octetAt (overwrite octets offset fresh) index = octetAt octets index :=
  octetAt_congr _ _ _ (by rw [getElem?_overwrite _ _ _ fits, if_pos before])

/-- A second overwriting of the same range undoes the first. -/
theorem overwrite_overwrite (octets : Octets) (offset : Nat) (first second : Octets)
    (fits : offset + first.length ≤ octets.length) (same : second.length = first.length) :
    overwrite (overwrite octets offset first) offset second = overwrite octets offset second := by
  refine List.ext_getElem? fun index => ?_
  have kept := length_overwrite octets offset first fits
  rw [getElem?_overwrite _ offset second (by omega), getElem?_overwrite octets offset first fits,
    getElem?_overwrite octets offset second (by omega), same]
  split
  · rfl
  · split <;> rfl

/-- What is overwritten within the octets kept is overwritten in the kept octets. -/
theorem take_overwrite_of_le (octets : Octets) (offset : Nat) (fresh : Octets) (kept : Nat)
    (fits : offset + fresh.length ≤ octets.length) (within : offset + fresh.length ≤ kept) :
    (overwrite octets offset fresh).take kept = overwrite (octets.take kept) offset fresh := by
  refine List.ext_getElem? fun index => ?_
  have bound : offset + fresh.length ≤ (octets.take kept).length := by
    rw [List.length_take]; omega
  rw [getElem?_overwrite _ _ _ bound, List.getElem?_take, getElem?_overwrite _ _ _ fits,
    List.getElem?_take]
  by_cases inside : index < kept
  · simp only [if_pos inside]
  · rw [if_neg inside, if_neg inside, if_neg (by omega), if_neg (by omega)]

end Octets

/-! ### Addresses -/

/-- An address read from its octets is the address. -/
theorem Ipv4Address.ofOctets_octets (address : Ipv4Address) :
    Ipv4Address.ofOctets address.octets = address := by
  have bound := address.bits.isLt
  rw [ofOctets, octets, Octets.toNat_ofNat, Nat.mod_eq_of_lt (by omega), BitVec.ofNat_toNat,
    BitVec.setWidth_eq]

theorem Ipv4Address.length_octets (address : Ipv4Address) : address.octets.length = 4 :=
  Octets.length_ofNat 4 _

/-- A link address read from its octets is the link address. -/
theorem MacAddress.ofOctets_octets (address : MacAddress) :
    MacAddress.ofOctets address.octets = address := by
  have bound := address.bits.isLt
  rw [ofOctets, octets, Octets.toNat_ofNat, Nat.mod_eq_of_lt (by omega), BitVec.ofNat_toNat,
    BitVec.setWidth_eq]

theorem MacAddress.length_octets (address : MacAddress) : address.octets.length = 6 :=
  Octets.length_ofNat 6 _

end Ipv4Router
