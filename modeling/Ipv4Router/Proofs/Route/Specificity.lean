/-
This file compares masks in two ways: as numbers, and by the number of their one bits. A
lookup prefers the greater number, while the more specific of two networks is the one whose
mask has more one bits. Both orders are the same on masks whose one bits all come first. In
general they differ, but in one way only: a mask that is not less than such a mask has no
fewer one bits. So a lookup never passes over a network that is named by a prefix for a less
specific one.
-/

import Ipv4Router.Proofs.Route.Lookup

namespace Ipv4Router

/-! ### Masks -/

namespace Ipv4Address

/-- The one bits of the mask all come first. -/
def IsPrefix (mask : Ipv4Address) : Prop := ∃ length ≤ 32, mask = maskOfLength length

theorem onesCount_eq_countP (mask : Ipv4Address) :
    mask.onesCount = (List.range 32).countP mask.bits.getLsbD := by
  have counted (width : Nat) :
      mask.bits.cpopNatRec width 0 = (List.range width).countP mask.bits.getLsbD := by
    induction width with
    | zero => rfl
    | succ width inductionHypothesis =>
      rw [BitVec.cpopNatRec_succ, BitVec.cpopNatRec_add, inductionHypothesis, List.range_succ,
        List.countP_append, List.countP_singleton]
      cases mask.bits.getLsbD width <;> rfl
  rw [onesCount, BitVec.toNat_cpop, counted]

/-- A mask that has all one bits of another has no fewer of them. -/
theorem onesCount_le_of_bits (mask other : Ipv4Address)
    (bits : ∀ position < 32, mask.bits.getLsbD position = true →
      other.bits.getLsbD position = true) : mask.onesCount ≤ other.onesCount := by
  rw [onesCount_eq_countP, onesCount_eq_countP]
  exact List.countP_mono_left fun position member => bits position (List.mem_range.mp member)

theorem getLsbD_maskOfLength (length position : Nat) (inside : position < 32) :
    (maskOfLength length).bits.getLsbD position = true ↔ 32 - length ≤ position := by
  rw [maskOfLength, BitVec.getLsbD_shiftLeft, BitVec.getLsbD_allOnes, decide_eq_true inside,
    decide_eq_true (Nat.lt_of_le_of_lt (Nat.sub_le position _) inside), Bool.true_and,
    Bool.and_true, Bool.not_eq_true', decide_eq_false_iff_not, Nat.not_lt]

/-- A mask that is not less than a prefix has all its one bits. -/
theorem getLsbD_of_maskOfLength_le (length position : Nat) (other : Ipv4Address)
    (notLess : (maskOfLength length).bits ≤ other.bits) (inside : position < 32)
    (isOne : 32 - length ≤ position) : other.bits.getLsbD position = true := by
  refine Decidable.byContradiction fun isZero => ?_
  rw [Bool.not_eq_true] at isZero
  -- The zero bits of a mask, read as a number, are what the mask lacks to the greatest one.
  have zerosOfOther : 2 ^ position ≤ (~~~other.bits).toNat := by
    refine Nat.ge_two_pow_of_testBit ?_
    rw [BitVec.testBit_toNat, BitVec.getLsbD_not, isZero, decide_eq_true inside]
    rfl
  have zerosOfPrefix : (~~~(maskOfLength length).bits).toNat < 2 ^ (32 - length) := by
    refine Nat.lt_pow_two_of_testBit _ fun high above => ?_
    rw [BitVec.testBit_toNat, BitVec.getLsbD_not]
    by_cases inWidth : high < 32
    · rw [(getLsbD_maskOfLength length high inWidth).mpr above, Bool.not_true, Bool.and_false]
    · rw [decide_eq_false inWidth, Bool.false_and]
  have powers : 2 ^ (32 - length) ≤ 2 ^ position := Nat.pow_le_pow_right Nat.two_pos isOne
  have numbers : (maskOfLength length).bits.toNat ≤ other.bits.toNat := BitVec.le_def.mp notLess
  rw [BitVec.toNat_not] at zerosOfOther zerosOfPrefix
  omega

/-- A mask that is not less than a prefix has no fewer one bits. -/
theorem IsPrefix.onesCount_le (mask other : Ipv4Address) (isPrefix : mask.IsPrefix)
    (notLess : mask.bits ≤ other.bits) : mask.onesCount ≤ other.onesCount := by
  obtain ⟨length, -, rfl⟩ := isPrefix
  refine onesCount_le_of_bits _ other fun position inside isOne => ?_
  exact getLsbD_of_maskOfLength_le length position other notLess inside
    ((getLsbD_maskOfLength length position inside).mp isOne)

end Ipv4Address

/-! ### Lookups -/

namespace RouteTable

/-- Every address is forwarded by the most specific of the routes that cover it. -/
def MostSpecific (table : RouteTable) : Prop :=
  ∀ address found, table.lookup? address = some found → ∀ other ∈ table.routes,
    other.covers address = true → other.prefixLength ≤ found.prefixLength

/-- No route that covers an address and has a prefix for a mask is passed over for a less specific
one. -/
theorem prefixLength_le_of_lookup? (table : RouteTable) (address : Ipv4Address)
    (found other : Route) (isFound : table.lookup? address = some found)
    (member : other ∈ table.routes) (covers : other.covers address = true)
    (isPrefix : other.mask.IsPrefix) : other.prefixLength ≤ found.prefixLength :=
  isPrefix.onesCount_le other.mask found.mask
    ((table.lookup?_spec address found isFound).2.2 other member covers)

end RouteTable

end Ipv4Router
