/-
This file defines the Internet checksum: the ones' complement of the ones'
complement sum of the 16-bit words of an octet string. A header carries its own
checksum in one of its words; it is computed with that word set to zero, and a
received header is sound when the computed word equals the stored one.
-/

import Ipv4Router.Octets

namespace Ipv4Router.Checksum

/-- The sum of the 16-bit words. A last odd octet is the high half of a word. -/
def wordSum : Octets → Nat
  | [] => 0
  | [last] => 256 * last.toNat
  | high :: low :: rest => 256 * high.toNat + low.toNat + wordSum rest

/-- Folding the carries of a sum back into 16 bits leaves its residue modulo 65535, with 65535
and not 0 for a positive multiple. -/
def fold (sum : Nat) : Nat :=
  if sum = 0 then 0 else (sum - 1) % 65535 + 1

/-- The checksum of an octet string. -/
def compute (octets : Octets) : UInt16 := UInt16.ofNat (65535 - fold (wordSum octets))

/-- Words on an even boundary are summed independently. -/
theorem wordSum_append (front rest : Octets) (even : front.length % 2 = 0) :
    wordSum (front ++ rest) = wordSum front + wordSum rest := by
  match front with
  | [] => simp [wordSum]
  | [_] => simp at even
  | high :: low :: front =>
    have shorter : front.length % 2 = 0 := by simp only [List.length_cons] at even; omega
    simp only [List.cons_append, wordSum, wordSum_append front rest shorter]
    omega

end Ipv4Router.Checksum
