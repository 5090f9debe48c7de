/-
This file gives the checksum its arithmetic. Folding a sum is adding its words with the
carry brought back: what leaves at the highest bit comes in at the lowest. Octets that
hold their own checksum add up to all ones, which is how a receiver verifies them. And
one changed octet always shows, because no change that an octet can undergo is a whole
round of the sum.
-/

import Ipv4Router.Checksum
import Ipv4Router.Proofs.Wire.Fields

namespace Ipv4Router.Checksum

/-! ### Folding -/

theorem fold_le (sum : Nat) : fold sum ≤ 65535 := by
  unfold fold
  split <;> omega

/-- Sums less than a whole round apart make different words. -/
theorem fold_ne (first second : Nat) (firstPositive : 0 < first) (secondPositive : 0 < second)
    (differ : first ≠ second) (above : first < second + 65535) (below : second < first + 65535) :
    fold first ≠ fold second := by
  rw [fold, fold, if_neg (by omega), if_neg (by omega)]
  omega

/-- A sum and the complement of its word make all ones. -/
theorem fold_add_complement (sum : Nat) : fold (sum + (65535 - fold sum)) = 65535 := by
  unfold fold
  split
  · rename_i none
    subst none
    rfl
  · rw [if_neg (by omega)]
    omega

theorem toNat_compute (octets : Octets) :
    (compute octets).toNat = 65535 - fold (wordSum octets) := by
  rw [compute, UInt16.toNat_ofNat', Nat.mod_eq_of_lt (by omega)]

/-! ### Ones' complement sums -/

/-- The ones' complement sum of two words: the carry is added to the sum. -/
def addWords (first second : Nat) : Nat := (first + second) % 65536 + (first + second) / 65536

/-- The ones' complement sum of all words. A last odd octet is the high half of a word. -/
def onesSum : Octets → Nat
  | [] => 0
  | [last] => 256 * last.toNat
  | high :: low :: rest => addWords (256 * high.toNat + low.toNat) (onesSum rest)

theorem addWords_fold (word sum : Nat) (short : word < 65536) :
    addWords word (fold sum) = fold (word + sum) := by
  unfold addWords fold
  split
  · rename_i none
    subst none
    split <;> omega
  · rw [if_neg (by omega)]
    omega

/-- Folding the sum at the end is bringing back the carry at every word. -/
theorem onesSum_eq_fold (octets : Octets) : onesSum octets = fold (wordSum octets) := by
  match octets with
  | [] => rfl
  | [last] =>
    have bound := last.toNat_lt
    rw [onesSum, wordSum, fold]
    split <;> omega
  | high :: low :: rest =>
    have highBound := high.toNat_lt
    have lowBound := low.toNat_lt
    rw [onesSum, onesSum_eq_fold rest, addWords_fold _ _ (by omega), wordSum]

theorem wordSum_ofWord16 (word : UInt16) : wordSum (Octets.ofWord16 word) = word.toNat := by
  have bound := word.toNat_lt
  show 256 * (UInt8.ofNat (word.toNat / 256)).toNat + (UInt8.ofNat word.toNat).toNat + 0 = _
  rw [UInt8.toNat_ofNat', UInt8.toNat_ofNat']
  omega

theorem wordSum_with_word (front rest : Octets) (word : UInt16) (even : front.length % 2 = 0) :
    wordSum (front ++ Octets.ofWord16 word ++ rest) =
      wordSum (front ++ Octets.ofWord16 0 ++ rest) + word.toNat := by
  have wide (word : UInt16) : (front ++ Octets.ofWord16 word).length % 2 = 0 := by
    rw [List.length_append, Octets.length_ofWord16]
    omega
  rw [wordSum_append _ _ (wide word), wordSum_append _ _ (wide 0), wordSum_append _ _ even,
    wordSum_append _ _ even, wordSum_ofWord16, wordSum_ofWord16]
  simp only [UInt16.toNat_zero]
  omega

/-- Octets with their checksum in a word that was zero when it was computed add up to all ones. -/
theorem onesSum_with_checksum (front rest : Octets) (even : front.length % 2 = 0) :
    onesSum (front ++ Octets.ofWord16 (compute (front ++ Octets.ofWord16 0 ++ rest)) ++ rest) =
      65535 := by
  rw [onesSum_eq_fold, wordSum_with_word _ _ _ even, toNat_compute, fold_add_complement]

/-- The checksum is zero exactly if the octets add up to all ones without it. -/
theorem compute_eq_zero_iff (octets : Octets) : compute octets = 0 ↔ onesSum octets = 65535 := by
  have bound := fold_le (wordSum octets)
  rw [← UInt16.toNat_inj, toNat_compute, onesSum_eq_fold, UInt16.toNat_zero]
  omega

/-! ### One octet replaced -/

/-- What the lowest bit of an octet counts in the sum. -/
def weight (index : Nat) : Nat := if index % 2 = 0 then 256 else 1

theorem wordSum_set (octets : Octets) (index : Nat) (fresh : UInt8)
    (inside : index < octets.length) :
    wordSum (octets.set index fresh) + weight index * (Octets.octetAt octets index).toNat =
      wordSum octets + weight index * fresh.toNat := by
  match octets, index with
  | [last], 0 =>
    show 256 * fresh.toNat + 256 * last.toNat = 256 * last.toNat + 256 * fresh.toNat
    exact Nat.add_comm _ _
  | high :: low :: rest, 0 =>
    show 256 * fresh.toNat + low.toNat + wordSum rest + 256 * high.toNat =
      256 * high.toNat + low.toNat + wordSum rest + 256 * fresh.toNat
    omega
  | high :: low :: rest, 1 =>
    show 256 * high.toNat + fresh.toNat + wordSum rest + 1 * low.toNat =
      256 * high.toNat + low.toNat + wordSum rest + 1 * fresh.toNat
    omega
  | high :: low :: rest, index + 2 =>
    have shorter := wordSum_set rest index fresh (by simpa using inside)
    have same : weight (index + 2) = weight index := by rw [weight, Nat.add_mod_right, weight]
    have here : Octets.octetAt (high :: low :: rest) (index + 2) = Octets.octetAt rest index := rfl
    rw [same, here, List.set_cons_succ, List.set_cons_succ, wordSum, wordSum]
    omega

theorem wordSum_pos (octets : Octets) (marked : Octets.octetAt octets 0 ≠ 0) :
    0 < wordSum octets := by
  have positive : 0 < (Octets.octetAt octets 0).toNat :=
    Nat.pos_of_ne_zero fun zero => marked (UInt8.toNat_inj.mp zero)
  match octets with
  | [] => exact absurd rfl marked
  | [last] =>
    show 0 < 256 * (Octets.octetAt [last] 0).toNat
    omega
  | high :: low :: rest =>
    show 0 < 256 * (Octets.octetAt (high :: low :: rest) 0).toNat + low.toNat + wordSum rest
    omega

/-- Behind a first octet that is not zero, no octet can be replaced without the checksum becoming
another. -/
theorem compute_set_ne (octets : Octets) (index : Nat) (fresh : UInt8)
    (inside : index < octets.length) (marked : Octets.octetAt octets 0 ≠ 0) (later : 0 < index)
    (replaced : fresh ≠ Octets.octetAt octets index) :
    compute (octets.set index fresh) ≠ compute octets := by
  have sums := wordSum_set octets index fresh inside
  have positive := wordSum_pos octets marked
  have positiveToo : 0 < wordSum (octets.set index fresh) := by
    refine wordSum_pos _ ?_
    rwa [Octets.octetAt_set_ne _ _ _ _ (by omega)]
  have differs : fresh.toNat ≠ (Octets.octetAt octets index).toNat :=
    fun same => replaced (UInt8.toNat_inj.mp same)
  have freshBound := fresh.toNat_lt
  have oldBound := (Octets.octetAt octets index).toNat_lt
  have near : wordSum (octets.set index fresh) ≠ wordSum octets ∧
      wordSum (octets.set index fresh) < wordSum octets + 65535 ∧
      wordSum octets < wordSum (octets.set index fresh) + 65535 := by
    unfold weight at sums
    split at sums <;> omega
  have folds := fold_ne _ _ positiveToo positive near.1 near.2.1 near.2.2
  have bound := fold_le (wordSum octets)
  have boundToo := fold_le (wordSum (octets.set index fresh))
  intro same
  have words := congrArg UInt16.toNat same
  rw [toNat_compute, toNat_compute] at words
  omega

end Ipv4Router.Checksum
