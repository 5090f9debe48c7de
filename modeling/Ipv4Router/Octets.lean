/-
This file holds octet strings and the numbers written in them. Every number on
the wire is written in network byte order, the most significant octet first, so
one pair of functions between octets and numbers serves fields of every width.
The two functions are inverse on octet strings of a given length.
-/

namespace Ipv4Router

/-- A string of octets, as it travels on a link. -/
abbrev Octets := List UInt8

namespace Octets

/-! ### Numbers -/

/-- The number whose base-256 digits are the octets, the most significant first. -/
def toNat (octets : Octets) : Nat :=
  octets.foldl (fun number octet => 256 * number + octet.toNat) 0

/-- The lowest `count` base-256 digits of a number, the most significant first. -/
def ofNat : (count : Nat) → (number : Nat) → Octets
  | 0, _ => []
  | count + 1, number => ofNat count (number / 256) ++ [UInt8.ofNat number]

/-- A 16-bit word as two octets. -/
def ofWord16 (word : UInt16) : Octets := ofNat 2 word.toNat

/-- A 32-bit word as four octets. -/
def ofWord32 (word : UInt32) : Octets := ofNat 4 word.toNat

theorem toNat_append_singleton (octets : Octets) (last : UInt8) :
    toNat (octets ++ [last]) = 256 * toNat octets + last.toNat := by
  simp [toNat]

theorem length_ofNat (count number : Nat) : (ofNat count number).length = count := by
  induction count generalizing number with
  | zero => rfl
  | succ count inductionHypothesis => simp [ofNat, inductionHypothesis]

/-- Reading back the octets of a number gives the octets. -/
theorem ofNat_length_toNat (octets : Octets) : ofNat octets.length (toNat octets) = octets := by
  suffices reversed : ∀ digits : Octets,
      ofNat digits.reverse.length (toNat digits.reverse) = digits.reverse by
    simpa using reversed octets.reverse
  intro digits
  induction digits with
  | nil => rfl
  | cons last digits inductionHypothesis =>
    have bound := last.toNat_lt
    rw [List.reverse_cons, toNat_append_singleton, List.length_append, List.length_singleton, ofNat]
    refine congr (congrArg _ ?_) ?_
    · rw [show (256 * toNat digits.reverse + last.toNat) / 256 = toNat digits.reverse by omega,
        inductionHypothesis]
    · refine congrArg (fun octet => [octet]) (UInt8.toNat_inj.mp ?_)
      rw [UInt8.toNat_ofNat']
      omega

/-! ### Fields -/

/-- The `width` octets from `offset` on. -/
def field (octets : Octets) (offset width : Nat) : Octets := (octets.drop offset).take width

/-- The octet at `offset`; zero past the end. -/
def octetAt (octets : Octets) (offset : Nat) : UInt8 := octets.getD offset 0

/-- The 16-bit word at `offset`. -/
def word16At (octets : Octets) (offset : Nat) : UInt16 :=
  UInt16.ofNat (toNat (field octets offset 2))

/-- The 32-bit word at `offset`. -/
def word32At (octets : Octets) (offset : Nat) : UInt32 :=
  UInt32.ofNat (toNat (field octets offset 4))

/-- The octets with those from `offset` on replaced by `fresh`, the length kept. -/
def overwrite (octets : Octets) (offset : Nat) (fresh : Octets) : Octets :=
  octets.take offset ++ fresh ++ octets.drop (offset + fresh.length)

theorem length_overwrite (octets : Octets) (offset : Nat) (fresh : Octets)
    (fits : offset + fresh.length ≤ octets.length) :
    (overwrite octets offset fresh).length = octets.length := by
  simp only [overwrite, List.length_append, List.length_take, List.length_drop]
  omega

end Octets

end Ipv4Router
