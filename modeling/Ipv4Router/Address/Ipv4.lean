/-
This file defines IPv4 addresses. An address is a 32-bit string; subnet masks are
addresses too. Addresses are written as four decimal octets between points, and an
address that is read must have no leading zeros.
-/

import Ipv4Router.Octets
import Ipv4Router.Address.Digits

namespace Ipv4Router

/-- An IPv4 address or subnet mask. -/
structure Ipv4Address where
  bits : BitVec 32
deriving DecidableEq, Inhabited

namespace Ipv4Address

/-! ### Octets -/

/-- The address written in network order. -/
def ofOctets (octets : Octets) : Ipv4Address := ⟨BitVec.ofNat 32 (Octets.toNat octets)⟩

/-- The four octets of the address. -/
def octets (address : Ipv4Address) : Octets := Octets.ofNat 4 address.bits.toNat

/-- The address with the given four octets. -/
def ofParts (first second third fourth : UInt8) : Ipv4Address :=
  ofOctets [first, second, third, fourth]

/-! ### Distinguished addresses -/

/-- 0.0.0.0, which stands for no address. -/
def unspecified : Ipv4Address := ⟨0⟩

/-- 255.255.255.255, every host on the link. -/
def broadcast : Ipv4Address := ⟨BitVec.allOnes 32⟩

/-- Multicast addresses begin with the bits 1110. -/
def isMulticast (address : Ipv4Address) : Bool := address.bits.extractLsb' 28 4 == 0b1110#4

/-! ### Masks -/

/-- The bits of the address that the mask keeps. -/
def masked (address mask : Ipv4Address) : Ipv4Address := ⟨address.bits &&& mask.bits⟩

/-- No bit of the address lies outside the mask. -/
def isNetworkOf (address mask : Ipv4Address) : Bool := address.bits &&& ~~~mask.bits == 0#32

/-- The number of one bits of a mask. -/
def onesCount (mask : Ipv4Address) : Nat := mask.bits.cpop.toNat

/-- The mask whose `length` highest bits are one. -/
def maskOfLength (length : Nat) : Ipv4Address := ⟨BitVec.allOnes 32 <<< (32 - length)⟩

/-! ### Text -/

/-- The four octets in decimal, between points. -/
def text (address : Ipv4Address) : String :=
  ".".intercalate (address.octets.map fun octet => toString octet.toNat)

instance : ToString Ipv4Address := ⟨text⟩

/-- Reads an octet of at most three digits without leading zeros. -/
def octetOfText? (digits : List Char) : Option Nat :=
  match digits with
  | '0' :: _ :: _ => none
  | _ => Digits.decimalUpTo? 3 255 digits

/-- The address made of four octets given as numbers. -/
def ofNumbers? : List Nat → Option Ipv4Address
  | [first, second, third, fourth] =>
    some (ofParts (.ofNat first) (.ofNat second) (.ofNat third) (.ofNat fourth))
  | _ => none

/-- Reads an address. -/
def ofText? (text : String) : Option Ipv4Address :=
  ((Digits.parts '.' text.toList).mapM octetOfText?).bind ofNumbers?

end Ipv4Address

end Ipv4Router
