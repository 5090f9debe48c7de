/-
This file defines the 48-bit link addresses of Ethernet. They are written as six
octets of two lower-case hexadecimal digits between colons; when one is read, each
part may have any number of digits and a plus sign, as long as its value fits.
-/

import Ipv4Router.Octets
import Ipv4Router.Address.Digits

namespace Ipv4Router

/-- An Ethernet link address. -/
structure MacAddress where
  bits : BitVec 48
deriving DecidableEq, Inhabited

namespace MacAddress

/-- The address written in network order. -/
def ofOctets (octets : Octets) : MacAddress := ⟨BitVec.ofNat 48 (Octets.toNat octets)⟩

/-- The six octets of the address. -/
def octets (address : MacAddress) : Octets := Octets.ofNat 6 address.bits.toNat

/-- The address of no station, a placeholder for one not yet known. -/
def zero : MacAddress := ⟨0⟩

/-- The address of every station on the link. -/
def broadcast : MacAddress := ⟨BitVec.allOnes 48⟩

/-- The lowest bit of the first octet marks the address of a group of stations. -/
def isGroup (address : MacAddress) : Bool := address.bits.getLsbD 40

/-! ### Text -/

/-- The six octets in hexadecimal, between colons. -/
def text (address : MacAddress) : String :=
  ":".intercalate (address.octets.map Digits.hexadecimalOctet)

instance : ToString MacAddress := ⟨text⟩

/-- Reads one part: an optional plus sign and at least one hexadecimal digit. -/
def octetOfText? (part : List Char) : Option UInt8 :=
  let digits := match part with
    | '+' :: digits => digits
    | digits => digits
  if digits.isEmpty then none
  else ((Digits.value? Digits.hexadecimal? 16 digits).filter (· ≤ 255)).map UInt8.ofNat

/-- Reads an address of exactly six parts. -/
def ofText? (text : String) : Option MacAddress :=
  ((Digits.parts ':' text.toList).mapM octetOfText?).bind fun octets =>
    if octets.length = 6 then some (ofOctets octets) else none

end MacAddress

end Ipv4Router
