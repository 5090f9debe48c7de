/-
This file defines an address together with the length of its subnet's prefix, as
in `192.168.1.1/24`. The length is at most 32 by the type. Unlike a lone address,
an address with a length may be written with leading zeros.
-/

import Ipv4Router.Address.Ipv4

namespace Ipv4Router

/-- An address and the number of its leading bits that name its subnet. -/
structure Subnet where
  address : Ipv4Address
  length : Nat
  length_le : length ≤ 32
deriving DecidableEq

namespace Subnet

/-- The subnet mask. -/
def mask (subnet : Subnet) : Ipv4Address := Ipv4Address.maskOfLength subnet.length

/-- The address of the subnet itself, whose bits outside the mask are zero. -/
def network (subnet : Subnet) : Ipv4Address := subnet.address.masked subnet.mask

/-- The address, a slash and the length. -/
def text (subnet : Subnet) : String := s!"{subnet.address}/{subnet.length}"

instance : ToString Subnet := ⟨text⟩

/-- Reads an address with a length. -/
def ofText? (text : String) : Option Subnet :=
  match Digits.parts '/' text.toList with
  | [address, length] => do
    let octets ← (Digits.parts '.' address).mapM (Digits.decimalUpTo? 3 255)
    let address ← Ipv4Address.ofNumbers? octets
    let length ← Digits.decimalUpTo? 2 32 length
    if bound : length ≤ 32 then some ⟨address, length, bound⟩ else none
  | _ => none

end Subnet

end Ipv4Router
