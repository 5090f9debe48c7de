/-
This file defines the router's ports. An interface has a name, the address and mask
of the router on the attached subnet, and a link address.
-/

import Ipv4Router.Address.Ipv4
import Ipv4Router.Address.Mac
import Ipv4Router.Column

namespace Ipv4Router

/-- A named port of the router. -/
structure Interface where
  name : String
  address : Ipv4Address
  mask : Ipv4Address
  mac : MacAddress
deriving DecidableEq

namespace Interface

/-- The address of the attached subnet. -/
def network (interface : Interface) : Ipv4Address := interface.address.masked interface.mask

/-- The interface on one line: name, address and mask in columns, then the link address. -/
def text (interface : Interface) : String :=
  s!"{Column.left 8 interface.name} {Column.left 15 interface.address.text} " ++
  s!"{Column.left 15 interface.mask.text} {interface.mac}"

end Interface

end Ipv4Router
