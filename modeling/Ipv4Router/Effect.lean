/-
This file defines what a step of the router does to the world: it sends frames out
of interfaces and writes notices to the log. A step yields its effects in order; the
frames and the notices are read off the list separately.
-/

import Ipv4Router.Notice

namespace Ipv4Router

/-- One thing that a step does besides changing the router. -/
inductive Effect
  | transmit (interface : String) (frame : Octets)
  | note (notice : Notice)
deriving DecidableEq

namespace Effect

/-- The interface and the frame, if one is sent. -/
def transmission? : Effect → Option (String × Octets)
  | transmit interface frame => some (interface, frame)
  | note _ => none

/-- The notice, if one is written. -/
def notice? : Effect → Option Notice
  | transmit _ _ => none
  | note notice => some notice

/-- The frames sent, each with its interface, in order. -/
def transmissions (effects : List Effect) : List (String × Octets) :=
  effects.filterMap transmission?

end Effect

end Ipv4Router
