/-
This file defines the host's ports that the router has opened. A port can be opened
only if the host has it, and a frame can be sent only out of an open port.
-/

namespace Ipv4Router

/-- The ports opened for the router's interfaces. -/
structure LinkPorts where
  names : List String := []
deriving DecidableEq

/-- A port that the host does not have. -/
structure MissingPort where
  name : String
deriving DecidableEq

namespace MissingPort

/-- The fault in words. -/
def message (missing : MissingPort) : String := s!"interface {missing.name} not found on host"

end MissingPort

namespace LinkPorts

/-- Opens the ports of some names; the first that the host lacks is reported. -/
def openAll (hostPorts : List String) (names : List String) : Except MissingPort LinkPorts :=
  match names.find? fun name => !hostPorts.contains name with
  | some name => .error ⟨name⟩
  | none => .ok ⟨names⟩

/-- A frame can be sent out of an interface. -/
def canTransmit (ports : LinkPorts) (interface : String) : Bool := ports.names.contains interface

end LinkPorts

end Ipv4Router
