/-
This file defines the configuration of a router, with the defaults of everything that
may be left out, and the reasons for which a configuration is refused.
-/

import Ipv4Router.Address.Subnet
import Ipv4Router.ControlMessage
import Ipv4Router.Json.Reader

namespace Ipv4Router

/-- A configured interface. Without a link address, that of the host's port of the same name is
used. -/
structure InterfaceSetting where
  name : String
  subnet : Subnet
  mac : Option String := none
deriving DecidableEq

/-- The configured exchange of routes. -/
structure RoutingSetting where
  enabled : Bool := true
  updateSeconds : Nat := 10
  timeoutSeconds : Nat := 30
  ttl : UInt8 := 16
deriving DecidableEq

/-- The configured resolution of link addresses. -/
structure NeighborSetting where
  retryMilliseconds : Nat := 1000
  maxRequests : Nat := 5
  bindingTimeoutSeconds : Nat := 15
deriving DecidableEq

/-- A configured route. -/
structure RouteSetting where
  destination : Subnet
  gateway : Ipv4Address := .unspecified
  interface : String
  cost : UInt32 := 0
deriving DecidableEq

/-- The configuration of a router. -/
structure Configuration where
  interfaces : List InterfaceSetting
  routing : RoutingSetting := {}
  neighbors : NeighborSetting := {}
  staticRoutes : List RouteSetting := []
  controlTtl : UInt8 := ControlMessage.defaultTtl
deriving DecidableEq

/-! ### Faults -/

/-- What is wrong with configured times. -/
inductive TimerProblem
  | updateNotPositive
  | timeoutBelowUpdate
  | retryNotPositive
deriving DecidableEq

/-- Why a file gives no text. -/
inductive FileProblem
  | notFound
  | notText
deriving DecidableEq

/-- Why a configuration is refused. -/
inductive ConfigurationFault
  | unreadable (problem : FileProblem)
  | unparsable (fault : Json.Fault)
  | duplicateInterface (name : String)
  | invalidMac (name written : String)
  | missingMac (name : String)
  | unknownRouteInterface (destination : Subnet) (interface : String)
  | hostBitsSet (destination : Subnet)
  | invalidGateway (gateway : Ipv4Address)
  | invalidTimers (problem : TimerProblem)
deriving DecidableEq

namespace TimerProblem

def text : TimerProblem → String
  | updateNotPositive => "rip.update_interval_secs must be positive"
  | timeoutBelowUpdate => "rip.timeout_secs must be at least rip.update_interval_secs"
  | retryNotPositive => "arp.retry_interval_ms and arp.max_retries must be positive"

end TimerProblem

namespace FileProblem

def text : FileProblem → String
  | notFound => "No such file or directory"
  | notText => "stream did not contain valid UTF-8"

end FileProblem

namespace Json.Fault

def text : Json.Fault → String
  | malformed => "malformed JSON"
  | unexpected => "unexpected value"
  | unfinished => "unexpected end of text"

end Json.Fault

namespace ConfigurationFault

/-- The reason in words. -/
def message : ConfigurationFault → String
  | unreadable problem => s!"IO error: {problem.text}"
  | unparsable fault => s!"parse error: {fault.text}"
  | duplicateInterface name => s!"duplicate interface name: {name}"
  | invalidMac name written => s!"invalid MAC address for {name}: {written}"
  | missingMac name => s!"no MAC address configured or discoverable for {name}"
  | unknownRouteInterface destination interface =>
    s!"static route {destination} refers to unknown interface {interface}"
  | hostBitsSet destination =>
    s!"static route destination {destination} is not a network address"
  | invalidGateway gateway => s!"gateway {gateway} is not a unicast address"
  | invalidTimers problem => s!"invalid timer settings: {problem.text}"

end ConfigurationFault

end Ipv4Router
