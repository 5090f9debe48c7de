/-
This file decides whether a configuration makes sense. Names must differ, times must
be positive, and every configured route must lead out of a configured interface to a
network, through no group of gateways. The first fault in this order is reported.
-/

import Ipv4Router.Configuration.Basic

namespace Ipv4Router.Configuration

/-- The first name that repeats an earlier one. -/
def firstRepeated? (seen : List String) : List String → Option String
  | [] => none
  | name :: rest => if name ∈ seen then some name else firstRepeated? (name :: seen) rest

/-- The names of the configured interfaces. -/
def names (configuration : Configuration) : List String :=
  configuration.interfaces.map InterfaceSetting.name

/-- The first fault of the configured times. -/
def timerProblem? (configuration : Configuration) : Option TimerProblem :=
  let routing := configuration.routing
  let neighbors := configuration.neighbors
  if routing.updateSeconds = 0 then some .updateNotPositive
  else if routing.timeoutSeconds < routing.updateSeconds then some .timeoutBelowUpdate
  else if neighbors.retryMilliseconds = 0 ∨ neighbors.maxRequests = 0 then some .retryNotPositive
  else none

/-- The first fault of a configured route. -/
def routeFault? (names : List String) (route : RouteSetting) : Option ConfigurationFault :=
  if route.interface ∉ names then some (.unknownRouteInterface route.destination route.interface)
  else if route.destination.address ≠ route.destination.network then
    some (.hostBitsSet route.destination)
  else if route.gateway.isMulticast || route.gateway == .broadcast then
    some (.invalidGateway route.gateway)
  else none

/-- The first fault of a configuration. -/
def fault? (configuration : Configuration) : Option ConfigurationFault :=
  ((firstRepeated? [] configuration.names).map .duplicateInterface).or <|
    (configuration.timerProblem?.map .invalidTimers).or <|
      configuration.staticRoutes.findSome? (routeFault? configuration.names)

/-- Accepts a configuration without a fault. -/
def validate (configuration : Configuration) : Except ConfigurationFault Unit :=
  match configuration.fault? with
  | some fault => .error fault
  | none => .ok ()

end Ipv4Router.Configuration
