/-
This file defines routes. A route sends what matches its destination under its mask
to a gateway, or straight to the destination when the gateway is 0.0.0.0. Times are
milliseconds on the router's clock, and an age is never negative.
-/

import Ipv4Router.Interface.Basic

namespace Ipv4Router

/-- Where a route comes from. -/
inductive Origin
  | direct
  | static
  | learned
deriving DecidableEq

/-- A route. -/
structure Route where
  destination : Ipv4Address
  mask : Ipv4Address
  gateway : Ipv4Address
  interface : String
  cost : UInt32
  updatedAt : Nat
  origin : Origin
deriving DecidableEq

namespace Route

/-- The route to the subnet attached to an interface. -/
def direct (interface : Interface) (now : Nat) : Route where
  destination := interface.network
  mask := interface.mask
  gateway := .unspecified
  interface := interface.name
  cost := 0
  updatedAt := now
  origin := .direct

/-- A route learned from a neighbour. -/
def learned (destination mask gateway : Ipv4Address) (interface : String) (cost : UInt32)
    (now : Nat) : Route where
  destination
  mask
  gateway
  interface
  cost
  updatedAt := now
  origin := .learned

/-- A table holds one route for each destination and mask. -/
def key (route : Route) : Ipv4Address × Ipv4Address := (route.destination, route.mask)

/-- The route has no gateway. -/
def isAttached (route : Route) : Bool := route.gateway == .unspecified

/-- Only routes through a gateway that nobody configured age out. -/
def canExpire (route : Route) : Bool := !route.isAttached && route.origin != .static

/-- The route can expire and was not refreshed for the time given. -/
def isStale (route : Route) (now timeout : Nat) : Bool :=
  route.canExpire && timeout ≤ now - route.updatedAt

/-- The address agrees with the destination in all bits of the mask. -/
def covers (route : Route) (address : Ipv4Address) : Bool :=
  address.masked route.mask == route.destination.masked route.mask

/-- The number of one bits of the mask. -/
def prefixLength (route : Route) : Nat := route.mask.onesCount

/-- The address whose link address a datagram to `destination` is sent to. -/
def nextHop (route : Route) (destination : Ipv4Address) : Ipv4Address :=
  if route.isAttached then destination else route.gateway

end Route

end Ipv4Router
