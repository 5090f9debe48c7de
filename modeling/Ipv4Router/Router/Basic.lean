/-
This file defines the router: its interfaces and settings, its route table, and what
it knows of its neighbours. A step takes the router and the time and yields the new
router and the effects.
-/

import Ipv4Router.DistanceVector.Exchange
import Ipv4Router.Neighbor.Resolution

namespace Ipv4Router

/-- How a router is set up. -/
structure RouterSettings where
  routing : DistanceVector.Settings := {}
  neighbors : Neighbor.Settings := {}
  controlTtl : UInt8 := ControlMessage.defaultTtl
  routingEnabled : Bool := true
deriving DecidableEq

/-- The router. -/
structure Router where
  registry : Registry
  settings : RouterSettings
  table : RouteTable := .empty
  neighbors : Neighbor.Cache := .empty
deriving DecidableEq

namespace Router

/-! ### Routes -/

/-- Adds a configured route. -/
def addStaticRoute (router : Router) (route : Route) : Router × List Effect :=
  ({ router with table := (router.table.insert route).1 },
    [.note (.addedStaticRoute route.destination route.mask route.gateway route.interface)])

/-- The table with a route to every attached subnet that it has none for. -/
def withMissingDirectRoutes (registry : Registry) (table : RouteTable) (now : Nat) : RouteTable :=
  registry.interfaces.foldl
    (fun table interface =>
      match table.find? interface.network interface.mask with
      | some _ => table
      | none => (table.insert (.direct interface now)).1)
    table

/-- Puts in the attached subnets. With dynamic routing, they replace whatever the table has for
them and all neighbours are asked for their tables; without it, known routes stay. -/
def prepare (router : Router) (now : Nat) : Router × List Effect :=
  if router.settings.routingEnabled then
    let table := DistanceVector.withDirectRoutes router.registry router.table now
    ({ router with table },
      .note (.initialRoutes table) ::
        DistanceVector.askEveryone router.registry router.settings.routing.ttl)
  else
    let table := withMissingDirectRoutes router.registry router.table now
    ({ router with table }, [.note (.staticRoutes table)])

/-! ### Duties -/

/-- Takes out the stale routes and advertises the others. -/
def advertise (router : Router) (now : Nat) : Router × List Effect :=
  let (table, effects) :=
    DistanceVector.beat router.registry router.settings.routing router.table now
  ({ router with table }, effects)

/-- Sweeps the neighbour cache. -/
def sweep (router : Router) (now : Nat) : Router × List Effect :=
  let (neighbors, effects) :=
    Neighbor.sweep router.registry router.settings.neighbors router.neighbors now
  ({ router with neighbors }, effects)

end Router

end Ipv4Router
