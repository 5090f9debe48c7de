/-
This file defines the route table: routes unique by destination and mask, in the
order in which these were first added. A lookup prefers the greater mask, and among
equal masks the route that stands first. Split horizon keeps a route from being
advertised out of the interface that it leads through.
-/

import Ipv4Router.Keyed
import Ipv4Router.Route.Basic
import Ipv4Router.Wire.Rip

namespace Ipv4Router

/-- The route table. -/
structure RouteTable where
  routes : List Route
  unique : Keyed.Unique Route.key routes
deriving DecidableEq

namespace RouteTable

def empty : RouteTable := ⟨[], List.nodup_nil⟩

def size (table : RouteTable) : Nat := table.routes.length

/-! ### Reading -/

/-- The route of exactly this destination and mask. -/
def find? (table : RouteTable) (destination mask : Ipv4Address) : Option Route :=
  Keyed.find? Route.key (destination, mask) table.routes

/-- The better of two routes to one address: the first, unless the second has a greater mask. -/
def prefer (best : Option Route) (route : Route) : Option Route :=
  match best with
  | some current => if route.mask.bits ≤ current.mask.bits then some current else some route
  | none => some route

/-- The route that an address is forwarded by. -/
def lookup? (table : RouteTable) (address : Ipv4Address) : Option Route :=
  (table.routes.filter (·.covers address)).foldl prefer none

/-- What is advertised out of an interface, with the address on that interface as next hop. -/
def advertised (table : RouteTable) (interface : String) (nextHop : Ipv4Address) :
    List RipEntry :=
  (table.routes.filter fun route => route.interface != interface).map fun route =>
    .inet route.destination route.mask nextHop route.cost

/-! ### Changing -/

/-- Adds a route, in the place of one with the same destination and mask if there is one; tells
whether there was none. -/
def insert (table : RouteTable) (route : Route) : RouteTable × Bool :=
  (⟨Keyed.put Route.key route table.routes, Keyed.unique_put _ _ table.unique route⟩,
    (table.find? route.destination route.mask).isNone)

/-- Gives the route of a destination and mask a gateway, an interface and a time, and a cost if
one is given; tells whether there is such a route. -/
def update (table : RouteTable) (destination mask gateway : Ipv4Address) (interface : String)
    (now : Nat) (cost : Option UInt32) : RouteTable × Bool :=
  let redirected (route : Route) : Route :=
    { route with gateway, interface, updatedAt := now, cost := cost.getD route.cost }
  (⟨Keyed.adjust Route.key (destination, mask) redirected table.routes,
      Keyed.unique_adjust _ _ table.unique _ _ fun _ => rfl⟩,
    (table.find? destination mask).isSome)

/-- Takes out the route of a destination and mask. -/
def remove (table : RouteTable) (destination mask : Ipv4Address) : RouteTable × Option Route :=
  (⟨Keyed.erase Route.key (destination, mask) table.routes,
      Keyed.unique_erase _ _ table.unique _⟩,
    table.find? destination mask)

/-- Takes out the stale routes. -/
def expire (table : RouteTable) (now timeout : Nat) : RouteTable × List Route :=
  (⟨table.routes.filter fun route => !route.isStale now timeout,
      Keyed.unique_filter _ _ table.unique _⟩,
    table.routes.filter fun route => route.isStale now timeout)

/-! ### Text -/

/-- Five cells in columns, and a line end. -/
def line (destination gateway mask interface cost : String) : String :=
  s!"{Column.left 16 destination} {Column.left 16 gateway} {Column.left 16 mask} " ++
  s!"{Column.left 10 interface} {Column.left 6 cost}\n"

/-- The table in columns, under a heading and a rule. -/
def text (table : RouteTable) : String :=
  line "Destination" "Gateway" "Mask" "Iface" "Cost" ++
  String.ofList (List.replicate 68 '-') ++ "\n" ++
  String.join (table.routes.map fun route =>
    line route.destination.text route.gateway.text route.mask.text route.interface
      (toString route.cost.toNat))

instance : ToString RouteTable := ⟨text⟩

end RouteTable

end Ipv4Router
