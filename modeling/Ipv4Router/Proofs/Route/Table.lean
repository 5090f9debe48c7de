/-
This file describes the route table by the route that it has for each destination and
mask. Adding, changing and taking out routes touches one destination and mask at a time.
-/

import Ipv4Router.Proofs.Keyed
import Ipv4Router.Route.Table

namespace Ipv4Router

/-! ### Networks -/

namespace Ipv4Address

theorem isNetworkOf_masked (address mask : Ipv4Address) :
    (address.masked mask).isNetworkOf mask = true := by
  show ((address.bits &&& mask.bits) &&& ~~~mask.bits == 0#32) = true
  rw [BitVec.and_assoc, BitVec.and_not_self]
  exact beq_iff_eq.mpr BitVec.and_zero

theorem masked_of_isNetworkOf (address mask : Ipv4Address)
    (isNetwork : address.isNetworkOf mask = true) : address.masked mask = address := by
  have outside : address.bits &&& ~~~mask.bits = 0#32 := beq_iff_eq.mp isNetwork
  have inside : address.bits &&& mask.bits = address.bits := by
    calc address.bits &&& mask.bits
        = (address.bits &&& mask.bits) ||| (address.bits &&& ~~~mask.bits) := by
          rw [outside, BitVec.or_zero]
      _ = address.bits &&& (mask.bits ||| ~~~mask.bits) := BitVec.and_or_distrib_left.symm
      _ = address.bits := by rw [BitVec.or_not_self, BitVec.and_allOnes]
  rw [masked, inside]

end Ipv4Address

theorem Route.masked_of_covers (route : Route) (address : Ipv4Address)
    (isNetwork : route.destination.isNetworkOf route.mask = true)
    (covers : route.covers address = true) : address.masked route.mask = route.destination :=
  (beq_iff_eq.mp covers).trans (Ipv4Address.masked_of_isNetworkOf _ _ isNetwork)

/-- Two routes to networks that cover one address under one mask have the same destination. -/
theorem Route.key_eq_of_covers (first second : Route) (address : Ipv4Address)
    (firstNetwork : first.destination.isNetworkOf first.mask = true)
    (secondNetwork : second.destination.isNetworkOf second.mask = true)
    (firstCovers : first.covers address = true) (secondCovers : second.covers address = true)
    (sameMask : first.mask = second.mask) : first.key = second.key := by
  rw [key, key, ← first.masked_of_covers address firstNetwork firstCovers,
    ← second.masked_of_covers address secondNetwork secondCovers, sameMask]

/-! ### Routes of a table -/

/-- The route with another gateway, and another cost if one is given. -/
def Route.redirected (route : Route) (gateway : Ipv4Address) (interface : String) (now : Nat)
    (cost : Option UInt32) : Route :=
  { route with gateway, interface, updatedAt := now, cost := cost.getD route.cost }

theorem Route.key_redirected (gateway : Ipv4Address) (interface : String) (now : Nat)
    (cost : Option UInt32) (route : Route) :
    (route.redirected gateway interface now cost).key = route.key := rfl

namespace RouteTable

/-- The destinations and masks of the routes, in order. -/
def keys (table : RouteTable) : List (Ipv4Address × Ipv4Address) := table.routes.map Route.key

section Reading

variable (table : RouteTable)

theorem find?_eq_none (key : Ipv4Address × Ipv4Address) :
    table.find? key.1 key.2 = none ↔ key ∉ table.keys :=
  Keyed.find?_eq_none Route.key key table.routes

theorem mem_of_find? (destination mask : Ipv4Address) (route : Route)
    (found : table.find? destination mask = some route) :
    route ∈ table.routes ∧ route.destination = destination ∧ route.mask = mask := by
  obtain ⟨member, key⟩ := Keyed.mem_of_find? _ _ _ _ found
  exact ⟨member, Prod.mk.inj key⟩

theorem find?_of_mem (route : Route) (member : route ∈ table.routes) :
    table.find? route.destination route.mask = some route :=
  Keyed.find?_of_mem Route.key _ table.unique route member

/-- What is advertised out of an interface are the routes that do not lead through it. -/
theorem mem_advertised (interface : String) (nextHop : Ipv4Address) (entry : RipEntry) :
    entry ∈ table.advertised interface nextHop ↔ ∃ route ∈ table.routes,
      route.interface ≠ interface ∧
        entry = .inet route.destination route.mask nextHop route.cost := by
  constructor
  · intro member
    obtain ⟨route, selected, rfl⟩ := List.mem_map.mp member
    obtain ⟨inTable, elsewhere⟩ := List.mem_filter.mp selected
    exact ⟨route, inTable, bne_iff_ne.mp elsewhere, rfl⟩
  · rintro ⟨route, inTable, elsewhere, rfl⟩
    exact List.mem_map.mpr ⟨route, List.mem_filter.mpr ⟨inTable, bne_iff_ne.mpr elsewhere⟩, rfl⟩

end Reading

/-! ### Changing -/

section Changing

variable (table : RouteTable)

theorem find?_insert_self (route : Route) :
    (table.insert route).1.find? route.destination route.mask = some route :=
  Keyed.find?_put_self Route.key route table.routes

theorem find?_insert_other (route : Route) (destination mask : Ipv4Address)
    (different : route.key ≠ (destination, mask)) :
    (table.insert route).1.find? destination mask = table.find? destination mask :=
  Keyed.find?_put_other Route.key route table.routes _ different

theorem keys_insert_of_absent (route : Route)
    (absent : table.find? route.destination route.mask = none) :
    (table.insert route).1.keys = table.keys ++ [route.key] := by
  show (Keyed.put Route.key route table.routes).map Route.key = table.keys ++ [route.key]
  rw [Keyed.put_of_absent Route.key route table.routes absent, List.map_append]
  rfl

/-- Every route of a table to which routes were added is one of them or was there before. -/
theorem mem_foldl_insert (routes : List Route) (route : Route)
    (member : route ∈ (routes.foldl (fun table route => (table.insert route).1) table).routes) :
    route ∈ routes ∨ route ∈ table.routes := by
  refine List.foldlRecOn routes (fun table route => (table.insert route).1)
    (motive := fun after : RouteTable => ∀ route ∈ after.routes,
      route ∈ routes ∨ route ∈ table.routes)
    (fun _ => Or.inr) (fun after holds added inRoutes => ?_) route member
  intro route member
  rcases Keyed.mem_put Route.key added after.routes route member with rfl | inTable
  · exact Or.inl inRoutes
  · exact holds route inTable

variable (destination mask gateway : Ipv4Address) (interface : String) (now : Nat)
  (cost : Option UInt32)

theorem routes_update :
    (table.update destination mask gateway interface now cost).1.routes =
      Keyed.adjust Route.key (destination, mask) (·.redirected gateway interface now cost)
        table.routes := rfl

theorem find?_update_self :
    (table.update destination mask gateway interface now cost).1.find? destination mask =
      (table.find? destination mask).map (·.redirected gateway interface now cost) := by
  rw [find?, routes_update]
  exact Keyed.find?_adjust_self Route.key _ _ (Route.key_redirected gateway interface now cost)
    table.routes

theorem find?_update_other (otherDestination otherMask : Ipv4Address)
    (different : (destination, mask) ≠ (otherDestination, otherMask)) :
    (table.update destination mask gateway interface now cost).1.find? otherDestination
      otherMask = table.find? otherDestination otherMask := by
  rw [find?, routes_update]
  exact Keyed.find?_adjust_other Route.key _ _ (Route.key_redirected gateway interface now cost)
    table.routes _ different

theorem keys_update :
    (table.update destination mask gateway interface now cost).1.keys = table.keys := by
  rw [keys, routes_update]
  exact Keyed.map_adjust Route.key _ _ (Route.key_redirected gateway interface now cost)
    table.routes

theorem find?_expire (timeout : Nat) :
    (table.expire now timeout).1.find? destination mask =
      (table.find? destination mask).filter fun route => !route.isStale now timeout :=
  Keyed.find?_filter Route.key _ _ table.routes table.unique

end Changing

end RouteTable

end Ipv4Router
