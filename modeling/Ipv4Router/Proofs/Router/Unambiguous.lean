/-
This file shows that the way in which a router came to know its routes plays no role for
what it forwards. Whatever it lives through, its table has one route for each destination
and mask, and all destinations are networks. So two routes that cover one address have
different masks, the greatest mask decides, and the order of the table does not.
-/

import Ipv4Router.Proofs.DistanceVector.BestOffers
import Ipv4Router.Proofs.Route.Lookup
import Ipv4Router.Proofs.Router.Run

namespace Ipv4Router

/-! ### Tables -/

namespace RouteTable

/-- All destinations are networks. -/
def Unambiguous (table : RouteTable) : Prop :=
  ∀ key ∈ table.keys, key.1.isNetworkOf key.2 = true

variable {table : RouteTable} (unambiguous : table.Unambiguous)

theorem unambiguous_empty : Unambiguous .empty := nofun

include unambiguous

theorem Unambiguous.insert (route : Route)
    (isNetwork : route.destination.isNetworkOf route.mask = true) :
    (table.insert route).1.Unambiguous := by
  intro key member
  obtain ⟨other, inTable, rfl⟩ := List.mem_map.mp member
  rcases Keyed.mem_put Route.key route table.routes other inTable with rfl | old
  · exact isNetwork
  · exact unambiguous other.key (List.mem_map_of_mem old)

/-- An advertisement gets destinations into the table only if they are networks. -/
theorem Unambiguous.relax (hearing : DistanceVector.Hearing) (entry : RipEntry) :
    (hearing.relax table entry).1.Unambiguous := by
  intro key member
  rw [hearing.keys_relax table entry] at member
  split at member
  · rename_i added
    rcases List.mem_append.mp member with old | new
    · exact unambiguous key old
    · rw [List.mem_singleton.mp new]
      exact added.1.isNetwork
  · exact unambiguous key member

theorem Unambiguous.expire (now timeout : Nat) : (table.expire now timeout).1.Unambiguous :=
  fun key member => unambiguous key ((List.filter_sublist.map Route.key).subset member)

theorem Unambiguous.isNetwork (route : Route) (member : route ∈ table.routes) :
    route.destination.isNetworkOf route.mask = true :=
  unambiguous route.key (List.mem_map_of_mem member)

/-- Two routes that cover an address under one mask are for one destination. -/
theorem Unambiguous.key_eq (address : Ipv4Address) (first second : Route)
    (firstMember : first ∈ table.routes) (secondMember : second ∈ table.routes)
    (firstCovers : first.covers address = true) (secondCovers : second.covers address = true)
    (sameMask : first.mask = second.mask) : first.key = second.key :=
  first.key_eq_of_covers second address (unambiguous.isNetwork first firstMember)
    (unambiguous.isNetwork second secondMember) firstCovers secondCovers sameMask

/-- No two routes cover an address under one mask. -/
theorem Unambiguous.masks_ne (address : Ipv4Address) :
    table.routes.Pairwise fun first second =>
      first.covers address = true → second.covers address = true → first.mask ≠ second.mask := by
  refine List.Pairwise.imp_of_mem (fun firstMember secondMember different firstCovers secondCovers
    sameMask => ?_) (List.pairwise_map.mp table.unique)
  exact different (unambiguous.key_eq address _ _ firstMember secondMember firstCovers
    secondCovers sameMask)

/-- The order of the routes plays no role for what an address is forwarded by. -/
theorem Unambiguous.lookup?_eq (other : RouteTable) (perm : other.routes.Perm table.routes)
    (address : Ipv4Address) : other.lookup? address = table.lookup? address := by
  refine table.lookup?_perm address other perm fun first firstMember second secondMember
    firstCovers secondCovers sameMask => ?_
  have sameKey := unambiguous.key_eq address first second firstMember secondMember firstCovers
    secondCovers sameMask
  have found := Keyed.find?_of_mem Route.key table.routes table.unique first firstMember
  rw [sameKey] at found
  exact Option.some_inj.mp (found.symm.trans
    (Keyed.find?_of_mem Route.key table.routes table.unique second secondMember))

end RouteTable

namespace Router

/-! ### Runs -/

section Runs

variable {start router : Router} {history : List Moment}

/-- Configured destinations are cut to networks. -/
theorem Fresh.unambiguous (fresh : router.Fresh) : router.table.Unambiguous := by
  cases fresh with
  | bare registry settings => exact RouteTable.unambiguous_empty
  | configured configuration hostMac? now router setup =>
    obtain ⟨-, registry, -, rfl⟩ := eq_of_ofConfiguration configuration hostMac? now router setup
    refine List.foldlRecOn (configuration.routes now) _ RouteTable.unambiguous_empty
      fun table unambiguous route member => unambiguous.insert route ?_
    obtain ⟨setting, -, rfl⟩ := List.mem_map.mp member
    exact Ipv4Address.isNetworkOf_masked setting.destination.address setting.destination.mask

theorem Moment.unambiguous_after (moment : Moment)
    (unambiguous : moment.before.table.Unambiguous) : moment.after.table.Unambiguous :=
  moment.table_keeps RouteTable.Unambiguous
    (fun _ interface before => before.insert _
      (Ipv4Address.isNetworkOf_masked interface.address interface.mask))
    (fun hearing _ entry before => before.relax hearing entry)
    (fun _ timeout before => before.expire moment.now timeout) unambiguous

theorem Run.unambiguous (run : Run start history router) (fresh : start.Fresh) :
    router.table.Unambiguous :=
  run.keeps (fun router => router.table.Unambiguous) Moment.unambiguous_after fresh.unambiguous

/-- Whatever a router lives through, no destination in its table has a bit outside its mask, and no
two routes have one destination and mask. So no two routes of one mask cover the same address, and
a table with the same routes in any other order forwards every address by the same route. -/
theorem lookup_any_order (run : Run start history router) (fresh : start.Fresh) :
    (∀ route ∈ router.table.routes, route.destination.bits &&& ~~~route.mask.bits = 0) ∧
    router.table.routes.Pairwise (fun first second =>
      (first.destination, first.mask) ≠ (second.destination, second.mask)) ∧
    ∀ address : Ipv4Address,
      router.table.routes.Pairwise (fun first second =>
        first.covers address = true → second.covers address = true → first.mask ≠ second.mask) ∧
      ∀ table : RouteTable, table.routes.Perm router.table.routes →
        table.lookup? address = router.table.lookup? address := by
  have unambiguous := run.unambiguous fresh
  refine ⟨fun route member => ?_, List.pairwise_map.mp router.table.unique, fun address =>
    ⟨unambiguous.masks_ne address, fun table perm => unambiguous.lookup?_eq table perm address⟩⟩
  exact beq_iff_eq.mp (unambiguous.isNetwork route member)

end Runs

/-! ### Networks within a network -/

namespace Nested

/-- The neighbour offers a network, a smaller one within it, and one that is written wrongly. -/
def frame : Octets :=
  (DistanceVector.messageFrame? 16 Stations.neighbor .everyone (.response
    [.inet (.ofParts 10 9 0 0) (.ofParts 255 255 0 0) .unspecified 1,
      .inet (.ofParts 10 9 1 0) (.ofParts 255 255 255 0) .unspecified 4,
      .inet (.ofParts 10 9 1 7) (.ofParts 255 255 255 0) .unspecified 1])).getD []

def told : Moment := ⟨Stations.prepared.after, 5, .receive frame "eth0"⟩

theorem run : Run Stations.router [Stations.prepared, told] told.after :=
  .record [Stations.prepared] told (.record [] Stations.prepared .begin)

/-- What the router forwards addresses of the smaller network by. -/
def route : Route :=
  .learned (.ofParts 10 9 1 0) (.ofParts 255 255 255 0) (.ofParts 10 0 0 2) "eth0" 5 5

/-- The table with its routes the other way round. -/
def reversed : RouteTable where
  routes := told.after.table.routes.reverse
  unique := ((List.reverse_perm _).map Route.key).nodup_iff.mpr told.after.table.unique

end Nested

/-- The smaller network is chosen also if the routes stand the other way round. -/
theorem lookup_any_order_nested :
    Stations.router.Fresh ∧
      Run Stations.router [Stations.prepared, Nested.told] Nested.told.after ∧
      Nested.told.after.table.routes.length = 4 ∧
      Nested.reversed.lookup? (.ofParts 10 9 1 7) = some Nested.route := by
  have chosen : Nested.told.after.table.lookup? (.ofParts 10 9 1 7) = some Nested.route := by
    decide +kernel
  obtain ⟨-, -, anyOrder⟩ := lookup_any_order Nested.run Stations.fresh
  have sameRoutes := List.reverse_perm Nested.told.after.table.routes
  exact ⟨Stations.fresh, Nested.run, by decide +kernel,
    ((anyOrder _).2 Nested.reversed sameRoutes).trans chosen⟩

end Router

end Ipv4Router
