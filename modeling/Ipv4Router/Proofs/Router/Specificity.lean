/-
This file says how specific the route is that an address is forwarded by. A router may pass
over a more specific route, but only one whose mask has a zero bit before a one bit. No
configuration has such a mask; it comes from an interface that was given one or from an
advertisement, whose masks are taken as they are. Where all masks are prefixes, the route is
the most specific one.
-/

import Ipv4Router.Proofs.Route.Specificity
import Ipv4Router.Proofs.Router.Provenance

namespace Ipv4Router

/-! ### Configured masks -/

theorem Subnet.isPrefix_mask (subnet : Subnet) : subnet.mask.IsPrefix :=
  ⟨subnet.length, subnet.length_le, rfl⟩

namespace Router

section Configured

variable (configuration : Configuration) (hostMac? : String → Option MacAddress) (now : Nat)
  (router : Router) (setup : ofConfiguration configuration hostMac? now = .ok router)

include setup

theorem isPrefix_of_configured_interface (interface : Interface)
    (member : interface ∈ router.registry.interfaces) : interface.mask.IsPrefix := by
  obtain ⟨valid, registry, built, rfl⟩ := eq_of_ofConfiguration configuration hostMac? now router
    setup
  have described := configuration.built_of_registry hostMac? registry
    (configuration.names_of_validate valid).1 built
  have among : (interface.name, interface.address, interface.mask) ∈
      configuration.interfaces.map fun setting =>
        (setting.name, setting.subnet.address, setting.subnet.mask) :=
    described ▸ List.mem_map_of_mem member
  obtain ⟨setting, -, same⟩ := List.mem_map.mp among
  have masks : setting.subnet.mask = interface.mask := congrArg (fun parts => parts.2.2) same
  exact masks ▸ setting.subnet.isPrefix_mask

theorem isPrefix_of_configured_route (route : Route) (member : route ∈ router.table.routes) :
    route.mask.IsPrefix := by
  obtain ⟨-, registry, -, rfl⟩ := eq_of_ofConfiguration configuration hostMac? now router setup
  obtain ⟨setting, -, rfl⟩ := configuration.mem_table now route member
  exact setting.destination.isPrefix_mask

end Configured

/-! ### Masks in the table -/

section Runs

variable {start router : Router} {history : List Moment}

/-- A mask in the table is a prefix, or that of an interface, or it was advertised. -/
theorem Run.mask_source (run : Run start history router) (fresh : start.Fresh) (route : Route)
    (member : route ∈ router.table.routes) :
    route.mask.IsPrefix ∨ (∃ interface ∈ start.registry.interfaces, interface.mask = route.mask) ∨
      ∃ moment ∈ history, moment.Teaches route := by
  rcases run.source route (router.table.find?_of_mem route member) with
    initial | ⟨moment, inHistory, -, teaches⟩ | ⟨interface, registered, now, rfl⟩
  · have inStart := (RouteTable.mem_of_find? _ _ _ _ initial).1
    cases fresh with
    | bare registry settings => cases inStart
    | configured configuration hostMac? now _ setup =>
      exact Or.inl (isPrefix_of_configured_route configuration hostMac? now start setup route
        inStart)
  · exact Or.inr (Or.inr ⟨moment, inHistory, teaches⟩)
  · exact Or.inr (Or.inl ⟨interface, registered, rfl⟩)

/-- The route that an address is forwarded by is at least as specific as every other that covers the
address and has a prefix for a mask. A more specific one that is passed over has a mask that is no
prefix; and such a mask is that of an interface, or was advertised for this route. So if the
interfaces are configured or have prefixes, and all that was advertised had prefixes, every address
is forwarded by the most specific route. -/
theorem lookup_most_specific (run : Run start history router) (fresh : start.Fresh) :
    (∀ address found, router.table.lookup? address = some found →
      ∀ other ∈ router.table.routes, other.covers address = true →
        (other.mask.IsPrefix → other.prefixLength ≤ found.prefixLength) ∧
        (found.prefixLength < other.prefixLength → ¬ other.mask.IsPrefix ∧
          ((∃ interface ∈ start.registry.interfaces, interface.mask = other.mask) ∨
            ∃ moment ∈ history, moment.Teaches other))) ∧
    ((∃ configuration hostMac? now, ofConfiguration configuration hostMac? now = .ok start) ∨
        (∀ interface ∈ start.registry.interfaces, interface.mask.IsPrefix) →
      (∀ moment ∈ history, ∀ route, moment.Teaches route → route.mask.IsPrefix) →
      router.table.MostSpecific) := by
  have bounded (address : Ipv4Address) (found other : Route)
      (isFound : router.table.lookup? address = some found)
      (member : other ∈ router.table.routes) (covers : other.covers address = true) :=
    router.table.prefixLength_le_of_lookup? address found other isFound member covers
  refine ⟨fun address found isFound other member covers =>
    ⟨bounded address found other isFound member covers, fun passedOver => ?_⟩,
    fun interfaces advertised address found isFound other member covers => ?_⟩
  · have scattered : ¬ other.mask.IsPrefix := fun isPrefix =>
      Nat.not_le.mpr passedOver (bounded address found other isFound member covers isPrefix)
    exact ⟨scattered, (run.mask_source fresh other member).resolve_left scattered⟩
  · refine bounded address found other isFound member covers ?_
    rcases run.mask_source fresh other member with
      isPrefix | ⟨interface, registered, same⟩ | ⟨moment, inHistory, teaches⟩
    · exact isPrefix
    · rw [← same]
      rcases interfaces with ⟨configuration, hostMac?, now, setup⟩ | prefixes
      · exact isPrefix_of_configured_interface configuration hostMac? now start setup interface
          registered
      · exact prefixes interface registered
    · exact advertised moment inHistory other teaches

end Runs

/-! ### A mask that is no prefix -/

namespace Scattered

/-- The neighbour offers two networks, one within the other, and the hosts that have the same last
numbers in all networks of 10.0.0.0/8. -/
def frame : Octets :=
  (DistanceVector.messageFrame? 16 Stations.neighbor .everyone (.response
    [.inet (.ofParts 10 0 0 0) (.ofParts 255 0 0 0) .unspecified 1,
      .inet (.ofParts 10 9 0 0) (.ofParts 255 255 0 0) .unspecified 1,
      .inet (.ofParts 10 0 5 7) (.ofParts 255 0 255 255) .unspecified 1])).getD []

def told : Moment := ⟨Stations.router, 5, .receive frame "eth0"⟩

def outer : Route :=
  .learned (.ofParts 10 0 0 0) (.ofParts 255 0 0 0) (.ofParts 10 0 0 2) "eth0" 2 5

def inner : Route :=
  .learned (.ofParts 10 9 0 0) (.ofParts 255 255 0 0) (.ofParts 10 0 0 2) "eth0" 2 5

/-- The route whose mask has the most one bits, but not the greatest number. -/
def hosts : Route :=
  .learned (.ofParts 10 0 5 7) (.ofParts 255 0 255 255) (.ofParts 10 0 0 2) "eth0" 2 5

/-- All three routes cover the address. -/
def address : Ipv4Address := .ofParts 10 9 5 7

theorem run : Run Stations.router [told] told.after := .record [] told .begin

theorem routes : told.after.table.routes = [outer, inner, hosts] := by decide +kernel

theorem found : told.after.table.lookup? address = some inner := by decide +kernel

end Scattered

/-- The smaller of the two networks is chosen. The hosts are passed over, which the neighbour has
advertised with a mask that is no prefix. -/
theorem lookup_most_specific_scattered :
    Stations.router.Fresh ∧ Run Stations.router [Scattered.told] Scattered.told.after ∧
      Scattered.told.after.table.lookup? Scattered.address = some Scattered.inner ∧
      Scattered.outer.prefixLength ≤ Scattered.inner.prefixLength ∧
      ¬ Scattered.hosts.mask.IsPrefix ∧ Scattered.told.Teaches Scattered.hosts := by
  have chosen := (lookup_most_specific Scattered.run Stations.fresh).1 Scattered.address
    Scattered.inner Scattered.found
  rw [Scattered.routes] at chosen
  have outerIsPrefix : Scattered.outer.mask.IsPrefix := ⟨8, by decide, by decide⟩
  obtain ⟨scattered, source⟩ := (chosen Scattered.hosts (by decide) (by decide)).2 (by decide)
  have elsewhere : ¬ ∃ interface ∈ Stations.registry.interfaces,
      interface.mask = Scattered.hosts.mask := by decide
  obtain ⟨moment, member, teaches⟩ := source.resolve_left elsewhere
  obtain rfl := List.mem_singleton.mp member
  exact ⟨Stations.fresh, Scattered.run, Scattered.found,
    (chosen Scattered.outer (by decide) (by decide)).1 outerIsPrefix, scattered, teaches⟩

/-- So the chosen route is not the most specific one. -/
theorem not_most_specific_scattered :
    Stations.router.Fresh ∧ Run Stations.router [Scattered.told] Scattered.told.after ∧
      ¬ Scattered.told.after.table.MostSpecific := by
  refine ⟨Stations.fresh, Scattered.run, fun mostSpecific => ?_⟩
  have atMost : Scattered.hosts.prefixLength ≤ Scattered.inner.prefixLength :=
    mostSpecific Scattered.address Scattered.inner Scattered.found Scattered.hosts
      (by rw [Scattered.routes]; decide) (by decide)
  exact absurd atMost (by decide)

end Router

end Ipv4Router
