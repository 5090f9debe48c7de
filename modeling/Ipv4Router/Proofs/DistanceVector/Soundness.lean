/-
This file proves that routes tell the truth about distances. Whatever messages are late,
repeated or lost, and whatever routes expire, a route of some cost stands for a walk of
exactly that many hops to a router that the subnet is attached to. The invariant speaks
of the tables and of the messages in flight together.
-/

import Mathlib
import Ipv4Router.Proofs.DistanceVector.Network
import Ipv4Router.Proofs.DistanceVector.Relaxation

namespace Ipv4Router.DistanceVector

/-! ### The first tables -/

section DirectRoutes

variable (interfaces : List Interface) (now : Nat) (table : RouteTable)

/-- The tables that are built up from direct routes. -/
def Direct (interfaces : List Interface) (table : RouteTable) : Prop :=
  ∀ route ∈ table.routes, ∃ interface ∈ interfaces, ∃ now, route = .direct interface now

theorem direct_insert (interface : Interface) (member : interface ∈ interfaces)
    (direct : Direct interfaces table) :
    Direct interfaces (table.insert (.direct interface now)).1 := by
  intro route inTable
  rcases Keyed.mem_put _ _ _ _ inTable with rfl | old
  · exact ⟨interface, member, now, rfl⟩
  · exact direct route old

theorem isSome_insert (interface : Interface) (key : RouteKey)
    (present : subnetKey interface = key ∨ (table.find? key.1 key.2).isSome = true) :
    ((table.insert (.direct interface now)).1.find? key.1 key.2).isSome = true := by
  by_cases same : subnetKey interface = key
  · rw [← same]
    exact Option.isSome_of_eq_some (table.find?_insert_self (.direct interface now))
  · rw [table.find?_insert_other (.direct interface now) key.1 key.2 same]
    exact present.resolve_left same

/-- Adding direct routes adds one for every interface, and no other route. -/
theorem direct_foldl (added : List Interface) (among : ∀ interface ∈ added, interface ∈ interfaces)
    (direct : Direct interfaces table) :
    let after := added.foldl (fun table interface => (table.insert (.direct interface now)).1) table
    Direct interfaces after ∧ ∀ key : RouteKey,
      (∃ interface ∈ added, subnetKey interface = key) ∨ (table.find? key.1 key.2).isSome = true →
        (after.find? key.1 key.2).isSome = true := by
  induction added generalizing table with
  | nil => exact ⟨direct, fun key present => present.resolve_left (by rintro ⟨_, ⟨⟩, _⟩)⟩
  | cons interface rest inductionHypothesis =>
    obtain ⟨directAfter, presentAfter⟩ := inductionHypothesis
      (table.insert (.direct interface now)).1
      (fun later member => among later (List.mem_cons_of_mem _ member))
      (direct_insert interfaces now table interface (among interface List.mem_cons_self) direct)
    refine ⟨directAfter, fun key present => presentAfter key ?_⟩
    rcases present with ⟨subnet, member, same⟩ | old
    · rcases List.mem_cons.mp member with rfl | later
      · exact Or.inr (isSome_insert now table subnet key (Or.inl same))
      · exact Or.inl ⟨subnet, later, same⟩
    · exact Or.inr (isSome_insert now table interface key (Or.inr old))

theorem direct_withDirectRoutes (registry : Registry) :
    Direct registry.interfaces (withDirectRoutes registry .empty now) ∧ ∀ key : RouteKey,
      (∃ interface ∈ registry.interfaces, subnetKey interface = key) →
        ((withDirectRoutes registry .empty now).find? key.1 key.2).isSome = true := by
  obtain ⟨direct, present⟩ := direct_foldl registry.interfaces now .empty registry.interfaces
    (fun _ member => member) nofun
  exact ⟨direct, fun key attached => present key (Or.inl attached)⟩

end DirectRoutes

/-! ### Tables and messages that tell the truth -/

theorem State.route?_of_mem {Node : Type} (state : State Node) (router : Node) (route : Route)
    (member : route ∈ (state.tables router).routes) :
    state.route? router route.key = some route :=
  RouteTable.find?_of_mem _ route member

namespace Network

variable {Node Link : Type} (network : Network Node Link)

/-- What a router may have in its table: the route to an attached subnet, or a route through a
neighbour from where so many hops lead to a router with the subnet attached. -/
inductive Grounded (router : Node) (route : Route) : Prop
  | attached (interface : Interface) (own : interface ∈ (network.registry router).interfaces)
    (now : Nat) (same : route = .direct interface now)
  | learned (interface : Interface) (own : interface ∈ (network.registry router).interfaces)
    (neighbor : Node) (peer : Interface) (foreign : peer ∈ (network.registry neighbor).interfaces)
    (different : router ≠ neighbor)
    (shared : network.linkOf router interface = network.linkOf neighbor peer)
    (fromNeighbor : route.origin = .learned) (gateway : route.gateway = peer.address)
    (through : route.interface = interface.name)
    (isNetwork : route.destination.isNetworkOf route.mask = true)
    (hops : Nat) (cost : route.cost.toNat = hops + 1) (near : hops < 15)
    (walk : Arrives network.Linked (network.Attached route.key) neighbor hops)

/-- A table that tells the truth, and knows the attached subnets. -/
structure TableSound (router : Node) (table : RouteTable) : Prop where
  grounded : ∀ route ∈ table.routes, network.Grounded router route
  complete : ∀ key, network.Attached key router →
    ∃ route, table.find? key.1 key.2 = some route ∧ route.origin = .direct

/-- A message that tells the truth. -/
structure MessageSound (message : Message Node) : Prop where
  own : message.interface ∈ (network.registry message.sender).interfaces
  walk : ∀ entry ∈ message.entries,
    Arrives network.Linked (network.Attached (entry.address, entry.mask)) message.sender
      entry.metric.toNat

/-- All tables and all messages in flight tell the truth. -/
structure Sound (state : State Node) : Prop where
  tables : ∀ router, network.TableSound router (state.tables router)
  messages : ∀ message ∈ state.sent, network.MessageSound message

section Routes

variable {network} {router : Node} {route : Route}

theorem Grounded.isNetwork (grounded : network.Grounded router route) :
    route.destination.isNetworkOf route.mask = true := by
  cases grounded with
  | attached interface own now same =>
    rw [same]
    exact Ipv4Address.isNetworkOf_masked interface.address interface.mask
  | learned _ _ _ _ _ _ _ _ _ _ isNetwork => exact isNetwork

/-- The cost of a route is the length of a walk. -/
theorem Grounded.walk (grounded : network.Grounded router route) :
    Arrives network.Linked (network.Attached route.key) router route.cost.toNat := by
  cases grounded with
  | attached interface own now same =>
    rw [same]
    exact .here router ⟨interface, own, rfl⟩
  | learned interface own neighbor peer foreign different shared _ _ _ _ hops cost _ walk =>
    rw [cost]
    exact .further router neighbor hops ⟨different, interface, own, peer, foreign, shared⟩ walk

theorem Grounded.cost_le (grounded : network.Grounded router route) : route.cost.toNat ≤ 15 := by
  cases grounded with
  | attached interface own now same =>
    rw [same]
    exact Nat.zero_le 15
  | learned _ _ _ _ _ _ _ _ _ _ _ hops cost near =>
    rw [cost]
    exact near

/-- A route that was not learned is direct: its subnet is attached, and it never expires. -/
theorem Grounded.attached_of_ne (grounded : network.Grounded router route)
    (notLearned : route.origin ≠ .learned) :
    network.Attached route.key router ∧ route.cost = 0 ∧ route.isAttached = true := by
  cases grounded with
  | attached interface own now same =>
    rw [same]
    exact ⟨⟨interface, own, rfl⟩, rfl, rfl⟩
  | learned _ _ _ _ _ _ _ fromNeighbor => exact absurd fromNeighbor notLearned

/-- A learned route leads to another router on a shared link. -/
theorem Grounded.neighbor_of_learned (grounded : network.Grounded router route)
    (learned : route.origin = .learned) :
    ∃ neighbor, network.Linked router neighbor ∧ network.Owns neighbor route.gateway ∧
      route.gateway ≠ .unspecified := by
  cases grounded with
  | attached interface own now same =>
    rw [same] at learned
    cases learned
  | learned interface own neighbor peer foreign different shared _ gateway =>
    rw [gateway]
    exact ⟨neighbor, ⟨different, interface, own, peer, foreign, shared⟩, ⟨peer, foreign, rfl⟩,
      network.specified neighbor peer foreign⟩

end Routes

/-! ### The start -/

theorem tableSound_start (router : Node) (now : Nat) :
    network.TableSound router (withDirectRoutes (network.registry router) .empty now) := by
  obtain ⟨direct, present⟩ := direct_withDirectRoutes now (network.registry router)
  refine ⟨fun route member => ?_, fun key attached => ?_⟩
  · obtain ⟨interface, own, time, same⟩ := direct route member
    exact .attached interface own time same
  · obtain ⟨route, found⟩ := Option.isSome_iff_exists.mp (present key attached)
    obtain ⟨interface, -, time, same⟩ := direct route
      (RouteTable.mem_of_find? _ _ _ _ found).1
    exact ⟨route, found, by rw [same]; rfl⟩

/-! ### Routes of a sound state -/

namespace Sound

variable {network} {state : State Node} (sound : network.Sound state) (router : Node)

include sound

theorem grounded_of_route? (key : RouteKey) (route : Route)
    (found : state.route? router key = some route) :
    network.Grounded router route ∧ route.key = key := by
  obtain ⟨member, destination, mask⟩ := RouteTable.mem_of_find? _ _ _ _ found
  exact ⟨(sound.tables router).grounded route member, by rw [Route.key, destination, mask]⟩

theorem walk_of_route? (key : RouteKey) (route : Route)
    (found : state.route? router key = some route) :
    Arrives network.Linked (network.Attached key) router route.cost.toNat := by
  obtain ⟨grounded, about⟩ := sound.grounded_of_route? router key route found
  rw [← about]
  exact grounded.walk

/-- A route that was not learned is for an attached subnet. -/
theorem attached_of_route? (key : RouteKey) (route : Route)
    (found : state.route? router key = some route) (notLearned : route.origin ≠ .learned) :
    network.Attached key router ∧ route.cost = 0 := by
  obtain ⟨grounded, about⟩ := sound.grounded_of_route? router key route found
  obtain ⟨attached, free, -⟩ := grounded.attached_of_ne notLearned
  rw [about] at attached
  exact ⟨attached, free⟩

end Sound

/-! ### One step -/

theorem walk_of_advertised (router : Node) (table : RouteTable)
    (sound : network.TableSound router table) (interface : String) (nextHop : Ipv4Address)
    (entry : RipEntry) (member : entry ∈ table.advertised interface nextHop) :
    Arrives network.Linked (network.Attached (entry.address, entry.mask)) router
      entry.metric.toNat := by
  obtain ⟨route, inTable, -, rfl⟩ := (table.mem_advertised interface nextHop entry).mp member
  exact (sound.grounded route inTable).walk

/-- An entry that tells the truth leaves a table that does. -/
theorem tableSound_relax (router : Node) (table : RouteTable)
    (sound : network.TableSound router table) (message : Message Node)
    (truthful : network.MessageSound message) (different : message.sender ≠ router)
    (interface : Interface) (own : interface ∈ (network.registry router).interfaces)
    (shared : network.linkOf router interface =
      network.linkOf message.sender message.interface)
    (now : Nat) (entry : RipEntry) (member : entry ∈ message.entries) :
    let hearing : Hearing := ⟨message.interface.address, interface.name, now⟩
    network.TableSound router (hearing.relax table entry).1 := by
  intro hearing
  rcases hearing.relaxed_relax table entry with same | ⟨offers, worse, self, others⟩
  · rw [same]
    exact sound
  · refine ⟨fun route inTable => ?_, fun key attached => ?_⟩
    · have found := RouteTable.find?_of_mem _ route inTable
      by_cases about : (entry.address, entry.mask) = (route.destination, route.mask)
      · obtain ⟨destination, mask⟩ := Prod.mk.inj about
        rw [← destination, ← mask, self, Option.some_inj] at found
        rw [← found]
        exact .learned interface own message.sender message.interface truthful.own different.symm
          shared rfl rfl rfl offers.isNetwork entry.metric.toNat
          (Hearing.toNat_add_one entry.metric offers.near) (UInt32.lt_iff_toNat_lt.mp offers.near)
          (truthful.walk entry member)
      · rw [others _ _ about] at found
        exact sound.grounded route (table.mem_of_find? _ _ _ found).1
    · obtain ⟨route, found, direct⟩ := sound.complete key attached
      refine ⟨route, ?_, direct⟩
      rw [others key.1 key.2 ?_]
      · exact found
      · intro about
        obtain ⟨destination, mask⟩ := Prod.mk.inj about
        rw [← destination, ← mask] at found
        have learned := (worse route found).1
        rw [direct] at learned
        cases learned

theorem tableSound_expire (router : Node) (table : RouteTable)
    (sound : network.TableSound router table) (timeout now : Nat) :
    network.TableSound router (expire table timeout now).1 := by
  refine ⟨fun route member => ?_, fun key attached => ?_⟩
  · exact sound.grounded route (List.mem_of_mem_filter member)
  · obtain ⟨route, found, direct⟩ := sound.complete key attached
    refine ⟨route, ?_, direct⟩
    obtain ⟨inTable, -⟩ := table.mem_of_find? _ _ _ found
    have notLearned : route.origin ≠ .learned := by
      rw [direct]
      exact Origin.noConfusion
    have isAttached := ((sound.grounded route inTable).attached_of_ne notLearned).2.2
    have fresh : route.isStale now timeout = false := by
      rw [Route.isStale, Route.canExpire, isAttached]
      rfl
    show (table.expire now timeout).1.find? key.1 key.2 = some route
    rw [RouteTable.find?_expire, found, Option.filter_some, fresh]
    rfl

variable [DecidableEq Node]

theorem sound_step (state : State Node) (sound : network.Sound state) (action : Action Node)
    (enabled : network.Enabled state action) : network.Sound (state.perform action) := by
  cases action with
  | emit router interface =>
    refine ⟨sound.tables, fun message member => ?_⟩
    rcases List.mem_append.mp member with old | new
    · exact sound.messages message old
    · rw [List.mem_singleton.mp new]
      exact ⟨enabled, network.walk_of_advertised router _ (sound.tables router) interface.name
        interface.address⟩
  | deliver message router interface now =>
    obtain ⟨inFlight, different, own, shared⟩ := enabled
    refine ⟨state.withTable_keeps router _ network.TableSound sound.tables ?_, sound.messages⟩
    refine Hearing.absorb_keeps _ _ (network.TableSound router) message.entries ?_
      (sound.tables router)
    intro table entry member before
    exact network.tableSound_relax router table before message (sound.messages message inFlight)
      different interface own shared now entry member
  | expire router timeout now =>
    exact ⟨state.withTable_keeps router _ network.TableSound sound.tables
      (network.tableSound_expire router _ (sound.tables router) timeout now), sound.messages⟩

/-- Whatever happens, tables and messages tell the truth. -/
theorem sound_of_reachable (state : State Node) (reachable : network.Reachable state) :
    network.Sound state := by
  induction reachable with
  | start now => exact ⟨fun router => network.tableSound_start router (now router), nofun⟩
  | step state action _ enabled _ inductionHypothesis =>
    exact network.sound_step state inductionHypothesis action enabled

end Network

end Ipv4Router.DistanceVector
