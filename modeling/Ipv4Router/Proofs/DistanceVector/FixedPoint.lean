/-
This file proves that a network whose routers have nothing more to tell each other knows
all distances. By induction on the distance, the next router on a shortest path has the
right cost already, and the advertisement of it has been heard. Split horizon withholds
a route only from the link that it leads through, and no shortest path enters and leaves
a link on the same way: a router on that link would be nearer itself.
-/

import Ipv4Router.Proofs.DistanceVector.Soundness

namespace Ipv4Router.DistanceVector

namespace Network

variable {Node Link : Type} (network : Network Node Link)

/-- Every link has a subnet of its own, which all interfaces on the link have. -/
structure Subnetted (subnetOf : Link → RouteKey) : Prop where
  carries : ∀ router, ∀ interface ∈ (network.registry router).interfaces,
    subnetKey interface = subnetOf (network.linkOf router interface)
  injective : Function.Injective subnetOf

/-- The router has an interface on the link. -/
def OnLink (link : Link) (router : Node) : Prop :=
  ∃ interface ∈ (network.registry router).interfaces, network.linkOf router interface = link

/-- Whatever a router would advertise on a link now changes nothing at the others there, each of
which has its own clock. -/
def Stable (state : State Node) (now : Node → Nat) : Prop :=
  ∀ router neighbor, router ≠ neighbor →
    ∀ interface ∈ (network.registry router).interfaces,
    ∀ peer ∈ (network.registry neighbor).interfaces,
      network.linkOf router interface = network.linkOf neighbor peer →
        (Hearing.absorb ⟨peer.address, interface.name, now router⟩ (state.tables router)
          ((state.tables neighbor).advertised peer.name peer.address)).2.1 = 0

/-! ### Distances -/

section Distances

variable (goal : Node → Prop) (router : Node)

/-- Where some number of hops leads to a goal, a least number does. -/
theorem exists_distance (hops : Nat) (arrives : Arrives network.Linked goal router hops) :
    ∃ distance ≤ hops, network.IsDistance goal router distance := by
  classical
  have some : ∃ hops, Arrives network.Linked goal router hops := ⟨hops, arrives⟩
  exact ⟨Nat.find some, Nat.find_min' some arrives, Nat.find_spec some,
    fun other also => Nat.find_min' some also⟩

/-- The next router on a shortest path is one hop nearer. -/
theorem nearer_neighbor (distance : Nat)
    (isDistance : network.IsDistance goal router (distance + 1)) :
    ∃ neighbor, network.Linked router neighbor ∧ network.IsDistance goal neighbor distance := by
  obtain ⟨arrives, least⟩ := isDistance
  cases arrives with
  | further _ neighbor _ next rest =>
    refine ⟨neighbor, next, rest, fun hops shorter => ?_⟩
    exact Nat.le_of_succ_le_succ (least (hops + 1) (.further router neighbor hops next shorter))

theorem not_goal_of_distance (distance : Nat)
    (isDistance : network.IsDistance goal router (distance + 1)) : ¬ goal router := fun isGoal =>
  Nat.not_succ_le_zero distance (isDistance.2 0 (.here router isGoal))

end Distances

theorem eq_of_name (router : Node) (first second : Interface)
    (firstOwn : first ∈ (network.registry router).interfaces)
    (secondOwn : second ∈ (network.registry router).interfaces)
    (same : first.name = second.name) : first = second :=
  List.inj_on_of_nodup_map (network.registry router).named firstOwn secondOwn same

theorem attached_eq_onLink (subnetOf : Link → RouteKey) (subnetted : network.Subnetted subnetOf)
    (link : Link) : network.Attached (subnetOf link) = network.OnLink link := by
  funext router
  refine propext ⟨?_, ?_⟩
  · rintro ⟨interface, own, same⟩
    rw [subnetted.carries router interface own] at same
    exact ⟨interface, own, subnetted.injective same⟩
  · rintro ⟨interface, own, rfl⟩
    exact ⟨interface, own, subnetted.carries router interface own⟩

/-! ### Stable states -/

section StableStates

variable (subnetOf : Link → RouteKey) (subnetted : network.Subnetted subnetOf)
  (state : State Node) (sound : network.Sound state) (key : RouteKey)

include subnetted in
/-- Split horizon withholds nothing that a shortest path needs: if the route of the next router
led through the link that is shared with it, the path would be too long. -/
theorem interface_ne_of_distance (router neighbor : Node) (interface peer : Interface)
    (own : interface ∈ (network.registry router).interfaces)
    (foreign : peer ∈ (network.registry neighbor).interfaces)
    (shared : network.linkOf router interface = network.linkOf neighbor peer) (route : Route)
    (grounded : network.Grounded neighbor route)
    (isDistance : network.IsDistance (network.Attached route.key) router
      (route.cost.toNat + 1)) : route.interface ≠ peer.name := by
  intro through
  cases grounded with
  | attached outward outwardOwn now same =>
    -- The subnet of the link is attached to the router too.
    rw [same] at through isDistance
    have outwardIs := network.eq_of_name neighbor outward peer outwardOwn foreign through
    refine network.not_goal_of_distance _ router _ isDistance ⟨interface, own, ?_⟩
    rw [subnetted.carries router interface own, shared, ← outwardIs,
      ← subnetted.carries neighbor outward outwardOwn]
    rfl
  | learned outward outwardOwn further gate gateOwn different across _ _ name _ hops cost _ walk =>
    -- The gateway is on the link too, so it is the router itself or next to it.
    have outwardIs := network.eq_of_name neighbor outward peer outwardOwn foreign
      (name.symm.trans through)
    rw [cost] at isDistance
    by_cases same : router = further
    · rw [← same] at walk
      have tooLong := isDistance.2 hops walk
      omega
    · have linked : network.Linked router further :=
        ⟨same, interface, own, gate, gateOwn, by rw [shared, ← outwardIs, across]⟩
      have tooLong := isDistance.2 (hops + 1) (.further router further hops linked walk)
      omega

include subnetted sound in
/-- A router next to one that has the right cost has the right cost too. -/
theorem route_of_neighbor (now : Node → Nat) (stable : network.Stable state now) (distance : Nat)
    (near : distance < 15) (router neighbor : Node) (linked : network.Linked router neighbor)
    (isDistance : network.IsDistance (network.Attached key) router (distance + 1)) (known : Route)
    (found : state.route? neighbor key = some known) (cost : known.cost.toNat = distance) :
    ∃ route, state.route? router key = some route ∧ route.cost.toNat = distance + 1 := by
  obtain ⟨different, interface, own, peer, foreign, shared⟩ := linked
  obtain ⟨grounded, knownKey⟩ := sound.grounded_of_route? neighbor key known found
  have elsewhere : known.interface ≠ peer.name := by
    refine network.interface_ne_of_distance subnetOf subnetted router neighbor interface peer own
      foreign shared known grounded ?_
    rw [knownKey, cost]
    exact isDistance
  let entry := RipEntry.inet known.destination known.mask peer.address known.cost
  have advertised : entry ∈ (state.tables neighbor).advertised peer.name peer.address :=
    (RouteTable.mem_advertised _ _ _ entry).mpr
      ⟨known, (RouteTable.mem_of_find? _ _ _ _ found).1, elsewhere, rfl⟩
  have countable : known.cost < 15 := UInt32.lt_iff_toNat_lt.mpr (cost ▸ near)
  have offers : Hearing.Offers entry := ⟨rfl, grounded.isNetwork, countable⟩
  obtain ⟨route, foundRoute, notDearer⟩ := Hearing.settled_of_absorb _ _ entry _
    (stable router neighbor different interface own peer foreign shared) advertised offers
  change state.route? router known.key = some route at foundRoute
  rw [knownKey] at foundRoute
  refine ⟨route, foundRoute, ?_⟩
  by_cases learned : route.origin = .learned
  · have atLeast := isDistance.2 _ (sound.walk_of_route? router key route foundRoute)
    have atMost : route.cost.toNat ≤ (known.cost + 1).toNat :=
      UInt32.le_iff_toNat_le.mp (notDearer learned)
    rw [Hearing.toNat_add_one known.cost countable, cost] at atMost
    exact Nat.le_antisymm atMost atLeast
  · obtain ⟨attached, -⟩ := sound.attached_of_route? router key route foundRoute learned
    exact absurd attached (network.not_goal_of_distance _ router distance isDistance)

include subnetted sound in
/-- In a stable state, every router within fifteen hops knows its distance. -/
theorem route_of_distance (now : Node → Nat) (stable : network.Stable state now) (distance : Nat)
    (near : distance ≤ 15) (router : Node)
    (isDistance : network.IsDistance (network.Attached key) router distance) :
    ∃ route, state.route? router key = some route ∧ route.cost.toNat = distance := by
  induction distance generalizing router with
  | zero =>
    cases isDistance.1 with
    | here _ attached =>
      obtain ⟨route, found, direct⟩ := (sound.tables router).complete key attached
      obtain ⟨-, free⟩ := sound.attached_of_route? router key route found
        (by rw [direct]; exact Origin.noConfusion)
      exact ⟨route, found, by rw [free]; rfl⟩
  | succ distance inductionHypothesis =>
    obtain ⟨neighbor, linked, nearer⟩ :=
      network.nearer_neighbor (network.Attached key) router distance isDistance
    obtain ⟨known, found, cost⟩ := inductionHypothesis (Nat.le_of_succ_le near) neighbor nearer
    exact network.route_of_neighbor subnetOf subnetted state sound key now stable distance near
      router neighbor linked isDistance known found cost

end StableStates

/-- A reachable state where no advertisement changes anything any more is right about every link:
a router up to fifteen hops away has a route to its subnet that costs the distance, and a router
farther away, or cut off, has none. -/
theorem stable_costs_distance [DecidableEq Node] (subnetOf : Link → RouteKey)
    (subnetted : network.Subnetted subnetOf) (state : State Node)
    (reachable : network.Reachable state) (now : Node → Nat) (stable : network.Stable state now)
    (router : Node) (link : Link) :
    (∀ distance ≤ 15, network.IsDistance (network.OnLink link) router distance →
      ∃ route, state.route? router (subnetOf link) = some route ∧
        route.cost.toNat = distance) ∧
      ((∀ distance, network.IsDistance (network.OnLink link) router distance → 15 < distance) →
        state.route? router (subnetOf link) = none) := by
  have sound := network.sound_of_reachable state reachable
  rw [← network.attached_eq_onLink subnetOf subnetted link]
  refine ⟨fun distance near isDistance => ?_, fun far => ?_⟩
  · exact network.route_of_distance subnetOf subnetted state sound (subnetOf link) now stable
      distance near router isDistance
  · by_contra present
    obtain ⟨route, found⟩ := Option.ne_none_iff_exists'.mp present
    have bound := (sound.grounded_of_route? router (subnetOf link) route found).1.cost_le
    obtain ⟨distance, least, isDistance⟩ := network.exists_distance _ router _
      (sound.walk_of_route? router (subnetOf link) route found)
    exact absurd (far distance isDistance) (Nat.not_lt.mpr (Nat.le_trans least bound))

end Network

namespace TwoRouters

/-- The subnets of the shared link and of the other one. -/
def subnetOf : Bool → RouteKey
  | true => (.ofParts 10 0 0 0, .ofParts 255 255 255 0)
  | false => distant

theorem subnetted : network.Subnetted subnetOf := by
  refine ⟨by decide, ?_⟩
  unfold Function.Injective
  decide

theorem stable_state : network.Stable state fun _ => 9 := by
  unfold Network.Stable
  decide

theorem isDistance_one : network.IsDistance (network.OnLink false) true 1 := by
  have linked : network.Linked true false := by
    unfold Network.Linked
    decide
  have near : network.OnLink false false := by
    unfold Network.OnLink
    decide
  have far : ¬ network.OnLink false true := by
    unfold Network.OnLink
    decide
  refine ⟨.further true false 0 linked (.here false near), fun hops arrives => ?_⟩
  cases arrives with
  | here _ isGoal => exact absurd isGoal far
  | further _ _ hops _ _ => exact Nat.succ_le_succ (Nat.zero_le hops)

end TwoRouters

/-- The second router has the route to the link that is one hop away. -/
theorem stable_costs_distance_two_routers :
    TwoRouters.network.Subnetted TwoRouters.subnetOf ∧
      TwoRouters.network.Reachable TwoRouters.state ∧
      (TwoRouters.network.Stable TwoRouters.state fun _ => 9) ∧
      ∃ route, TwoRouters.state.route? true (TwoRouters.subnetOf false) = some route ∧
        route.cost.toNat = 1 := by
  have reachable := TwoRouters.reached_state fun _ => False
  obtain ⟨near, -⟩ := TwoRouters.network.stable_costs_distance TwoRouters.subnetOf
    TwoRouters.subnetted TwoRouters.state reachable (fun _ => 9) TwoRouters.stable_state true false
  exact ⟨TwoRouters.subnetted, reachable, TwoRouters.stable_state,
    near 1 (Nat.le_add_left 1 14) TwoRouters.isDistance_one⟩

end Ipv4Router.DistanceVector
