/-
This file proves that following gateways never leads in a circle as long as no route is
taken out. A gateway has a route for the same subnet that costs less, however old the
message was that told of it; so the costs go down along every path of gateways. A
datagram is forwarded by the route with the greatest mask, which may differ from router
to router: along its way the mask grows, or stays the same while the cost goes down.
-/

import Ipv4Router.Proofs.DistanceVector.Soundness
import Ipv4Router.Proofs.Route.Lookup

namespace Ipv4Router.DistanceVector

namespace Network

variable {Node Link : Type} (network : Network Node Link)

/-- The router's learned route for a destination and mask leads to the neighbour. -/
def Follows (state : State Node) (key : RouteKey) (router neighbor : Node) : Prop :=
  ∃ route, state.route? router key = some route ∧ route.origin = .learned ∧
    network.Owns neighbor route.gateway

/-- The router sends datagrams for an address to the neighbour. -/
def Forwards (state : State Node) (address : Ipv4Address) (router neighbor : Node) : Prop :=
  ∃ route, (state.tables router).lookup? address = some route ∧ route.isAttached = false ∧
    network.Owns neighbor (route.nextHop address)

/-- The router sends datagrams for an address straight to it, on an attached subnet. -/
def Delivers (state : State Node) (address : Ipv4Address) (router : Node) : Prop :=
  ∃ route, (state.tables router).lookup? address = some route ∧ route.isAttached = true ∧
    network.Attached route.key router

section Invariant

variable (state : State Node) (key : RouteKey)

/-- Where a learned route of the table leads, a cheaper route is in the state. -/
def Justified (table : RouteTable) : Prop :=
  ∀ route, table.find? key.1 key.2 = some route → route.origin = .learned →
    ∀ neighbor, network.Owns neighbor route.gateway →
      ∃ next, state.route? neighbor key = some next ∧ next.cost < route.cost

/-- The router whose message made a route has a route at least as good still. -/
structure Descending : Prop where
  messages : ∀ message ∈ state.sent, ∀ entry ∈ message.entries,
    (entry.address, entry.mask) = key →
      ∃ next, state.route? message.sender key = some next ∧ next.cost ≤ entry.metric
  routes : ∀ router, network.Justified state key (state.tables router)

theorem justified_relax (descending : network.Descending state key) (message : Message Node)
    (inFlight : message ∈ state.sent) (truthful : network.MessageSound message)
    (interface : Interface) (now : Nat) (table : RouteTable) (entry : RipEntry)
    (member : entry ∈ message.entries) (before : network.Justified state key table) :
    let hearing : Hearing := ⟨message.interface.address, interface.name, now⟩
    network.Justified state key (hearing.relax table entry).1 := by
  intro hearing
  rcases hearing.relaxed_relax table entry with same | ⟨offers, -, self, others⟩
  · rw [same]
    exact before
  · intro route found learned neighbor owns
    by_cases about : (entry.address, entry.mask) = (key.1, key.2)
    · obtain ⟨destination, mask⟩ := Prod.mk.inj about
      rw [← destination, ← mask, self, Option.some_inj] at found
      rw [← found] at owns ⊢
      obtain ⟨next, foundNext, cheap⟩ := descending.messages message inFlight entry member about
      rw [network.eq_of_owns _ _ truthful.own neighbor owns]
      refine ⟨next, foundNext, UInt32.lt_of_le_of_lt cheap (UInt32.lt_iff_toNat_lt.mpr ?_)⟩
      show entry.metric.toNat < (entry.metric + 1).toNat
      rw [Hearing.toNat_add_one entry.metric offers.near]
      exact Nat.lt_succ_self _
    · rw [others key.1 key.2 about] at found
      exact before route found learned neighbor owns

end Invariant

/-! ### One step -/

section Steps

variable [DecidableEq Node] (state : State Node) (kept : RouteKey → Prop) (key : RouteKey)

/-- A step that takes out no route makes none dearer. -/
theorem cheaper_step (isKept : kept key) (action : Action Node)
    (spares : state.Spares kept action) (router : Node) (route : Route)
    (found : state.route? router key = some route) :
    ∃ after, (state.perform action).route? router key = some after ∧ after.cost ≤ route.cost := by
  let property (other : Node) (table : RouteTable) : Prop := ∀ route,
    state.route? other key = some route →
      ∃ after, table.find? key.1 key.2 = some after ∧ after.cost ≤ route.cost
  have before (other : Node) : property other (state.tables other) := fun route found =>
    ⟨route, found, UInt32.le_refl _⟩
  suffices after : ∀ other, property other ((state.perform action).tables other) from
    after router route found
  cases action with
  | emit _ _ => exact before
  | deliver message hearer interface now =>
    refine state.withTable_keeps hearer _ property before fun route found => ?_
    exact Hearing.cheaper_absorb _ _ _ _ _ _ (before hearer route found)
  | expire expirer timeout now =>
    refine state.withTable_keeps expirer _ property before fun route found => ?_
    refine ⟨route, ?_, UInt32.le_refl _⟩
    show ((state.tables expirer).expire now timeout).1.find? key.1 key.2 = some route
    rw [RouteTable.find?_expire]
    exact Option.filter_eq_some_iff.mpr ⟨found, by rw [spares key isKept route found]; rfl⟩

theorem justified_step (sound : network.Sound state) (descending : network.Descending state key)
    (action : Action Node) (enabled : network.Enabled state action) (router : Node) :
    network.Justified state key ((state.perform action).tables router) := by
  let property (_ : Node) (table : RouteTable) : Prop := network.Justified state key table
  cases action with
  | emit _ _ => exact descending.routes router
  | deliver message hearer interface now =>
    refine state.withTable_keeps hearer _ property descending.routes ?_ router
    refine Hearing.absorb_keeps _ _ (network.Justified state key) _ ?_ (descending.routes hearer)
    intro table entry member before
    exact network.justified_relax state key descending message enabled.1
      (sound.messages message enabled.1) interface now table entry member before
  | expire expirer timeout now =>
    refine state.withTable_keeps expirer _ property descending.routes (fun route found => ?_) router
    change ((state.tables expirer).expire now timeout).1.find? key.1 key.2 = some route at found
    rw [RouteTable.find?_expire] at found
    exact descending.routes expirer route (Option.filter_eq_some_iff.mp found).1

theorem descending_step (sound : network.Sound state) (isKept : kept key)
    (descending : network.Descending state key) (action : Action Node)
    (enabled : network.Enabled state action) (spares : state.Spares kept action) :
    network.Descending (state.perform action) key := by
  have cheaper := cheaper_step state kept key isKept action spares
  refine ⟨fun message member entry inMessage about => ?_, fun router route found learned neighbor
    owns => ?_⟩
  · have offered : ∃ next, state.route? message.sender key = some next ∧
        next.cost ≤ entry.metric := by
      cases action with
      | emit router interface =>
        rcases List.mem_append.mp member with old | new
        · exact descending.messages message old entry inMessage about
        · rw [List.mem_singleton.mp new] at inMessage ⊢
          obtain ⟨route, inTable, -, rfl⟩ :=
            (RouteTable.mem_advertised _ _ _ _).mp inMessage
          refine ⟨route, ?_, UInt32.le_refl _⟩
          rw [← about]
          exact state.route?_of_mem router route inTable
      | deliver _ _ _ _ | expire _ _ _ =>
        exact descending.messages message member entry inMessage about
    obtain ⟨next, foundNext, cheap⟩ := offered
    obtain ⟨after, foundAfter, notDearer⟩ := cheaper _ next foundNext
    exact ⟨after, foundAfter, UInt32.le_trans notDearer cheap⟩
  · obtain ⟨next, foundNext, cheap⟩ := network.justified_step state key sound descending action
      enabled router route found learned neighbor owns
    obtain ⟨after, foundAfter, notDearer⟩ := cheaper _ next foundNext
    exact ⟨after, foundAfter, UInt32.lt_of_le_of_lt notDearer cheap⟩

end Steps

/-! ### All runs -/

section Runs

variable [DecidableEq Node] (kept : RouteKey → Prop) (key : RouteKey)

omit [DecidableEq Node] in
theorem descending_start (now : Node → Nat) : network.Descending (network.start now) key := by
  refine ⟨nofun, fun router route found learned => ?_⟩
  obtain ⟨member, -⟩ := RouteTable.mem_of_find? _ _ _ _ found
  obtain ⟨interface, -, time, same⟩ :=
    (direct_withDirectRoutes (now router) (network.registry router)).1 route member
  rw [same] at learned
  cases learned

theorem descending_of_reached (isKept : kept key) (state : State Node)
    (reached : network.Reached kept state) : network.Descending state key := by
  induction reached with
  | start now => exact network.descending_start key now
  | step state action reached enabled spares inductionHypothesis =>
    exact network.descending_step state kept key
      (network.sound_of_reachable state (reached.reachable network kept)) isKept
      inductionHypothesis action enabled spares

end Runs

/-! ### Following the gateways of one subnet -/

section Following

variable (state : State Node) (key : RouteKey)

/-- The gateways of one subnet lead downhill to a router that it is attached to. -/
structure LoopFree : Prop where
  descends : ∀ router route, state.route? router key = some route → route.origin = .learned →
    ∃ neighbor, network.Linked router neighbor ∧ network.Owns neighbor route.gateway ∧
      ∃ next, state.route? neighbor key = some next ∧ next.cost < route.cost
  acyclic : ∀ router, ¬ Relation.TransGen (network.Follows state key) router router
  arrives : ∀ router route, state.route? router key = some route →
    ∃ hops ≤ route.cost.toNat,
      Arrives (network.Follows state key) (network.Attached key) router hops

/-- The cost of the router's route. -/
def costAt (router : Node) : Nat := ((state.route? router key).map (·.cost.toNat)).getD 0

theorem costAt_of_route? (router : Node) (route : Route)
    (found : state.route? router key = some route) :
    costAt state key router = route.cost.toNat := by
  rw [costAt, found, Option.map_some, Option.getD_some]

theorem loopFree_of_descending (sound : network.Sound state)
    (descending : network.Descending state key) : network.LoopFree state key := by
  have descends : ∀ router route, state.route? router key = some route →
      route.origin = .learned →
      ∃ neighbor, network.Linked router neighbor ∧ network.Owns neighbor route.gateway ∧
        ∃ next, state.route? neighbor key = some next ∧ next.cost < route.cost := by
    intro router route found learned
    obtain ⟨grounded, -⟩ := sound.grounded_of_route? router key route found
    obtain ⟨neighbor, linked, owns, -⟩ :=
      grounded.neighbor_of_learned learned
    exact ⟨neighbor, linked, owns, descending.routes router route found learned neighbor owns⟩
  refine ⟨descends, ?_, ?_⟩
  · refine not_transGen_of_rank _ (costAt state key) ?_
    rintro router neighbor ⟨route, found, learned, owns⟩
    obtain ⟨next, foundNext, cheap⟩ := descending.routes router route found learned neighbor owns
    rw [costAt_of_route? state key router route found,
      costAt_of_route? state key neighbor next foundNext]
    exact UInt32.lt_iff_toNat_lt.mp cheap
  · intro router route found
    rw [← costAt_of_route? state key router route found]
    refine arrives_of_rank _ _ (fun router => ∃ route, state.route? router key = some route) _ ?_
      router ⟨route, found⟩
    rintro passed ⟨way, foundWay⟩
    by_cases learned : way.origin = .learned
    · obtain ⟨neighbor, -, owns, next, foundNext, cheap⟩ := descends passed way foundWay learned
      refine Or.inr ⟨neighbor, ⟨way, foundWay, learned, owns⟩, ⟨next, foundNext⟩, ?_⟩
      rw [costAt_of_route? state key passed way foundWay,
        costAt_of_route? state key neighbor next foundNext]
      exact UInt32.lt_iff_toNat_lt.mp cheap
    · exact Or.inl (sound.attached_of_route? passed key way foundWay learned).1

end Following

/-! ### Forwarding to one address -/

section Forwarding

variable (state : State Node) (address : Ipv4Address)

/-- The destination and the mask that cover an address. -/
def covering (address : Ipv4Address) (key : RouteKey) : Prop :=
  address.masked key.2 = key.1.masked key.2

/-- Datagrams for an address do not go in circles, and those that a router has a route for arrive
at a router with the subnet of the address attached. -/
structure ForwardingLoopFree : Prop where
  acyclic : ∀ router, ¬ Relation.TransGen (network.Forwards state address) router router
  arrives : ∀ router route, (state.tables router).lookup? address = some route →
    ∃ hops, Arrives (network.Forwards state address) (network.Delivers state address) router hops

theorem covering_key (route : Route) :
    route.covers address = true ↔ covering address route.key := beq_iff_eq

/-- A number that goes down when the mask grows, and under one mask when the cost goes down. -/
def forwardingRank (route : Route) : Nat :=
  (2 ^ 32 - route.mask.bits.toNat) * 16 + route.cost.toNat

theorem forwardingRank_lt (before after : Route) (near : after.cost.toNat ≤ 15)
    (notSmaller : before.mask.bits ≤ after.mask.bits)
    (cheaper : before.mask = after.mask → after.cost.toNat < before.cost.toNat) :
    forwardingRank after < forwardingRank before := by
  have bound : after.mask.bits.toNat < 2 ^ 32 := after.mask.bits.isLt
  have least : before.mask.bits.toNat ≤ after.mask.bits.toNat := notSmaller
  unfold forwardingRank
  by_cases same : before.mask.bits.toNat = after.mask.bits.toNat
  · have masks : before.mask = after.mask :=
      congrArg Ipv4Address.mk (BitVec.eq_of_toNat_eq same)
    rw [same]
    exact Nat.add_lt_add_left (cheaper masks) _
  · omega

theorem gateway_of_learned (router : Node) (route : Route)
    (grounded : network.Grounded router route) (learned : route.origin = .learned) :
    route.isAttached = false ∧ route.nextHop address = route.gateway := by
  obtain ⟨-, -, -, specified⟩ := grounded.neighbor_of_learned learned
  have isAttached : route.isAttached = false := beq_eq_false_iff_ne.mpr specified
  exact ⟨isAttached, by rw [Route.nextHop, isAttached]; rfl⟩

/-- The neighbour that a datagram is sent to has a route for it that ranks lower. -/
theorem exists_lookup?_of_learned (sound : network.Sound state)
    (descending : ∀ key, covering address key → network.Descending state key) (router : Node)
    (route : Route) (found : (state.tables router).lookup? address = some route)
    (learned : route.origin = .learned) (neighbor : Node)
    (owns : network.Owns neighbor route.gateway) :
    ∃ next, (state.tables neighbor).lookup? address = some next ∧
      forwardingRank next < forwardingRank route := by
  obtain ⟨member, covers, -⟩ := RouteTable.lookup?_spec _ _ _ found
  have exact := state.route?_of_mem router route member
  obtain ⟨same, foundSame, cheap⟩ :=
    (descending route.key ((covering_key address route).mp covers)).routes router route exact
      learned neighbor owns
  obtain ⟨sameMember, destination, mask⟩ := RouteTable.mem_of_find? _ _ _ _ foundSame
  have sameKey : same.key = route.key := by rw [Route.key, destination, mask]
  have sameCovers : same.covers address = true :=
    (covering_key address same).mpr (by rw [sameKey]; exact (covering_key address route).mp covers)
  obtain ⟨next, foundNext⟩ := RouteTable.lookup?_isSome _ address same sameMember sameCovers
  obtain ⟨nextMember, nextCovers, greatest⟩ := RouteTable.lookup?_spec _ _ _ foundNext
  have nextGrounded := (sound.tables neighbor).grounded next nextMember
  have maskEq : same.mask = route.mask := congrArg Prod.snd sameKey
  refine ⟨next, foundNext, forwardingRank_lt route next nextGrounded.cost_le ?_ fun masks => ?_⟩
  · rw [← maskEq]
    exact greatest same sameMember sameCovers
  · have nextKey : next.key = route.key :=
      Route.key_eq_of_covers next route address nextGrounded.isNetwork
        ((sound.tables router).grounded route member).isNetwork nextCovers covers masks.symm
    have foundExact := state.route?_of_mem neighbor next nextMember
    rw [nextKey, foundSame, Option.some_inj] at foundExact
    rw [← foundExact]
    exact UInt32.lt_iff_toNat_lt.mp cheap

/-- The rank of the route that the router forwards by. -/
def rankAt (router : Node) : Nat :=
  (((state.tables router).lookup? address).map forwardingRank).getD 0

theorem rankAt_of_lookup? (router : Node) (route : Route)
    (found : (state.tables router).lookup? address = some route) :
    rankAt state address router = forwardingRank route := by
  rw [rankAt, found, Option.map_some, Option.getD_some]

theorem learned_of_forwarded (router : Node) (route : Route)
    (grounded : network.Grounded router route) (away : route.isAttached = false) :
    route.origin = .learned := by
  by_contra notLearned
  have attached := (grounded.attached_of_ne notLearned).2.2
  rw [attached] at away
  cases away

theorem forwardingLoopFree_of_descending (sound : network.Sound state)
    (descending : ∀ key, covering address key → network.Descending state key) :
    network.ForwardingLoopFree state address := by
  have grounded : ∀ router route, (state.tables router).lookup? address = some route →
      network.Grounded router route := fun router route found =>
    (sound.tables router).grounded route (RouteTable.lookup?_spec _ _ _ found).1
  have lower : ∀ router route, (state.tables router).lookup? address = some route →
      route.origin = .learned → ∀ neighbor, network.Owns neighbor route.gateway →
      (∃ next, (state.tables neighbor).lookup? address = some next) ∧
        rankAt state address neighbor < rankAt state address router := by
    intro router route found learned neighbor owns
    obtain ⟨next, foundNext, less⟩ := network.exists_lookup?_of_learned state address sound
      descending router route found learned neighbor owns
    refine ⟨⟨next, foundNext⟩, ?_⟩
    rw [rankAt_of_lookup? state address router route found,
      rankAt_of_lookup? state address neighbor next foundNext]
    exact less
  refine ⟨not_transGen_of_rank _ (rankAt state address) ?_, fun router route found => ?_⟩
  · rintro router neighbor ⟨route, found, away, owns⟩
    have learned := network.learned_of_forwarded router route (grounded router route found) away
    rw [(network.gateway_of_learned address router route (grounded router route found)
      learned).2] at owns
    exact (lower router route found learned neighbor owns).2
  · have onward : ∀ passed, (∃ way, (state.tables passed).lookup? address = some way) →
        network.Delivers state address passed ∨
          ∃ neighbor, network.Forwards state address passed neighbor ∧
            (∃ way, (state.tables neighbor).lookup? address = some way) ∧
            rankAt state address neighbor < rankAt state address passed := by
      rintro passed ⟨way, foundWay⟩
      have groundedWay := grounded passed way foundWay
      by_cases learned : way.origin = .learned
      · obtain ⟨neighbor, -, owns, -⟩ :=
          groundedWay.neighbor_of_learned learned
        obtain ⟨away, towards⟩ := network.gateway_of_learned address passed way groundedWay learned
        exact Or.inr ⟨neighbor, ⟨way, foundWay, away, by rw [towards]; exact owns⟩,
          lower passed way foundWay learned neighbor owns⟩
      · obtain ⟨attached, -, isAttached⟩ := groundedWay.attached_of_ne learned
        exact Or.inl ⟨way, foundWay, isAttached, attached⟩
    obtain ⟨hops, -, arrives⟩ := arrives_of_rank _ _ _ _ onward router ⟨route, found⟩
    exact ⟨hops, arrives⟩

end Forwarding

/-- Routes are sound: whatever happens, a route stands for a walk of exactly its cost to a router
with the subnet attached, so it never claims less than the distance. And they are free of loops as
long as no route is taken out: the gateways for a subnet lead downhill to such a router, and so
does the way of every datagram that is forwarded. -/
theorem routes_sound [DecidableEq Node] :
    (∀ state, network.Reachable state → ∀ router, ∀ route ∈ (state.tables router).routes,
      Arrives network.Linked (network.Attached route.key) router route.cost.toNat ∧
        ∀ distance, network.IsDistance (network.Attached route.key) router distance →
          distance ≤ route.cost.toNat) ∧
      (∀ key state, network.Reached (· = key) state → network.LoopFree state key) ∧
      ∀ address state, network.Reached (covering address) state →
        network.ForwardingLoopFree state address := by
  refine ⟨fun state reachable router route member => ?_, fun key state reached => ?_,
    fun address state reached => ?_⟩
  · have sound := network.sound_of_reachable state reachable
    have walk := ((sound.tables router).grounded route member).walk
    exact ⟨walk, fun distance isDistance => isDistance.2 _ walk⟩
  · exact network.loopFree_of_descending state key
      (network.sound_of_reachable state (reached.reachable network _))
      (network.descending_of_reached (· = key) key rfl state reached)
  · exact network.forwardingLoopFree_of_descending state address
      (network.sound_of_reachable state (reached.reachable network _))
      fun key covers => network.descending_of_reached (covering address) key covers state reached

end Network

/-- The second router learned of the distant subnet, which is one hop away. -/
theorem routes_sound_two_routers :
    TwoRouters.network.Reachable TwoRouters.state ∧
      ∃ route ∈ (TwoRouters.state.tables true).routes, route.key = TwoRouters.distant ∧
        route.cost = 1 ∧
        Network.Arrives TwoRouters.network.Linked (TwoRouters.network.Attached route.key) true
          route.cost.toNat ∧
        TwoRouters.network.LoopFree TwoRouters.state TwoRouters.distant ∧
        TwoRouters.network.ForwardingLoopFree TwoRouters.state (.ofParts 10 0 1 9) := by
  obtain ⟨sound, loopFree, forwarding⟩ := TwoRouters.network.routes_sound
  have reachable := TwoRouters.reached_state fun _ => False
  have member : .learned (.ofParts 10 0 1 0) (.ofParts 255 255 255 0) (.ofParts 10 0 0 1) "eth0" 1
      7 ∈ (TwoRouters.state.tables true).routes := by
    decide
  exact ⟨reachable, _, member, rfl, rfl, (sound _ reachable true _ member).1,
    loopFree _ _ (TwoRouters.reached_state _), forwarding _ _ (TwoRouters.reached_state _)⟩

end Ipv4Router.DistanceVector
