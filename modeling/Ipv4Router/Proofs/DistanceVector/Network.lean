/-
This file defines networks of routers that exchange routes. The interfaces of the routers
are attached to links. A router may advertise its table on a link; the message then stays
in flight for good, and a router on the link may hear it late, more than once or never.
Nothing is assumed about the order of steps or about clocks.
-/

import Mathlib.Logic.Function.Basic
import Mathlib.Logic.Relation
import Ipv4Router.DistanceVector.Exchange
import Ipv4Router.Proofs.Interface.History

namespace Ipv4Router.DistanceVector

/-- A destination and a mask. -/
abbrev RouteKey := Ipv4Address × Ipv4Address

/-- The destination and the mask of the route to the attached subnet. -/
def subnetKey (interface : Interface) : RouteKey := (interface.network, interface.mask)

/-- Routers and the links that their interfaces are attached to. Addresses tell the interfaces of
the whole network apart. -/
structure Network (Node Link : Type) where
  registry : Node → Registry
  linkOf : Node → Interface → Link
  specified : ∀ node, ∀ interface ∈ (registry node).interfaces, interface.address ≠ .unspecified
  distinct : ∀ node, ∀ interface ∈ (registry node).interfaces, ∀ other,
    ∀ second ∈ (registry other).interfaces, interface.address = second.address →
      node = other ∧ interface = second

/-- An advertisement in flight, with the interface that it was sent from. -/
structure Message (Node : Type) where
  sender : Node
  interface : Interface
  entries : List RipEntry

/-- The tables of all routers, and all messages sent so far. -/
structure State (Node : Type) where
  tables : Node → RouteTable
  sent : List (Message Node) := []

/-- The route of a router for a destination and mask. -/
def State.route? {Node : Type} (state : State Node) (router : Node) (key : RouteKey) :
    Option Route :=
  (state.tables router).find? key.1 key.2

/-- What happens in one step. -/
inductive Action (Node : Type)
  | emit (router : Node) (interface : Interface)
  | deliver (message : Message Node) (router : Node) (interface : Interface) (now : Nat)
  | expire (router : Node) (timeout now : Nat)

namespace Network

variable {Node Link : Type} (network : Network Node Link)

/-! ### Distances -/

/-- Two routers share a link. -/
def Linked (router neighbor : Node) : Prop :=
  router ≠ neighbor ∧ ∃ interface ∈ (network.registry router).interfaces,
    ∃ peer ∈ (network.registry neighbor).interfaces,
      network.linkOf router interface = network.linkOf neighbor peer

/-- The subnet is attached to the router. -/
def Attached (key : RouteKey) (router : Node) : Prop :=
  ∃ interface ∈ (network.registry router).interfaces, subnetKey interface = key

/-- The address is one of the router's. -/
def Owns (router : Node) (address : Ipv4Address) : Prop :=
  ∃ interface ∈ (network.registry router).interfaces, interface.address = address

/-- Exactly so many hops lead to a goal. -/
inductive Arrives (hop : Node → Node → Prop) (goal : Node → Prop) : Node → Nat → Prop
  | here (router : Node) (isGoal : goal router) : Arrives hop goal router 0
  | further (router neighbor : Node) (hops : Nat) (next : hop router neighbor)
      (rest : Arrives hop goal neighbor hops) : Arrives hop goal router (hops + 1)

/-- Hops along which a number goes down never lead back. -/
theorem not_transGen_of_rank (hop : Node → Node → Prop) (rank : Node → Nat)
    (down : ∀ router neighbor, hop router neighbor → rank neighbor < rank router)
    (router : Node) : ¬ Relation.TransGen hop router router := by
  have below : ∀ target, Relation.TransGen hop router target → rank target < rank router := by
    intro target path
    induction path with
    | single next => exact down _ _ next
    | tail _ next inductionHypothesis => exact Nat.lt_trans (down _ _ next) inductionHypothesis
  exact fun cycle => Nat.lt_irrefl _ (below router cycle)

/-- Hops along which a number goes down lead to a goal if there is one more wherever the goal is
not reached yet, in no more hops than the number says. -/
theorem arrives_of_rank (hop : Node → Node → Prop) (goal onTheWay : Node → Prop)
    (rank : Node → Nat)
    (next : ∀ router, onTheWay router → goal router ∨
      ∃ neighbor, hop router neighbor ∧ onTheWay neighbor ∧ rank neighbor < rank router)
    (router : Node) (here : onTheWay router) :
    ∃ hops ≤ rank router, Arrives hop goal router hops := by
  induction bound : rank router using Nat.strongRecOn generalizing router with
  | ind number inductionHypothesis =>
    rcases next router here with isGoal | ⟨neighbor, hops, there, lower⟩
    · exact ⟨0, Nat.zero_le _, .here router isGoal⟩
    · obtain ⟨count, few, rest⟩ := inductionHypothesis (rank neighbor) (bound ▸ lower) neighbor
        there rfl
      exact ⟨count + 1, Nat.succ_le_of_lt (Nat.lt_of_le_of_lt few (bound ▸ lower)),
        .further router neighbor count hops rest⟩

/-- The least number of hops over shared links that lead to a goal. -/
def IsDistance (goal : Node → Prop) (router : Node) (distance : Nat) : Prop :=
  Arrives network.Linked goal router distance ∧
    ∀ hops, Arrives network.Linked goal router hops → distance ≤ hops

/-- The only router with the address of an interface is the one whose interface it is. -/
theorem eq_of_owns (router : Node) (interface : Interface)
    (own : interface ∈ (network.registry router).interfaces) (other : Node)
    (owns : network.Owns other interface.address) : other = router := by
  obtain ⟨second, secondOwn, same⟩ := owns
  exact (network.distinct other second secondOwn router interface own same).1

end Network

/-! ### Steps -/

section Steps

variable {Node Link : Type} [DecidableEq Node]

/-- The state after a router changed its table. -/
def State.withTable (state : State Node) (router : Node) (table : RouteTable) : State Node :=
  { state with tables := Function.update state.tables router table }

theorem State.withTable_self (state : State Node) (router : Node) (table : RouteTable) :
    (state.withTable router table).tables router = table := by
  unfold withTable
  exact Function.update_self router table state.tables

theorem State.withTable_other (state : State Node) (router other : Node) (table : RouteTable)
    (different : other ≠ router) :
    (state.withTable router table).tables other = state.tables other := by
  unfold withTable
  exact Function.update_of_ne different table state.tables

/-- What holds of all tables, and of the new one, holds of all tables after the change. -/
theorem State.withTable_keeps (state : State Node) (router : Node) (table : RouteTable)
    (property : Node → RouteTable → Prop) (before : ∀ other, property other (state.tables other))
    (changed : property router table) (other : Node) :
    property other ((state.withTable router table).tables other) := by
  by_cases same : other = router
  · subst same
    rw [withTable_self]
    exact changed
  · rw [withTable_other _ _ _ _ same]
    exact before other

/-- The state after a step. A router that hears a message takes it as coming from the address of
the interface that sent it. -/
def State.perform (state : State Node) : Action Node → State Node
  | .emit router interface =>
    let entries := (state.tables router).advertised interface.name interface.address
    { state with sent := state.sent ++ [⟨router, interface, entries⟩] }
  | .deliver message router interface now =>
    let hearing : Hearing := ⟨message.interface.address, interface.name, now⟩
    state.withTable router (hearing.absorb (state.tables router) message.entries).1
  | .expire router timeout now =>
    state.withTable router (expire (state.tables router) timeout now).1

/-- The step takes out no route for the destinations and masks given. Only expiry can. -/
def State.Spares (state : State Node) (kept : RouteKey → Prop) : Action Node → Prop
  | .expire router timeout now =>
    ∀ key, kept key → ∀ route, state.route? router key = some route →
      route.isStale now timeout = false
  | _ => True

namespace Network

variable (network : Network Node Link)

/-- Every router has the routes to its attached subnets, and nothing was sent. -/
def start (now : Node → Nat) : State Node where
  tables router := withDirectRoutes (network.registry router) .empty (now router)

/-- A router sends from its own interfaces, and hears what another router sent on the same
link. -/
def Enabled (state : State Node) : Action Node → Prop
  | .emit router interface => interface ∈ (network.registry router).interfaces
  | .deliver message router interface _ =>
    message ∈ state.sent ∧ message.sender ≠ router ∧
      interface ∈ (network.registry router).interfaces ∧
      network.linkOf router interface = network.linkOf message.sender message.interface
  | .expire _ _ _ => True

/-- The states of runs that take out no route for the destinations and masks given. -/
inductive Reached (kept : RouteKey → Prop) : State Node → Prop
  | start (now : Node → Nat) : Reached kept (network.start now)
  | step (state : State Node) (action : Action Node) (reached : Reached kept state)
      (enabled : network.Enabled state action) (spares : state.Spares kept action) :
      Reached kept (state.perform action)

/-- The states of all runs. -/
def Reachable (state : State Node) : Prop := network.Reached (fun _ => False) state

theorem Reached.reachable (kept : RouteKey → Prop) (state : State Node)
    (reached : network.Reached kept state) : network.Reachable state := by
  induction reached with
  | start now => exact .start now
  | step state action _ enabled _ inductionHypothesis =>
    refine .step state action inductionHypothesis enabled ?_
    cases action with
    | emit _ _ | deliver _ _ _ _ => trivial
    | expire _ _ _ => exact fun _ spared => spared.elim

end Network

end Steps

/-! ### Two routers -/

namespace TwoRouters

/-- One router is attached to two subnets, the other to the first of them only. -/
def registry : Bool → Registry
  | false => Stations.registry
  | true => ⟨[Stations.neighbor], by decide⟩

/-- The interfaces named `eth0` share a link. -/
def network : Network Bool Bool where
  registry
  linkOf _ interface := interface.name == "eth0"
  specified := by decide
  distinct := by decide

/-- What the first router advertises at first. -/
def message : Message Bool :=
  ⟨false, Stations.inner,
    ((network.start fun _ => 0).tables false).advertised "eth0" Stations.inner.address⟩

/-- The second router heard the first one. -/
def state : State Bool :=
  ((network.start fun _ => 0).perform (.emit false Stations.inner)).perform
    (.deliver message true Stations.neighbor 7)

/-- The subnet that only the first router is attached to. -/
def distant : RouteKey := (.ofParts 10 0 1 0, .ofParts 255 255 255 0)

theorem reached_state (kept : RouteKey → Prop) : network.Reached kept state := by
  refine .step _ _ (.step _ _ (.start fun _ => 0) ?_ trivial) ?_ trivial
  · exact List.mem_cons_self
  · exact ⟨List.mem_singleton_self _, Bool.false_ne_true, List.mem_cons_self, rfl⟩

end TwoRouters

end Ipv4Router.DistanceVector
