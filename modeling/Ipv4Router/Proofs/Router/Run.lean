/-
This file describes what a router lives through. It is prepared, receives frames,
advertises its routes and sweeps what it knows of its neighbours, in any order and at
any time. A run keeps every moment with the router that it met, so that what a router
knows in the end can be traced back to the frames that it received.
-/

import Ipv4Router.Proofs.Configuration
import Ipv4Router.Proofs.DistanceVector.Relaxation
import Ipv4Router.Proofs.Neighbor.Operation
import Ipv4Router.Proofs.Router.Acceptance

namespace Ipv4Router.Router

/-! ### Events -/

/-- One thing that a router does or that happens to it. -/
inductive Event
  | prepare
  | receive (octets : Octets) (interfaceName : String)
  | advertise
  | sweep
deriving DecidableEq

/-- The router after an event, and the effects. -/
def perform (router : Router) (now : Nat) : Event → Router × List Effect
  | .prepare => router.prepare now
  | .receive octets interfaceName => router.receive octets interfaceName now
  | .advertise => router.advertise now
  | .sweep => router.sweep now

/-- An event, its time, and the router that it met. -/
structure Moment where
  before : Router
  now : Nat
  event : Event

namespace Moment

def after (moment : Moment) : Router := (moment.before.perform moment.now moment.event).1

/-- The frames that left at the moment, each with its interface, in order. -/
def sent (moment : Moment) : List (String × Octets) :=
  Effect.transmissions (moment.before.perform moment.now moment.event).2

/-- A frame arrived at the moment that carries a response, which the exchange of routes took. -/
def Brings (moment : Moment) (response : Response) : Prop :=
  ∃ octets, moment.event = .receive octets response.interface.name ∧
    moment.before.Hears octets response.interface.name response

/-- What a moment does to the route table. -/
inductive TableTurn (moment : Moment) : Prop
  | same (table_eq : moment.after.table = moment.before.table)
  | prepared (event_eq : moment.event = .prepare)
  | heard (response : Response) (brings : moment.Brings response)
  | expired (event_eq : moment.event = .advertise)

end Moment

/-! ### Moments -/

section Moments

variable (router : Router) (now : Nat) (octets : Octets) (interfaceName : String)

theorem receive_keeps :
    (router.receive octets interfaceName now).1.registry = router.registry ∧
      (router.receive octets interfaceName now).1.settings = router.settings := by
  cases router.receive_outcome octets interfaceName now with
  | unchanged same => rw [same]; exact ⟨rfl, rfl⟩
  | heard response hears => rw [receive_of_hears _ _ _ _ _ hears]; exact ⟨rfl, rfl⟩
  | learned interface packet learns =>
    rw [receive_of_learns _ _ _ _ _ _ learns]; exact ⟨rfl, rfl⟩
  | forwarded passage forwards =>
    rw [receive_of_forwards _ _ _ now _ forwards]; exact ⟨rfl, rfl⟩

theorem prepare_keeps :
    (router.prepare now).1.registry = router.registry ∧
      (router.prepare now).1.settings = router.settings := by
  unfold prepare
  split <;> exact ⟨rfl, rfl⟩

/-- Nothing that happens changes how the router is set up. -/
theorem perform_keeps (event : Event) :
    (router.perform now event).1.registry = router.registry ∧
      (router.perform now event).1.settings = router.settings := by
  cases event with
  | prepare => exact router.prepare_keeps now
  | receive octets interfaceName => exact router.receive_keeps now octets interfaceName
  | advertise | sweep => exact ⟨rfl, rfl⟩

theorem prepare_neighbors : (router.prepare now).1.neighbors = router.neighbors := by
  unfold prepare
  split <;> rfl

/-- What is known of the neighbours changes by one operation of the cache at most, and only whole
frames are given to it. -/
theorem neighbors_perform (event : Event) :
    (router.perform now event).1.neighbors = router.neighbors ∨
      ∃ operation : Neighbor.Operation, operation.Whole ∧
        (router.perform now event).1.neighbors =
          (router.neighbors.moment router.registry router.settings.neighbors operation).after := by
  cases event with
  | prepare => exact Or.inl (router.prepare_neighbors now)
  | advertise => exact Or.inl rfl
  | sweep => exact Or.inr ⟨.sweep now, trivial, rfl⟩
  | receive octets interfaceName =>
    cases router.receive_outcome octets interfaceName now with
    | unchanged same => exact Or.inl (congrArg Router.neighbors same)
    | heard response hears =>
      refine Or.inl ?_
      show (router.receive octets interfaceName now).1.neighbors = router.neighbors
      rw [receive_of_hears _ _ _ _ _ hears]
    | learned interface packet learns =>
      exact Or.inr ⟨.learn packet interface now, trivial,
        congrArg (fun outcome => outcome.1.neighbors) (receive_of_learns _ _ _ now _ _ learns)⟩
    | forwarded passage forwards =>
      have whole := (Frame.read_ipv4 _ _ _ forwards.accepted.decoded).1
      exact Or.inr ⟨.send _ passage.nextHop passage.out now, (aged_frame octets _ whole).1,
        congrArg Router.neighbors (receive_of_forwards _ _ _ now _ forwards)⟩

variable (moment : Moment)

theorem Moment.turn : moment.TableTurn := by
  obtain ⟨before, now, event⟩ := moment
  cases event with
  | prepare => exact .prepared rfl
  | advertise => exact .expired rfl
  | sweep => exact .same rfl
  | receive octets interfaceName =>
    cases before.receive_outcome octets interfaceName now with
    | unchanged same => exact .same (congrArg Router.table same)
    | heard response hears =>
      obtain rfl := hears.accepted.name_eq
      exact .heard response ⟨octets, rfl, hears⟩
    | learned interface packet learns =>
      refine .same ?_
      show (before.receive octets interfaceName now).1.table = before.table
      rw [receive_of_learns _ _ _ _ _ _ learns]
    | forwarded passage forwards =>
      refine .same ?_
      show (before.receive octets interfaceName now).1.table = before.table
      rw [receive_of_forwards _ _ _ now _ forwards]

/-- A response that is brought is absorbed by the route table. -/
theorem Moment.table_of_brings (response : Response) (brings : moment.Brings response) :
    moment.after.table =
      ((response.hearing moment.now).absorb moment.before.table response.entries).1 := by
  obtain ⟨octets, event, hears⟩ := brings
  show (moment.before.perform moment.now moment.event).1.table = _
  rw [event]
  exact congrArg Router.table (receive_of_hears _ _ _ _ response hears)

end Moments

/-! ### Tables -/

section Tables

variable (router : Router) (now : Nat)

/-- What putting in an attached subnet keeps, preparing keeps. -/
theorem prepare_table_keeps (invariant : RouteTable → Prop)
    (step : ∀ table, ∀ interface ∈ router.registry.interfaces, invariant table →
      invariant (table.insert (.direct interface now)).1)
    (start : invariant router.table) : invariant (router.prepare now).1.table := by
  unfold prepare
  split
  · exact List.foldlRecOn router.registry.interfaces _ start
      fun table holds interface member => step table interface member holds
  · refine List.foldlRecOn router.registry.interfaces _ start fun table holds interface member => ?_
    split
    · exact holds
    · exact step table interface member holds

/-- Preparing puts in routes to attached subnets only. -/
theorem find?_prepare (destination mask : Ipv4Address) (route : Route)
    (found : (router.prepare now).1.table.find? destination mask = some route) :
    router.table.find? destination mask = some route ∨
      ∃ interface ∈ router.registry.interfaces, route = .direct interface now := by
  refine router.prepare_table_keeps now
    (fun table => table.find? destination mask = some route →
      router.table.find? destination mask = some route ∨
        ∃ interface ∈ router.registry.interfaces, route = .direct interface now)
    (fun table interface member holds inserted => ?_) Or.inl found
  by_cases same : (Route.direct interface now).key = (destination, mask)
  · obtain ⟨rfl, rfl⟩ := Prod.mk.inj same
    rw [table.find?_insert_self (.direct interface now), Option.some_inj] at inserted
    exact Or.inr ⟨interface, member, inserted.symm⟩
  · rw [table.find?_insert_other (.direct interface now) _ _ same] at inserted
    exact holds inserted

/-- What putting in an attached subnet, relaxing by an entry and taking out stale routes keep, every
moment keeps. -/
theorem Moment.table_keeps (moment : Moment) (invariant : RouteTable → Prop)
    (inserted : ∀ table interface, invariant table →
      invariant (table.insert (.direct interface moment.now)).1)
    (relaxed : ∀ (hearing : DistanceVector.Hearing) table entry, invariant table →
      invariant (hearing.relax table entry).1)
    (expired : ∀ table timeout, invariant table → invariant (table.expire moment.now timeout).1)
    (start : invariant moment.before.table) : invariant moment.after.table := by
  cases moment.turn with
  | same table_eq => rwa [table_eq]
  | prepared event_eq =>
    show invariant (moment.before.perform moment.now moment.event).1.table
    rw [event_eq]
    exact moment.before.prepare_table_keeps moment.now invariant
      (fun table interface _ => inserted table interface) start
  | heard response brings =>
    rw [moment.table_of_brings response brings]
    exact DistanceVector.Hearing.absorb_keeps _ _ invariant _
      (fun table entry _ => relaxed _ table entry) start
  | expired event_eq =>
    show invariant (moment.before.perform moment.now moment.event).1.table
    rw [event_eq]
    exact expired moment.before.table _ start

end Tables

/-! ### Runs -/

/-- The moments that lead from one router to another, the first one first. -/
inductive Run (start : Router) : List Moment → Router → Prop
  | begin : Run start [] start
  | record (history : List Moment) (moment : Moment) (before : Run start history moment.before) :
    Run start (history ++ [moment]) moment.after

namespace Run

variable {start router : Router} {history : List Moment}

/-- What every moment keeps, a run keeps. -/
theorem keeps (invariant : Router → Prop)
    (step : ∀ moment : Moment, invariant moment.before → invariant moment.after)
    (run : Run start history router) (holds : invariant start) : invariant router := by
  induction run with
  | begin => exact holds
  | record history moment before inductionHypothesis => exact step moment inductionHypothesis

/-- What every moment keeps, every moment of a run meets. -/
theorem meets (invariant : Router → Prop)
    (step : ∀ moment : Moment, invariant moment.before → invariant moment.after)
    (run : Run start history router) (holds : invariant start) :
    ∀ moment ∈ history, invariant moment.before := by
  induction run with
  | begin => exact fun _ none => absurd none List.not_mem_nil
  | record history last before inductionHypothesis =>
    intro moment member
    rcases List.mem_append.mp member with earlier | isLast
    · exact inductionHypothesis moment earlier
    · obtain rfl := List.mem_singleton.mp isLast
      exact before.keeps invariant step holds

theorem registry_eq (run : Run start history router) : router.registry = start.registry :=
  run.keeps (fun router => router.registry = start.registry)
    (fun moment same => (moment.before.perform_keeps moment.now moment.event).1.trans same) rfl

theorem settings_eq (run : Run start history router) : router.settings = start.settings :=
  run.keeps (fun router => router.settings = start.settings)
    (fun moment same => (moment.before.perform_keeps moment.now moment.event).2.trans same) rfl

/-- A run may be cut anywhere. -/
theorem split (first second : List Moment) (run : Run start (first ++ second) router) :
    ∃ middle, Run start first middle ∧ Run middle second router := by
  induction second using List.reverseRecOn generalizing router with
  | nil => exact ⟨router, by rwa [List.append_nil] at run, .begin⟩
  | append_singleton second moment inductionHypothesis =>
    rw [← List.append_assoc] at run
    generalize whole : first ++ second ++ [moment] = history at run
    cases run with
    | begin => exact absurd whole (by simp)
    | record earlier last before =>
      obtain ⟨rfl, same⟩ := List.append_inj' whole rfl
      obtain rfl := List.singleton_inj.mp same
      obtain ⟨middle, toMiddle, fromMiddle⟩ := inductionHypothesis before
      exact ⟨middle, toMiddle, .record second moment fromMiddle⟩

theorem eq_of_nil (run : Run start [] router) : router = start := by
  generalize none : ([] : List Moment) = history at run
  cases run with
  | begin => rfl
  | record earlier moment before => exact absurd none (by simp)

/-- The first moment of a run met the router that the run starts with. -/
theorem tail (first : Moment) (rest : List Moment) (run : Run start (first :: rest) router) :
    first.before = start ∧ Run first.after rest router := by
  obtain ⟨middle, toMiddle, fromMiddle⟩ := run.split [first] rest
  generalize whole : [first] = history at toMiddle
  cases toMiddle with
  | begin => cases whole
  | record earlier moment before =>
    have cut : [] ++ [first] = earlier ++ [moment] := whole
    obtain ⟨rfl, same⟩ := List.append_inj' cut rfl
    obtain rfl := List.singleton_inj.mp same
    exact ⟨before.eq_of_nil, fromMiddle⟩

/-- Between two moments of a run lies a run. -/
theorem between (earlier middle rest : List Moment) (first second : Moment)
    (run : Run start (earlier ++ first :: (middle ++ second :: rest)) router) :
    Run start earlier first.before ∧ Run first.after middle second.before := by
  obtain ⟨_, toFirst, fromFirst⟩ := run.split earlier _
  obtain ⟨rfl, afterFirst⟩ := fromFirst.tail first _
  obtain ⟨_, toSecond, fromSecond⟩ := afterFirst.split middle _
  obtain ⟨rfl, -⟩ := fromSecond.tail second rest
  exact ⟨toFirst, toSecond⟩

end Run

/-! ### Fresh routers -/

/-- A router that was just set up, without routes or from its configuration. -/
inductive Fresh : Router → Prop
  | bare (registry : Registry) (settings : RouterSettings) : Fresh { registry, settings }
  | configured (configuration : Configuration) (hostMac? : String → Option MacAddress)
    (now : Nat) (router : Router)
    (setup : Router.ofConfiguration configuration hostMac? now = .ok router) : Fresh router

namespace Fresh

variable {router : Router}

/-- A fresh router has only the routes that were configured, and knows no neighbour. -/
theorem set_up (fresh : router.Fresh) :
    (∃ routes : List Route, (∀ route ∈ routes, route.origin = .static) ∧
      router.table = routes.foldl (fun table route => (table.insert route).1) .empty) ∧
      router.neighbors = .empty := by
  cases fresh with
  | bare registry settings => exact ⟨⟨[], nofun, rfl⟩, rfl⟩
  | configured configuration hostMac? now router setup =>
    obtain ⟨-, registry, -, rfl⟩ := eq_of_ofConfiguration configuration hostMac? now router setup
    refine ⟨⟨configuration.routes now, fun route member => ?_, rfl⟩, rfl⟩
    obtain ⟨setting, -, rfl⟩ := List.mem_map.mp member
    rfl

/-- A fresh router has learned nothing. -/
theorem origin_ne (fresh : router.Fresh) (route : Route) (member : route ∈ router.table.routes) :
    route.origin ≠ .learned := by
  obtain ⟨⟨routes, configured, table_eq⟩, -⟩ := fresh.set_up
  rw [table_eq] at member
  rw [configured route ((RouteTable.mem_foldl_insert .empty routes route member).resolve_right
    List.not_mem_nil)]
  exact nofun

end Fresh

end Ipv4Router.Router

/-! ### The router of the examples -/

namespace Ipv4Router.Stations

/-- A router on the inner and the outer subnet that was just set up. -/
def router : Router where
  registry
  settings := {}

theorem fresh : router.Fresh := .bare registry {}

/-- The router is prepared. -/
def prepared : Router.Moment := ⟨router, 0, .prepare⟩

end Ipv4Router.Stations
