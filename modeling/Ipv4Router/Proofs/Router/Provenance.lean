/-
This file traces every learned route back to the frame that taught it. The route
leads to the neighbour that a response came from, through the interface where it came
in, and costs one more than the response said; and no later frame repeated it, since
the time of the route is the time of the last frame that did.
-/

import Ipv4Router.Proofs.Router.Run

namespace Ipv4Router.Router

open DistanceVector

/-! ### Offers -/

/-- A response offers a route: it comes from the gateway, on the interface that the route leads
through, and has an entry for the destination at one less than the cost. -/
structure Response.Offers (response : Response) (route : Route) : Prop where
  gateway_eq : response.datagram.source = route.gateway
  interface_eq : response.interface.name = route.interface
  entry : ∃ entry ∈ response.entries, entry.family = 2 ∧ entry.address = route.destination ∧
    entry.mask = route.mask ∧ entry.address.isNetworkOf entry.mask = true ∧
    entry.metric.toNat + 1 = route.cost.toNat ∧ entry.metric.toNat ≤ 14

/-- A frame arrived at the moment that carries an offer of the route. -/
def Moment.Teaches (moment : Moment) (route : Route) : Prop :=
  ∃ response, moment.Brings response ∧ response.Offers route

section Offers

variable (response : Response) (now : Nat) (entry : RipEntry) (route : Route)

theorem Response.offers_heard (member : entry ∈ response.entries)
    (offers : Hearing.Offers entry) :
    response.Offers ((response.hearing now).heard entry) := by
  have near : entry.metric.toNat < 15 := UInt32.lt_iff_toNat_lt.mp offers.near
  exact ⟨rfl, rfl, entry, member, beq_iff_eq.mp offers.isInet, rfl, rfl, offers.isNetwork,
    (Hearing.toNat_add_one entry.metric offers.near).symm, by omega⟩

theorem Response.repeats_of_offers (offers : response.Offers route) :
    ∃ entry ∈ response.entries, (response.hearing now).Repeats entry route := by
  obtain ⟨gateway, interface, entry, member, family, destination, mask, isNetwork, cost, near⟩ :=
    offers
  have countable : entry.metric < 15 := UInt32.lt_iff_toNat_lt.mpr (Nat.lt_succ_of_le near)
  refine ⟨entry, member, ⟨beq_iff_eq.mpr family, isNetwork, countable⟩, destination, mask,
    gateway.symm, interface.symm, UInt32.toNat_inj.mp ?_⟩
  rw [Hearing.toNat_add_one entry.metric countable, cost]

end Offers

/-! ### One moment -/

section Step

variable (moment : Moment) (route : Route)

/-- A route is there from before, or it was taught at this very moment, or it leads to an attached
subnet. -/
theorem Moment.kept_or_entered
    (found : moment.after.table.find? route.destination route.mask = some route) :
    moment.before.table.find? route.destination route.mask = some route ∨
      (moment.now = route.updatedAt ∧ moment.Teaches route) ∨
      ∃ interface ∈ moment.before.registry.interfaces, route = .direct interface moment.now := by
  cases moment.turn with
  | same table_eq => exact Or.inl (table_eq ▸ found)
  | prepared event_eq =>
    change (moment.before.perform moment.now moment.event).1.table.find? _ _ = _ at found
    rw [event_eq] at found
    exact (moment.before.find?_prepare moment.now _ _ route found).imp_right Or.inr
  | heard response brings =>
    rw [moment.table_of_brings response brings] at found
    rcases Hearing.find?_absorb _ _ _ _ _ route found with before | ⟨entry, member, offers, taken⟩
    · exact Or.inl before
    · refine Or.inr (Or.inl ⟨congrArg Route.updatedAt taken.symm, response, brings, ?_⟩)
      rw [taken]
      exact response.offers_heard moment.now entry member offers
  | expired event_eq =>
    change (moment.before.perform moment.now moment.event).1.table.find? _ _ = _ at found
    rw [event_eq] at found
    change (moment.before.table.expire moment.now _).1.find? _ _ = _ at found
    rw [RouteTable.find?_expire] at found
    exact Or.inl (Option.filter_eq_some_iff.mp found).1

/-- A learned route is there from before, or it was taught at this very moment. -/
theorem Moment.taught_or_kept
    (found : moment.after.table.find? route.destination route.mask = some route)
    (learned : route.origin = .learned) :
    moment.before.table.find? route.destination route.mask = some route ∨
      moment.now = route.updatedAt ∧ moment.Teaches route := by
  rcases moment.kept_or_entered route found with kept | taught | ⟨interface, -, rfl⟩
  · exact Or.inl kept
  · exact Or.inr taught
  · cases learned

/-- A route that is taught is as young as the moment. -/
theorem Moment.updatedAt_of_teaches
    (found : moment.after.table.find? route.destination route.mask = some route)
    (learned : route.origin = .learned) (teaches : moment.Teaches route) :
    route.updatedAt = moment.now := by
  obtain ⟨response, brings, offers⟩ := teaches
  obtain ⟨entry, member, repeats⟩ := response.repeats_of_offers moment.now route offers
  rw [moment.table_of_brings response brings] at found
  exact Hearing.updatedAt_of_repeats _ _ entry response.entries route found learned member repeats

end Step

/-! ### Runs -/

section Runs

variable {start router : Router} {history : List Moment}

/-- Every route was there at the start, or was taught at its time, or leads to an attached
subnet. -/
theorem Run.source (run : Run start history router) (route : Route)
    (found : router.table.find? route.destination route.mask = some route) :
    start.table.find? route.destination route.mask = some route ∨
      (∃ moment ∈ history, moment.now = route.updatedAt ∧ moment.Teaches route) ∨
      ∃ interface ∈ start.registry.interfaces, ∃ now, route = .direct interface now := by
  induction run with
  | begin => exact Or.inl found
  | record history moment before inductionHypothesis =>
    rcases moment.kept_or_entered route found with
      kept | taught | ⟨interface, member, entered⟩
    · rcases inductionHypothesis kept with initial | ⟨earlier, inHistory, taught⟩ | attached
      · exact Or.inl initial
      · exact Or.inr (Or.inl ⟨earlier, List.mem_append_left _ inHistory, taught⟩)
      · exact Or.inr (Or.inr attached)
    · exact Or.inr (Or.inl ⟨moment, List.mem_append_right _ List.mem_cons_self, taught⟩)
    · rw [before.registry_eq] at member
      exact Or.inr (Or.inr ⟨interface, member, moment.now, entered⟩)

/-- Every learned route was taught at its time, whatever the clock does. -/
theorem Run.taught (run : Run start history router) (fresh : start.Fresh) (route : Route)
    (found : router.table.find? route.destination route.mask = some route)
    (learned : route.origin = .learned) :
    ∃ moment ∈ history, moment.now = route.updatedAt ∧ moment.Teaches route := by
  rcases run.source route found with initial | taught | ⟨interface, -, now, rfl⟩
  · exact absurd learned (fresh.origin_ne route (RouteTable.mem_of_find? _ _ _ _ initial).1)
  · exact taught
  · cases learned

/-- On a clock that does not go back, no frame repeats a route after its time. -/
theorem Run.not_repeated_later (run : Run start history router)
    (clock : history.Pairwise fun earlier later => earlier.now ≤ later.now) (route : Route)
    (found : router.table.find? route.destination route.mask = some route)
    (learned : route.origin = .learned) :
    ∀ moment ∈ history, moment.Teaches route → moment.now ≤ route.updatedAt := by
  induction run with
  | begin => exact fun _ none => absurd none List.not_mem_nil
  | record history last before inductionHypothesis =>
    obtain ⟨clockBefore, -, lastIsLatest⟩ := List.pairwise_append.mp clock
    intro moment member teaches
    rcases List.mem_append.mp member with inHistory | isLast
    · rcases last.taught_or_kept route found learned with kept | ⟨time, -⟩
      · exact inductionHypothesis clockBefore kept moment inHistory teaches
      · rw [← time]
        exact lastIsLatest moment inHistory last List.mem_cons_self
    · obtain rfl := List.mem_singleton.mp isLast
      exact Nat.le_of_eq (moment.updatedAt_of_teaches route found learned teaches).symm

/-- Every learned route goes back to a response that was received at the time of the route, on its
interface and from its gateway; no later frame offered the same route again; and its cost can be
counted. -/
theorem learned_provenance (run : Run start history router) (fresh : start.Fresh)
    (clock : history.Pairwise fun earlier later => earlier.now ≤ later.now) (route : Route)
    (member : route ∈ router.table.routes) (learned : route.origin = .learned) :
    (∃ moment ∈ history, moment.now = route.updatedAt ∧ moment.Teaches route) ∧
      (∀ moment ∈ history, moment.Teaches route → moment.now ≤ route.updatedAt) ∧
      1 ≤ route.cost.toNat ∧ route.cost.toNat ≤ 15 := by
  have found := router.table.find?_of_mem route member
  obtain ⟨moment, inHistory, time, teaches⟩ := run.taught fresh route found learned
  refine ⟨⟨moment, inHistory, time, teaches⟩,
    run.not_repeated_later clock route found learned, ?_⟩
  obtain ⟨response, -, offers⟩ := teaches
  obtain ⟨entry, -, -, -, -, -, cost, near⟩ := offers.entry
  omega

end Runs

/-! ### A route learned twice -/

namespace Relearning

/-- The neighbour's response that 10.9.0.0/16 is one hop away from it. -/
def frame : Octets :=
  (messageFrame? 16 Stations.neighbor .everyone (.response
    [.inet (.ofParts 10 9 0 0) (.ofParts 255 255 0 0) .unspecified 1])).getD []

/-- The response comes in, -/
def once : Moment := ⟨Stations.prepared.after, 5, .receive frame "eth0"⟩

/-- and comes in again. -/
def again : Moment := ⟨once.after, 9, .receive frame "eth0"⟩

def last : Moment := ⟨again.after, 20, .advertise⟩

def history : List Moment := [Stations.prepared, once, again, last]

/-- The route as it was heard the second time. -/
def route : Route :=
  .learned (.ofParts 10 9 0 0) (.ofParts 255 255 0 0) (.ofParts 10 0 0 2) "eth0" 2 9

theorem run : Run Stations.router history last.after :=
  .record [Stations.prepared, once, again] last (.record [Stations.prepared, once] again
    (.record [Stations.prepared] once (.record [] Stations.prepared .begin)))

end Relearning

/-- The neighbour was heard twice, and the route is as young as what was heard last. -/
theorem learned_provenance_twice :
    Relearning.route ∈ Relearning.last.after.table.routes ∧
      (∃ moment ∈ Relearning.history, moment.now = 9 ∧ moment.Teaches Relearning.route) ∧
      ∀ moment ∈ Relearning.history, moment.Teaches Relearning.route → moment.now ≤ 9 := by
  have member : Relearning.route ∈ Relearning.last.after.table.routes := by decide +kernel
  obtain ⟨taught, unrepeated, -⟩ := learned_provenance Relearning.run
    Stations.fresh (by decide) Relearning.route member rfl
  exact ⟨member, taught, unrepeated⟩

end Ipv4Router.Router
