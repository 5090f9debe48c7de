/-
This file says which learned routes age out. A beat of the exchange takes a route out
only if it has a gateway, and a learned route has the gateway that a neighbour's
response came from. So a route that was learned from a neighbour with an address goes
when its time is up, while one that was learned from 0.0.0.0 stays for good and is
still advertised.
-/

import Ipv4Router.Proofs.DistanceVector.Advertising
import Ipv4Router.Proofs.Router.Provenance

namespace Ipv4Router

/-- The route was learned from a neighbour and not refreshed for the time given. -/
structure Route.Outdated (route : Route) (now timeout : Nat) : Prop where
  learned : route.origin = .learned
  overdue : timeout ≤ now - route.updatedAt

/-- Of the outdated routes, those with a gateway are stale. -/
theorem Route.isStale_of_outdated (route : Route) (now timeout : Nat)
    (outdated : route.Outdated now timeout) :
    route.isStale now timeout = false ↔ route.gateway = .unspecified := by
  have expires : route.isStale now timeout = !route.isAttached := by
    rw [isStale, canExpire, outdated.learned, decide_eq_true outdated.overdue, Bool.and_true,
      show (Origin.learned != Origin.static) = true from rfl, Bool.and_true]
  rw [expires, Bool.not_eq_false', isAttached, beq_iff_eq]

theorem RouteTable.mem_expire (table : RouteTable) (now timeout : Nat) (route : Route) :
    route ∈ (table.expire now timeout).1.routes ↔
      route ∈ table.routes ∧ route.isStale now timeout = false := by
  show route ∈ table.routes.filter (fun route => !route.isStale now timeout) ↔ _
  rw [List.mem_filter, Bool.not_eq_true']

namespace Router

open DistanceVector

/-- A message that the beat of the exchange sends has an entry for the route. -/
def Advertises (router : Router) (now : Nat) (route : Route) : Prop :=
  ∃ sent ∈ Effect.transmissions (router.advertise now).2, ∃ message, Carries sent.2 message ∧
    ∃ entry ∈ message.entries, entry.address = route.destination ∧ entry.mask = route.mask

/-- The beat of the exchange leaves no outdated route, and tells nobody about one. -/
structure AgesOut (router : Router) (now : Nat) : Prop where
  gone : ∀ route ∈ (router.advertise now).1.table.routes,
    ¬ route.Outdated now router.settings.routing.timeout
  untold : ∀ route ∈ router.table.routes, route.Outdated now router.settings.routing.timeout →
    ¬ router.Advertises now route

section Beat

variable (router : Router) (now : Nat) (route : Route)

/-- An outdated route is still there after a beat exactly if it has no gateway. -/
theorem outdated_left_iff (outdated : route.Outdated now router.settings.routing.timeout) :
    route ∈ (router.advertise now).1.table.routes ↔
      route ∈ router.table.routes ∧ route.gateway = .unspecified := by
  show route ∈ (router.table.expire now router.settings.routing.timeout).1.routes ↔ _
  rw [RouteTable.mem_expire, route.isStale_of_outdated _ _ outdated]

/-- A beat tells about a route exactly if it is still there, and leads through another interface
than the one that tells. -/
theorem advertises_iff (inTable : route ∈ router.table.routes) :
    router.Advertises now route ↔ route ∈ (router.advertise now).1.table.routes ∧
      ∃ interface ∈ router.registry.interfaces, route.interface ≠ interface.name := by
  have carried := carried_by_beat router.registry router.settings.routing router.table now
  constructor
  · rintro ⟨sent, isSent, message, carries, entry, member, destination, mask⟩
    obtain ⟨interface, registered, advertised⟩ :=
      (carried entry).mp ⟨sent, isSent, message, carries, member⟩
    obtain ⟨told, left, elsewhere, rfl⟩ := (RouteTable.mem_advertised _ _ _ _).mp advertised
    -- No two routes have one destination and mask, so the route that was told is this one.
    have found := router.table.find?_of_mem told ((RouteTable.mem_expire _ _ _ _).mp left).1
    have same : told = route := by
      change told.destination = route.destination at destination
      change told.mask = route.mask at mask
      rw [destination, mask, router.table.find?_of_mem route inTable] at found
      exact (Option.some_inj.mp found).symm
    rw [same] at left elsewhere
    exact ⟨left, interface, registered, elsewhere⟩
  · rintro ⟨left, interface, registered, elsewhere⟩
    obtain ⟨sent, isSent, message, carries, member⟩ :=
      (carried (.inet route.destination route.mask interface.address route.cost)).mpr
        ⟨interface, registered, (RouteTable.mem_advertised _ _ _ _).mpr
          ⟨route, left, elsewhere, rfl⟩⟩
    exact ⟨sent, isSent, message, carries, _, member, rfl, rfl⟩

/-- All outdated routes age out exactly if all of them have a gateway. -/
theorem agesOut_iff_gateways :
    router.AgesOut now ↔ ∀ route ∈ router.table.routes,
      route.Outdated now router.settings.routing.timeout → route.gateway ≠ .unspecified := by
  constructor
  · intro agesOut route inTable outdated unspecified
    exact agesOut.gone route
      ((router.outdated_left_iff now route outdated).mpr ⟨inTable, unspecified⟩) outdated
  · intro gateways
    refine ⟨fun route left outdated => ?_, fun route inTable outdated told => ?_⟩
    · obtain ⟨inTable, unspecified⟩ := (router.outdated_left_iff now route outdated).mp left
      exact gateways route inTable outdated unspecified
    · have left := ((router.advertises_iff now route inTable).mp told).1
      exact gateways route inTable outdated
        ((router.outdated_left_iff now route outdated).mp left).2

end Beat

/-! ### Runs -/

section Runs

variable {start router : Router} {history : List Moment}

/-- The gateway of a learned route is the source of a response that was heard. -/
theorem Run.gateway_heard (run : Run start history router) (fresh : start.Fresh) (route : Route)
    (inTable : route ∈ router.table.routes) (learned : route.origin = .learned) :
    ∃ moment ∈ history, ∃ response, moment.Brings response ∧
      response.datagram.source = route.gateway := by
  have found := router.table.find?_of_mem route inTable
  obtain ⟨moment, inHistory, -, response, brings, offers⟩ := run.taught fresh route found learned
  exact ⟨moment, inHistory, response, brings, offers.gateway_eq⟩

/-- After any run, whatever the time, a beat leaves just those outdated routes that have no
gateway, and tells of them wherever split horizon lets it. All outdated routes age out exactly if
none of them is of this kind, so always if no response from 0.0.0.0 was ever heard. -/
theorem ages_out_iff (run : Run start history router) (fresh : start.Fresh) (now : Nat) :
    (∀ route ∈ router.table.routes, route.Outdated now router.settings.routing.timeout →
      (route ∈ (router.advertise now).1.table.routes ↔ route.gateway = .unspecified) ∧
      (router.Advertises now route ↔ route.gateway = .unspecified ∧
        ∃ interface ∈ router.registry.interfaces, route.interface ≠ interface.name)) ∧
    (router.AgesOut now ↔ ∀ route ∈ router.table.routes,
      route.Outdated now router.settings.routing.timeout → route.gateway ≠ .unspecified) ∧
    ((∀ moment ∈ history, ∀ response, moment.Brings response →
      response.datagram.source ≠ .unspecified) → router.AgesOut now) := by
  refine ⟨fun route inTable outdated => ?_, router.agesOut_iff_gateways now,
    fun specified => ?_⟩
  · have left : route ∈ (router.advertise now).1.table.routes ↔ route.gateway = .unspecified := by
      rw [router.outdated_left_iff now route outdated]
      exact and_iff_right inTable
    refine ⟨left, ?_⟩
    rw [router.advertises_iff now route inTable, left]
  · refine (router.agesOut_iff_gateways now).mpr fun route inTable outdated => ?_
    obtain ⟨moment, inHistory, response, brings, source⟩ :=
      run.gateway_heard fresh route inTable outdated.learned
    rw [← source]
    exact specified moment inHistory response brings

end Runs

/-- What was heard from a neighbour with an address ages out thirty seconds later. -/
theorem ages_out_neighbor :
    Relearning.route ∈ Relearning.last.after.table.routes ∧
      Relearning.route.Outdated 30009 Relearning.last.after.settings.routing.timeout ∧
      Relearning.last.after.AgesOut 30009 := by
  have member : Relearning.route ∈ Relearning.last.after.table.routes := by decide +kernel
  have gateways : ∀ route ∈ Relearning.last.after.table.routes, route.origin = .learned →
      route.gateway ≠ .unspecified := by decide +kernel
  have timeout : Relearning.last.after.settings.routing.timeout = 30000 := by decide +kernel
  refine ⟨member, ⟨rfl, by rw [timeout]; decide⟩, ?_⟩
  exact (ages_out_iff Relearning.run Stations.fresh 30009).2.1.mpr
    fun route inTable outdated => gateways route inTable outdated.learned

/-! ### A neighbour without an address -/

namespace Nameless

/-- A response from 0.0.0.0 that 10.9.0.0/16 is one hop away. -/
def frame : Octets :=
  (messageFrame? 16 { Stations.neighbor with address := .unspecified } .everyone (.response
    [.inet (.ofParts 10 9 0 0) (.ofParts 255 255 0 0) .unspecified 1])).getD []

def last : Moment := ⟨Stations.prepared.after, 0, .receive frame "eth0"⟩

def history : List Moment := [Stations.prepared, last]

/-- The route as it was heard, without a gateway. -/
def route : Route :=
  .learned (.ofParts 10 9 0 0) (.ofParts 255 255 0 0) .unspecified "eth0" 2 0

theorem run : Run Stations.router history last.after :=
  .record [Stations.prepared] last (.record [] Stations.prepared .begin)

end Nameless

/-- What was heard from 0.0.0.0 does not age out. -/
theorem not_ages_out_nameless :
    Run Stations.router Nameless.history Nameless.last.after ∧ Stations.router.Fresh ∧
      ¬ Nameless.last.after.AgesOut 30000 := by
  have left : Nameless.route ∈ (Nameless.last.after.advertise 30000).1.table.routes := by
    decide +kernel
  have timeout : Nameless.last.after.settings.routing.timeout = 30000 := by decide +kernel
  refine ⟨Nameless.run, Stations.fresh, fun agesOut => agesOut.gone Nameless.route left ⟨rfl, ?_⟩⟩
  rw [timeout]
  decide

end Router

end Ipv4Router
