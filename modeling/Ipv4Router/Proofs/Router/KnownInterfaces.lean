/-
This file shows that a router never misses an interface. A configuration names only the
interfaces in its routes that it configures, and whatever comes into the route table or is
asked for later has its interface from the registry: it is one with an attached subnet, one
on which a frame was received, or one out of which a frame is sent. So no datagram and no
request is ever given up because there is no interface of the name.
-/

import Ipv4Router.Proofs.Route.Lookup
import Ipv4Router.Proofs.Router.Warnings

namespace Ipv4Router

/-! ### Names -/

theorem Registry.mem_names (registry : Registry) (name : String) :
    name ∈ registry.names ↔ ∃ interface, registry.get? name = some interface := by
  rw [← Option.isSome_iff_exists, Option.isSome_iff_ne_none, ne_eq, get?, Keyed.find?_eq_none,
    Decidable.not_not]
  rfl

/-- The effect is to note that a route or a request names an interface that there is not. -/
def Effect.missesInterface : Effect → Bool
  | .note (.routeWithoutInterface _ _) => true
  | .note (.cannotAsk _ _) => true
  | _ => false

/-- No effect is to note that there is no interface of a name. -/
def Effect.MissNone (effects : List Effect) : Prop :=
  ∀ effect ∈ effects, effect.missesInterface = false

theorem Effect.isWarning_of_missesInterface (effect : Effect)
    (misses : effect.missesInterface = true) : effect.isWarning = true := by
  unfold missesInterface at misses
  split at misses <;> first | rfl | cases misses

/-! ### Route tables -/

namespace RouteTable

/-- All routes lead out of interfaces with these names. -/
def LeadsThrough (table : RouteTable) (names : List String) : Prop :=
  ∀ route ∈ table.routes, route.interface ∈ names

variable (table : RouteTable) (names : List String) (leads : table.LeadsThrough names)

include leads

theorem leadsThrough_insert (route : Route) (known : route.interface ∈ names) :
    (table.insert route).1.LeadsThrough names := by
  intro other member
  rcases Keyed.mem_put Route.key route table.routes other member with rfl | inTable
  · exact known
  · exact leads other inTable

theorem leadsThrough_update (destination mask gateway : Ipv4Address) (interface : String)
    (now : Nat) (cost : Option UInt32) (known : interface ∈ names) :
    (table.update destination mask gateway interface now cost).1.LeadsThrough names := by
  intro route member
  rcases Keyed.mem_adjust Route.key _ _ table.routes route member with inTable | ⟨old, -, rfl⟩
  · exact leads route inTable
  · exact known

theorem leadsThrough_expire (now timeout : Nat) :
    (table.expire now timeout).1.LeadsThrough names :=
  fun route member => leads route (List.mem_filter.mp member).1

end RouteTable

/-! ### The exchange of routes -/

namespace DistanceVector

/-- What is heard on an interface leads out of it. -/
theorem Hearing.leadsThrough_absorb (hearing : Hearing) (table : RouteTable) (names : List String)
    (known : hearing.interface ∈ names) (entries : List RipEntry)
    (leads : table.LeadsThrough names) :
    (hearing.absorb table entries).1.LeadsThrough names := by
  refine hearing.absorb_keeps table (fun after => after.LeadsThrough names) entries
    (fun before entry _ holds => ?_) leads
  have relaxes := hearing.relaxes_relax before entry
  generalize (hearing.relax before entry).1 = after at relaxes ⊢
  cases relaxes with
  | kept => exact holds
  | added offers absent => exact before.leadsThrough_insert names holds _ known
  | redirected route cost offers found learned costs notCheaper =>
    exact before.leadsThrough_update names holds _ _ _ _ _ cost known

end DistanceVector

/-! ### Neighbours -/

namespace Neighbor

/-- All requests are made on interfaces with these names. -/
def Cache.AsksOn (cache : Cache) (names : List String) : Prop :=
  ∀ request ∈ cache.requests, request.interface ∈ names

section Asking

variable (registry : Registry) (cache : Cache) (asks : cache.AsksOn registry.names)

include asks

/-- A request is made on the interface out of which the frame is to be sent. -/
theorem asksOn_send (frame : Octets) (nextHop : Ipv4Address) (out : Interface) (now : Nat)
    (known : out.name ∈ registry.names) :
    (send registry cache frame nextHop out now).1.AsksOn registry.names := by
  have requested : (cache.startRequest nextHop out.name now).1.AsksOn registry.names := by
    unfold Cache.startRequest
    split
    · exact asks
    · intro request member
      rcases Keyed.mem_put Request.target _ _ request member with rfl | among
      · exact known
      · exact asks request among
  unfold send
  split
  · exact asks
  · dsimp only
    unfold Cache.enqueue?
    split
    · intro request member
      rcases Keyed.mem_adjust Request.target _ _ _ request member with among | ⟨old, among, rfl⟩
      · exact requested request among
      · exact requested old among
    · exact requested

theorem asksOn_learnReply (packet : ArpPacket) (interface : Interface) (now : Nat) :
    (learnReply cache packet interface now).1.AsksOn registry.names := by
  by_cases heard : packet.targetAddress = interface.address
  · rw [learnReply_heard _ _ _ _ heard]
    exact fun request member => asks request (List.mem_of_mem_eraseP member)
  · rwa [learnReply, if_neg heard]

theorem asksOn_sweep (settings : Settings) (now : Nat) :
    (sweep registry settings cache now).1.AsksOn registry.names := by
  intro request member
  obtain ⟨old, kept, rfl⟩ := List.mem_map.mp member
  have same : (old.swept settings now).interface = old.interface := by
    unfold Request.swept
    split <;> rfl
  rw [same]
  exact asks old (List.mem_filter.mp kept).1

end Asking

end Neighbor

namespace Router

/-! ### One event -/

/-- Every route and every request names an interface that the router has. -/
structure KnowsInterfaces (router : Router) : Prop where
  routes : router.table.LeadsThrough router.registry.names
  requests : router.neighbors.AsksOn router.registry.names

section Events

variable (router : Router) (now : Nat)

theorem knowsInterfaces_receive (octets : Octets) (interfaceName : String)
    (knows : router.KnowsInterfaces) :
    (router.receive octets interfaceName now).1.KnowsInterfaces := by
  have named (name : String) (interface : Interface)
      (registered : router.registry.get? name = some interface) :
      interface.name ∈ router.registry.names := by
    rw [(Keyed.mem_of_find? _ _ _ _ registered).2]
    exact (router.registry.mem_names name).mpr ⟨interface, registered⟩
  cases router.receive_outcome octets interfaceName now with
  | unchanged same => rwa [same]
  | heard response hears =>
    rw [receive_of_hears _ _ _ _ _ hears]
    exact ⟨DistanceVector.Hearing.leadsThrough_absorb _ _ _
      (named _ _ hears.accepted.registered) _ knows.routes, knows.requests⟩
  | learned interface packet learns =>
    rw [receive_of_learns _ _ _ _ _ _ learns]
    exact ⟨knows.routes, Neighbor.asksOn_learnReply router.registry _ knows.requests _ _ _⟩
  | forwarded passage forwards =>
    rw [receive_of_forwards _ _ _ now _ forwards]
    exact ⟨knows.routes, Neighbor.asksOn_send router.registry _ knows.requests _ _ _ _
      (named _ _ forwards.known)⟩

theorem knowsInterfaces_perform (event : Event) (knows : router.KnowsInterfaces) :
    (router.perform now event).1.KnowsInterfaces := by
  cases event with
  | prepare =>
    show (router.prepare now).1.KnowsInterfaces
    obtain ⟨registry, -⟩ := router.prepare_keeps now
    constructor
    · rw [registry]
      exact router.prepare_table_keeps now (fun table => table.LeadsThrough router.registry.names)
        (fun table interface member leads => table.leadsThrough_insert _ leads _
          (List.mem_map_of_mem member)) knows.routes
    · rw [registry, router.prepare_neighbors now]
      exact knows.requests
  | receive octets interfaceName =>
    exact router.knowsInterfaces_receive now octets interfaceName knows
  | advertise => exact ⟨router.table.leadsThrough_expire _ knows.routes _ _, knows.requests⟩
  | sweep => exact ⟨knows.routes, Neighbor.asksOn_sweep _ _ knows.requests _ _⟩

/-- A router that has all interfaces that its routes and its requests name misses none. -/
theorem missNone_perform (event : Event) (knows : router.KnowsInterfaces) :
    Effect.MissNone (router.perform now event).2 := by
  intro effect member
  refine Bool.eq_false_iff.mpr fun notes => ?_
  have has (name : String) (known : name ∈ router.registry.names) :
      router.registry.get? name ≠ none := by
    obtain ⟨interface, registered⟩ := (router.registry.mem_names name).mp known
    rw [registered]
    nofun
  cases router.warnsOfMissing_perform now event effect member
    (effect.isWarning_of_missesInterface notes) with
  | route route inTable missing destination => exact has _ (knows.routes route inTable) missing
  | request request pending missing => exact has _ (knows.requests request pending) missing

end Events

/-! ### Configured routers -/

section Configured

variable (configuration : Configuration) (hostMac? : String → Option MacAddress) (setupAt : Nat)
  (start : Router)

theorem names_of_ofConfiguration
    (setup : ofConfiguration configuration hostMac? setupAt = .ok start) :
    start.registry.names = configuration.names := by
  obtain ⟨valid, registry, built, rfl⟩ := eq_of_ofConfiguration _ _ _ _ setup
  exact configuration.names_of_registry hostMac? registry
    (configuration.names_of_validate valid).1 built

theorem knowsInterfaces_of_ofConfiguration
    (setup : ofConfiguration configuration hostMac? setupAt = .ok start) :
    start.KnowsInterfaces := by
  have names := names_of_ofConfiguration configuration hostMac? setupAt start setup
  obtain ⟨valid, registry, -, rfl⟩ := eq_of_ofConfiguration _ _ _ _ setup
  refine ⟨fun route member => ?_, fun _ none => absurd none List.not_mem_nil⟩
  obtain ⟨setting, among, rfl⟩ := configuration.mem_table setupAt route member
  rw [names]
  exact (configuration.names_of_validate valid).2 setting among

/-- A router that is set up from a configuration has the configured interfaces in their order for
good. Every route and every request names one of them, whatever the router lives through, and
none is ever missed. -/
theorem interfaces_known (setup : ofConfiguration configuration hostMac? setupAt = .ok start)
    (history : List Moment) (router : Router) (run : Run start history router) :
    router.registry.names = configuration.names ∧
      (∀ route ∈ router.table.routes, route.interface ∈ router.registry.names) ∧
      (∀ request ∈ router.neighbors.requests, request.interface ∈ router.registry.names) ∧
      ∀ moment ∈ history, ∀ effect ∈ (moment.before.perform moment.now moment.event).2,
        effect.missesInterface = false := by
  have begins := knowsInterfaces_of_ofConfiguration configuration hostMac? setupAt start setup
  have step (moment : Moment) (knows : moment.before.KnowsInterfaces) :
      moment.after.KnowsInterfaces :=
    moment.before.knowsInterfaces_perform moment.now moment.event knows
  have ends := run.keeps KnowsInterfaces step begins
  refine ⟨?_, ends.routes, ends.requests, fun moment member => ?_⟩
  · rw [run.registry_eq]
    exact names_of_ofConfiguration configuration hostMac? setupAt start setup
  · exact moment.before.missNone_perform moment.now moment.event
      (run.meets KnowsInterfaces step begins moment member)

end Configured

/-! ### A configured route and a request -/

namespace Configured

/-- Two interfaces, and a network behind a gateway on the second one. -/
def configuration : Configuration where
  interfaces :=
    [⟨"eth0", ⟨.ofParts 10 0 0 1, 24, by decide⟩, none⟩,
      ⟨"eth1", ⟨.ofParts 10 0 1 1, 24, by decide⟩, none⟩]
  staticRoutes := [⟨⟨.ofParts 10 9 0 0, 16, by decide⟩, .ofParts 10 0 1 9, "eth1", 1⟩]

/-- The link addresses of the host. -/
def hostMac? (name : String) : Option MacAddress :=
  if name = "eth0" then some Stations.inner.mac
  else if name = "eth1" then some Stations.outer.mac
  else none

def start : Router where
  registry := Stations.registry
  settings := configuration.settings
  table := configuration.table 0

def first : Moment := ⟨start, 0, .prepare⟩

/-- A datagram comes in for a station whose link address is not known. -/
def second : Moment := ⟨first.after, 5, .receive Transit.frame "eth0"⟩

/-- The station is asked for again. -/
def last : Moment := ⟨second.after, 2000, .sweep⟩

theorem run : Run start [first, second, last] last.after :=
  .record [first, second] last (.record [first] second (.record [] first .begin))

end Configured

/-- The configured route, the two to attached subnets and the request name known interfaces. -/
theorem interfaces_known_request :
    ofConfiguration Configured.configuration Configured.hostMac? 0 = .ok Configured.start ∧
      Configured.last.after.table.size = 3 ∧
      (∀ route ∈ Configured.last.after.table.routes, route.interface ∈ ["eth0", "eth1"]) ∧
      Configured.last.after.neighbors.requests.length = 1 ∧
      ∀ request ∈ Configured.last.after.neighbors.requests,
        request.interface ∈ ["eth0", "eth1"] := by
  have setup : ofConfiguration Configured.configuration Configured.hostMac? 0 =
      .ok Configured.start := by decide +kernel
  obtain ⟨names, routes, requests, -⟩ := interfaces_known _ _ 0 _ setup _ _ Configured.run
  rw [names] at routes requests
  exact ⟨setup, by decide +kernel, routes, by decide +kernel, requests⟩

end Router

end Ipv4Router
