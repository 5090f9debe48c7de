/-
This file shows that a router never mistakes its own frames for those of others. Every
frame that it sends goes out of an interface that there is, and has the link address of
that interface as its source, wherever it was built: a frame that waited in a queue gets
it when it is released. So a frame that a link hands back to the interface that sent it
is dropped there, in every state of the router.
-/

import Ipv4Router.Proofs.DistanceVector.Advertising
import Ipv4Router.Proofs.Neighbor.Conservation
import Ipv4Router.Proofs.Router.Confinement
import Ipv4Router.Proofs.Router.Schedule

namespace Ipv4Router

/-! ### Own frames -/

namespace Registry

/-- The frame goes out of an interface that there is, with the link address of that interface as
its source. -/
def Owns (registry : Registry) (sent : String × Octets) : Prop :=
  ∃ interface, registry.get? sent.1 = some interface ∧ LinkHeader.size ≤ sent.2.length ∧
    (LinkHeader.read sent.2).source = interface.mac

/-- All frames that are sent are the router's own. -/
def OwnsAll (registry : Registry) (effects : List Effect) : Prop :=
  ∀ sent ∈ Effect.transmissions effects, registry.Owns sent

section Owning

variable (registry : Registry)

theorem owns_frame (name : String) (interface : Interface) (destination : MacAddress)
    (kind : EtherType) (payload : Octets) (registered : registry.get? name = some interface) :
    registry.Owns (name, LinkHeader.frame ⟨destination, interface.mac, kind⟩ payload) := by
  refine ⟨interface, registered, ?_, ?_⟩
  · show LinkHeader.size ≤ (LinkHeader.frame _ _).length
    rw [LinkHeader.frame, List.length_append, LinkHeader.length_octets]
    exact Nat.le_add_right _ _
  · show (LinkHeader.read (LinkHeader.frame _ _)).source = _
    rw [LinkHeader.read_frame]

theorem owns_readdress (interface : Interface) (frame : Octets) (destination : MacAddress)
    (registered : registry.get? interface.name = some interface)
    (whole : LinkHeader.size ≤ frame.length) :
    registry.Owns (interface.name, readdress frame interface.mac destination) := by
  rw [readdress_eq_frame _ _ _ whole]
  exact registry.owns_frame _ interface destination _ _ registered

theorem ownsAll_of_quiet (effects : List Effect) (quiet : Effect.transmissions effects = []) :
    registry.OwnsAll effects := by
  intro sent member
  rw [quiet] at member
  cases member

theorem ownsAll_of_each (effects : List Effect)
    (each : ∀ effect ∈ effects, registry.OwnsAll [effect]) : registry.OwnsAll effects := by
  intro sent member
  obtain ⟨effect, among, transmitted⟩ := List.mem_filterMap.mp member
  refine each effect among sent (List.mem_filterMap.mpr ⟨effect, ?_, transmitted⟩)
  exact List.mem_singleton_self effect

theorem ownsAll_transmit (name : String) (frame : Octets) (owns : registry.Owns (name, frame)) :
    registry.OwnsAll [.transmit name frame] := by
  intro sent member
  obtain rfl := List.mem_singleton.mp member
  exact owns

end Owning

end Registry

/-! ### Neighbours -/

namespace Neighbor

section Resolving

variable (registry : Registry)

/-- The interface that the operation sends or hears on is one that there is. -/
def Operation.Registered : Operation → Prop
  | .send _ _ out _ => registry.get? out.name = some out
  | .learn _ interface _ => registry.get? interface.name = some interface
  | _ => True

theorem registered_of_binding? (moment : Moment) (address : Ipv4Address) (mac : MacAddress)
    (interface : Interface) (bound : moment.binding? address = some (mac, interface))
    (registered : moment.operation.Registered registry) :
    registry.get? interface.name = some interface := by
  obtain ⟨before, operation, after, effects⟩ := moment
  cases operation with
  | learn packet via now =>
    change (if _ then _ else _) = _ at bound
    split at bound
    · cases bound
      exact registered
    · cases bound
  | send _ _ _ _ | resolve _ _ _ | hold _ _ | sweep _ => cases bound

/-- Whatever an operation sends, at once, out of a queue or to ask, is the router's own. -/
theorem ownsAll_moment (settings : Settings) (cache : Cache) (operation : Operation)
    (given : operation.Whole) (registered : operation.Registered registry)
    (queued : cache.Whole) :
    registry.OwnsAll (cache.moment registry settings operation).effects := by
  intro sent member
  by_cases bound : ∃ address,
      (cache.moment registry settings operation).binding? address ≠ none
  · obtain ⟨address, isBound⟩ := bound
    cases turn_moment registry settings cache operation address with
    | grows unbound | dropped unbound => exact absurd unbound isBound
    | released mac interface binding kept refused emptied sends =>
      rw [sends] at member
      obtain ⟨frame, waited, rfl⟩ := List.mem_map.mp member
      exact registry.owns_readdress interface frame mac
        (registered_of_binding? registry _ address mac interface binding registered)
        (queued address frame waited)
  · have unbound (address : Ipv4Address) :
        (cache.moment registry settings operation).binding? address = none :=
      Decidable.not_not.mp fun isBound => bound ⟨address, isBound⟩
    have confined := confined_moment registry settings cache operation
    rcases confined.silent unbound with ⟨frame, _, out, _, mac, rfl, -, sends⟩ | asks
    · rw [sends, List.mem_singleton] at member
      obtain rfl := member
      exact registry.owns_readdress out frame mac registered given
    · obtain ⟨name, octets⟩ := sent
      obtain ⟨interface, target, found, rfl⟩ := asks _ member
      exact registry.owns_frame name interface _ _ _ found

theorem ownsAll_answer (packet : ArpPacket) (interface : Interface)
    (registered : registry.get? interface.name = some interface) :
    registry.OwnsAll (answer packet interface) := by
  unfold answer
  split
  · exact registry.ownsAll_transmit _ _ (registry.owns_frame _ interface _ _ _ registered)
  · exact registry.ownsAll_of_quiet _ rfl

end Resolving

end Neighbor

/-! ### Built frames -/

theorem ControlMessage.ofDatagram_of_frame? (ttl : UInt8) (interface : Interface)
    (peer : MacAddress) (source destination : Ipv4Address) (message : IcmpMessage)
    (frame : Octets) (built : frame? ttl interface peer source destination message = some frame) :
    ∃ datagram, frame = Frame.ofDatagram interface.mac peer datagram := by
  obtain ⟨datagram, -, rfl⟩ := Option.map_eq_some_iff.mp built
  exact ⟨datagram, rfl⟩

theorem DistanceVector.ofDatagram_of_messageFrame? (ttl : UInt8) (interface : Interface)
    (recipient : Recipient) (message : RipMessage) (frame : Octets)
    (built : messageFrame? ttl interface recipient message = some frame) :
    ∃ datagram, frame = Frame.ofDatagram interface.mac recipient.mac datagram := by
  unfold messageFrame? at built
  obtain ⟨segment, -, rest⟩ := Option.bind_eq_some_iff.mp built
  obtain ⟨datagram, -, framed⟩ := Option.bind_eq_some_iff.mp rest
  exact ⟨datagram, (Option.some_inj.mp framed).symm⟩

/-! ### The exchange of routes -/

namespace DistanceVector

section Exchanging

variable (registry : Registry) (ttl : UInt8)

theorem ownsAll_send (interface : Interface) (recipient : Recipient) (message : RipMessage)
    (registered : registry.get? interface.name = some interface) :
    registry.OwnsAll [send ttl interface recipient message] := by
  unfold send
  split
  · rename_i frame built
    obtain ⟨datagram, rfl⟩ := ofDatagram_of_messageFrame? _ _ _ _ _ built
    exact registry.ownsAll_transmit _ _ (registry.owns_frame _ interface _ _ _ registered)
  · exact registry.ownsAll_of_quiet _ rfl

theorem ownsAll_respond (interface : Interface) (recipient : Recipient)
    (entries : List RipEntry) (registered : registry.get? interface.name = some interface) :
    registry.OwnsAll (respond ttl interface recipient entries) := by
  refine registry.ownsAll_of_each _ fun effect member => ?_
  obtain ⟨message, -, rfl⟩ := List.mem_map.mp member
  exact ownsAll_send registry ttl interface recipient message registered

theorem ownsAll_askEveryone : registry.OwnsAll (askEveryone registry ttl) := by
  refine registry.ownsAll_of_each _ fun effect member => ?_
  obtain ⟨interface, among, rfl⟩ := List.mem_map.mp member
  exact ownsAll_send registry ttl interface _ _
    (Keyed.find?_of_mem Interface.name _ registry.named interface among)

theorem ownsAll_advertise (table : RouteTable) :
    registry.OwnsAll (advertise registry table ttl) := by
  intro sent member
  rw [transmissions_advertise] at member
  obtain ⟨interface, among, responds⟩ := List.mem_flatMap.mp member
  exact ownsAll_respond registry ttl interface _ _
    (Keyed.find?_of_mem Interface.name _ registry.named interface among) sent responds

theorem ownsAll_receive (settings : Settings) (table : RouteTable) (datagram : Datagram)
    (peer : MacAddress) (interface : Interface) (now : Nat)
    (registered : registry.get? interface.name = some interface) :
    registry.OwnsAll (receive registry settings table datagram peer interface now).2 := by
  unfold receive
  split
  · dsimp only
    split
    · exact registry.ownsAll_of_quiet _ rfl
    · split
      · exact registry.ownsAll_of_quiet _ rfl
      · split
        · exact ownsAll_respond registry settings.ttl interface _ _ registered
        · split
          · exact registry.ownsAll_of_quiet _ rfl
          · exact registry.ownsAll_of_quiet _ (Hearing.transmissions_absorb _ _ _)
  · exact registry.ownsAll_of_quiet _ rfl

end Exchanging

end DistanceVector

/-! ### Received frames -/

namespace Router

section Receiving

variable (router : Router) (arrival : Arrival)
  (registered : router.registry.get? arrival.interface.name = some arrival.interface)

include registered

theorem ownsAll_report (problem : ControlMessage.Problem) (datagram : Datagram) :
    router.registry.OwnsAll (router.report problem datagram arrival) := by
  unfold report
  dsimp only
  split
  · rename_i frame built
    unfold ControlMessage.reportFrame? at built
    split at built
    · obtain ⟨octets, rfl⟩ := ControlMessage.ofDatagram_of_frame? _ _ _ _ _ _ _ built
      exact router.registry.ownsAll_transmit _ _
        (router.registry.owns_frame _ arrival.interface _ _ _ registered)
    · cases built
  · exact router.registry.ownsAll_of_quiet _ rfl

theorem ownsAll_echo (datagram : Datagram) (message : IcmpMessage) :
    router.registry.OwnsAll (router.echo datagram message arrival) := by
  unfold echo
  dsimp only
  split
  · split
    · rename_i frame built
      obtain ⟨request, -, framed⟩ := Option.bind_eq_some_iff.mp built
      obtain ⟨octets, rfl⟩ := ControlMessage.ofDatagram_of_frame? _ _ _ _ _ _ _ framed
      exact router.registry.ownsAll_transmit _ _
        (router.registry.owns_frame _ arrival.interface _ _ _ registered)
    · exact router.registry.ownsAll_of_quiet _ rfl
  · exact router.registry.ownsAll_of_quiet _ rfl

theorem ownsAll_deliver (datagram : Datagram) :
    router.registry.OwnsAll (router.deliver datagram arrival).2 := by
  unfold deliver
  split
  · exact router.ownsAll_report arrival registered _ datagram
  · split
    · exact router.ownsAll_echo arrival registered datagram _
    · split
      · unfold exchangeRoutes
        split
        · exact DistanceVector.ownsAll_receive router.registry _ _ _ _ _ _ registered
        · exact router.registry.ownsAll_of_quiet _ rfl
      · exact router.ownsAll_report arrival registered _ datagram
    · exact router.ownsAll_report arrival registered _ datagram

theorem ownsAll_route (frame : Octets) (datagram : Datagram)
    (whole : LinkHeader.size ≤ frame.length) (queued : router.neighbors.Whole) :
    router.registry.OwnsAll (router.route frame datagram arrival).2 := by
  unfold route
  dsimp only
  split
  · exact router.ownsAll_report arrival registered _ datagram
  · split
    · exact router.registry.ownsAll_of_quiet _ rfl
    · rename_i out found
      have outRegistered : router.registry.get? out.name = some out := by
        rwa [(Keyed.mem_of_find? _ _ _ _ found).2]
      exact Neighbor.ownsAll_moment router.registry router.settings.neighbors router.neighbors
        (.send frame _ out arrival.now) whole outRegistered queued

theorem ownsAll_handleDatagram (octets : Octets) (link : LinkHeader) (datagram : Datagram)
    (decoded : Frame.read octets = .ok ⟨link, .ipv4 datagram⟩)
    (queued : router.neighbors.Whole) :
    router.registry.OwnsAll (router.handleDatagram octets datagram arrival).2 := by
  unfold handleDatagram
  split
  · exact router.registry.ownsAll_of_quiet _ rfl
  · split
    · exact router.ownsAll_deliver arrival registered datagram
    · by_cases dead : datagram.ttl ≤ 1
      · rw [forward, if_pos dead]
        exact router.ownsAll_report arrival registered _ datagram
      · rw [forward_alive router octets link datagram arrival decoded (UInt8.not_le.mp dead)]
        have whole := (Frame.read_ipv4 _ _ _ decoded).1
        exact router.ownsAll_route arrival registered _ datagram (aged_frame octets _ whole).1
          queued

end Receiving

section Steps

variable (router : Router) (now : Nat)

theorem ownsAll_receive (octets : Octets) (interfaceName : String)
    (queued : router.neighbors.Whole) :
    router.registry.OwnsAll (router.receive octets interfaceName now).2 := by
  by_cases taken : ∃ interface frame, router.Accepts octets interfaceName interface frame
  · obtain ⟨interface, ⟨link, body⟩, accepted⟩ := taken
    have registered : router.registry.get? interface.name = some interface :=
      accepted.name_eq ▸ accepted.registered
    rw [receive_accepted router octets interfaceName now interface _ accepted]
    cases body with
    | arp packet =>
      show router.registry.OwnsAll (Neighbor.receive router.neighbors packet interface now).2
      unfold Neighbor.receive
      split
      · exact Neighbor.ownsAll_answer router.registry packet interface registered
      · split
        · exact Neighbor.ownsAll_moment router.registry router.settings.neighbors
            router.neighbors (.learn packet interface now) trivial registered queued
        · exact router.registry.ownsAll_of_quiet _ rfl
    | ipv4 datagram =>
      exact router.ownsAll_handleDatagram ⟨interface, link.source, now⟩ registered octets link
        datagram accepted.decoded queued
    | other etherType => exact router.registry.ownsAll_of_quiet _ rfl
  · refine router.registry.ownsAll_of_quiet _ (router.receive_refused octets interfaceName now ?_).2
    exact fun interface frame accepted => taken ⟨interface, frame, accepted⟩

/-- Only whole frames ever wait, because only whole frames are forwarded. -/
theorem whole_act (action : Action) (queued : router.neighbors.Whole) :
    (router.act now action).1.neighbors.Whole := by
  cases action with
  | ask | expire => exact queued
  | event event =>
    show (router.perform now event).1.neighbors.Whole
    rcases router.neighbors_perform now event with same | ⟨operation, whole, after⟩
    · rwa [same]
    · rw [after]
      exact Neighbor.whole_moment _ _ _ operation whole queued

/-- All that a router sends, by whatever it does, is its own. -/
theorem ownsAll_act (action : Action) (queued : router.neighbors.Whole) :
    router.registry.OwnsAll (router.act now action).2 := by
  cases action with
  | ask => exact DistanceVector.ownsAll_askEveryone router.registry _
  | expire => exact router.registry.ownsAll_of_quiet _ (Effect.transmissions_map_note _ _)
  | event event =>
    cases event with
    | prepare =>
      show router.registry.OwnsAll (router.prepare now).2
      unfold prepare
      split
      · exact DistanceVector.ownsAll_askEveryone router.registry _
      · exact router.registry.ownsAll_of_quiet _ rfl
    | receive octets interfaceName => exact router.ownsAll_receive now octets interfaceName queued
    | advertise =>
      show router.registry.OwnsAll (DistanceVector.beat router.registry router.settings.routing
        router.table now).2
      intro sent member
      rw [DistanceVector.transmissions_beat] at member
      exact DistanceVector.ownsAll_advertise router.registry _ _ sent member
    | sweep =>
      exact Neighbor.ownsAll_moment router.registry router.settings.neighbors router.neighbors
        (.sweep now) trivial trivial queued

end Steps

/-! ### Looped frames -/

/-- A frame of the router's own changes nothing where it was sent, and is answered by nothing. -/
theorem receive_own (router : Router) (sent : String × Octets)
    (owns : router.registry.Owns sent) (now : Nat) :
    (router.receive sent.2 sent.1 now).1 = router ∧
      Effect.transmissions (router.receive sent.2 sent.1 now).2 = [] := by
  obtain ⟨interface, registered, -, source⟩ := owns
  exact router.receive_of_drops sent.2 sent.1 now (.own interface registered source)

/-- Whatever a router lives through, every frame that it sends is its own; and handed back on the
interface that sent it, the frame is dropped in every state of the router. -/
theorem sent_loops_back (start : Router) (schedule : List (Nat × Action))
    (queued : start.neighbors.Whole) :
    ∀ sent ∈ Effect.transmissions (start.follow schedule).2,
      start.registry.Owns sent ∧
        ∀ router : Router, router.registry = start.registry → ∀ now,
          (router.receive sent.2 sent.1 now).1 = router ∧
            Effect.transmissions (router.receive sent.2 sent.1 now).2 = [] := by
  intro sent member
  have owns : start.registry.Owns sent := by
    refine start.follow_sends
      (fun router => router.registry = start.registry ∧ router.neighbors.Whole)
      start.registry.Owns (fun router now action holds => ?_) ⟨rfl, queued⟩ schedule sent member
    obtain ⟨same, queuedNow⟩ := holds
    refine ⟨⟨(router.act_keeps now action).1.trans same,
      router.whole_act now action queuedNow⟩, ?_⟩
    have ownsAll := router.ownsAll_act now action queuedNow
    rwa [same] at ownsAll
  refine ⟨owns, fun router same now => ?_⟩
  exact router.receive_own sent (same ▸ owns) now

/-! ### A request and a released frame -/

namespace Loopback

/-- The datagram comes in and waits, and its next hop answers. -/
def schedule : List (Nat × Action) :=
  [(3, .event (.receive Transit.frame "eth0")),
    (5, .event (.receive
      (Neighbor.replyFrame Stations.host Stations.outer.mac Stations.outer.address) "eth1"))]

end Loopback

/-- The request for the next hop and the datagram leave, and both would be dropped afterwards. -/
theorem sent_loops_back_released :
    Transit.router.neighbors.Whole ∧
      let router := (Transit.router.follow Loopback.schedule).1
      let sent := Effect.transmissions (Transit.router.follow Loopback.schedule).2
      sent.length = 2 ∧ ∀ looped ∈ sent, Transit.router.registry.Owns looped ∧
        (router.receive looped.2 looped.1 9).1 = router := by
  have queued : Transit.router.neighbors.Whole := Neighbor.Cache.whole_empty
  refine ⟨queued, by decide +kernel, fun looped member => ?_⟩
  obtain ⟨owns, dropped⟩ := sent_loops_back Transit.router Loopback.schedule queued looped member
  exact ⟨owns, (dropped _ (by decide +kernel) 9).1⟩

end Router

end Ipv4Router
