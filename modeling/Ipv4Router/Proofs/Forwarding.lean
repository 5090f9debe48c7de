/-
This file proves what the router does with a datagram for somebody else, from the
frame that brings it to the frame that takes it away. A datagram at the end of its
life and one without a route are reported to their source, with the header quoted as
it came. Any other leaves through the interface of its route, one less its time to
live, and towards the next hop: at once when the link address there is known, else
from the queue behind the request for it.
-/

import Ipv4Router.Proofs.Interface.History
import Ipv4Router.Proofs.Neighbor.Resolution
import Ipv4Router.Proofs.Reporting

namespace Ipv4Router

/-! ### Leaving for the next hop -/

namespace Neighbor

/-- What happens to the neighbour cache, and what is sent, when a frame leaves for the next hop
through an interface. `frameTo` is the frame with a given link destination; while that is not
known, the frame waits with the link destination zero. -/
structure Departure (before after : Cache) (nextHop : Ipv4Address) (out : Interface) (now : Nat)
    (frameTo : MacAddress → Octets) (sent : List (String × Octets)) : Prop where
  known : ∀ mac, before.lookup? nextHop = some mac →
    after = before ∧ sent = [(out.name, frameTo mac)]
  outstanding : ∀ request, before.lookup? nextHop = none →
    before.request? nextHop = some request →
    after.request? nextHop =
      some { request with waiting := request.waiting ++ [frameTo .zero] } ∧ sent = []
  unasked : before.lookup? nextHop = none → before.request? nextHop = none →
    after.request? nextHop = some ⟨nextHop, out.name, now, 1, [frameTo .zero]⟩ ∧
      sent = [(out.name, requestFrame out nextHop)]
  bindings_eq : after.bindings = before.bindings
  others : ∀ other, nextHop ≠ other → after.request? other = before.request? other

theorem send_departure (registry : Registry) (cache : Cache) (frame : Octets)
    (nextHop : Ipv4Address) (out : Interface) (now : Nat)
    (registered : registry.get? out.name = some out) (whole : LinkHeader.size ≤ frame.length) :
    Departure cache (send registry cache frame nextHop out now).1 nextHop out now
      (fun mac => LinkHeader.frame ⟨mac, out.mac, (LinkHeader.read frame).etherType⟩
        (frame.drop LinkHeader.size))
      (Effect.transmissions (send registry cache frame nextHop out now).2) := by
  simp only [← readdress_eq_frame frame out.mac _ whole]
  cases found : cache.lookup? nextHop with
  | some mac =>
    rw [send_known _ _ _ _ _ _ _ found]
    refine ⟨?_, ?_, ?_, rfl, fun _ _ => rfl⟩
    · intro known same
      cases found.symm.trans same
      exact ⟨rfl, rfl⟩
    · intro _ unknown
      cases found.symm.trans unknown
    · intro unknown
      cases found.symm.trans unknown
  | none =>
    obtain ⟨queued, sends, bindings, self, touches⟩ :=
      send_unknown registry cache frame nextHop out now found
    rw [sends]
    refine ⟨?_, ?_, ?_, bindings, touches⟩
    · intro mac known
      cases found.symm.trans known
    · intro request _ outstanding
      rw [queueFor, outstanding, Option.getD_some] at self
      exact ⟨self, by rw [outstanding]; rfl⟩
    · intro _ unasked
      rw [queueFor, unasked, Option.getD_none] at self
      refine ⟨self, ?_⟩
      simp only [unasked, Option.isNone_none, if_true, transmissions_ask, registered,
        Option.toList_some, List.map_cons, List.map_nil]

end Neighbor

/-! ### The frame that leaves -/

/-- Cutting off the padding and ageing the datagram keeps the kind of the frame, and what follows
the link header is the aged datagram. -/
theorem aged_frame (octets : Octets) (aged : Octets) (whole : LinkHeader.size ≤ octets.length) :
    LinkHeader.size ≤ (octets.take LinkHeader.size ++ aged).length ∧
      (LinkHeader.read (octets.take LinkHeader.size ++ aged)).etherType =
        (LinkHeader.read octets).etherType ∧
      (octets.take LinkHeader.size ++ aged).drop LinkHeader.size = aged := by
  have front : (octets.take LinkHeader.size).length = LinkHeader.size := by
    rw [List.length_take, min_eq_left whole]
  refine ⟨?_, ?_, List.drop_left' front⟩
  · rw [List.length_append, front]
    exact Nat.le_add_right _ _
  · have fits : 12 + 2 ≤ (octets.take LinkHeader.size).length := le_of_eq front.symm
    show UInt16.ofNat (Octets.toNat (Octets.field _ 12 2)) = UInt16.ofNat (Octets.toNat _)
    rw [Octets.field_append_left _ _ _ _ fits, Octets.field_take octets LinkHeader.size 12 2 le_rfl]

namespace Router

/-- Forwarding changes nothing but what is known of the neighbours. -/
theorem forward_keeps (router : Router) (octets : Octets) (datagram : Datagram)
    (arrival : Arrival) :
    ∃ neighbors, (router.forward octets datagram arrival).1 = { router with neighbors } := by
  unfold forward route
  split
  · exact ⟨_, rfl⟩
  · split
    · exact ⟨_, rfl⟩
    · dsimp only
      split
      · exact ⟨_, rfl⟩
      · split <;> exact ⟨_, rfl⟩

/-- A datagram with time left is aged, without the padding, and sent along its route. -/
theorem forward_alive (router : Router) (octets : Octets) (link : LinkHeader)
    (datagram : Datagram) (arrival : Arrival)
    (decoded : Frame.read octets = .ok ⟨link, .ipv4 datagram⟩) (alive : 1 < datagram.ttl) :
    router.forward octets datagram arrival =
      router.route (octets.take LinkHeader.size ++ datagram.withTtl (datagram.ttl - 1)) datagram
        arrival := by
  obtain ⟨-, -, -, parsed⟩ := Frame.read_ipv4 _ _ _ decoded
  have readFrom := Datagram.readFrom_of_read _ _ parsed
  rw [forward, if_neg (UInt8.not_le.mpr alive),
    Datagram.decrementTtl?_eq octets datagram readFrom alive]

/-- A sound datagram for another host, in a frame that the interface accepts, is forwarded. -/
theorem receive_eq_forward (router : Router) (octets : Octets) (name : String) (now : Nat)
    (interface : Interface) (link : LinkHeader) (datagram : Datagram)
    (registered : router.registry.get? name = some interface)
    (decoded : Frame.read octets = .ok ⟨link, .ipv4 datagram⟩)
    (foreign : link.source ≠ interface.mac)
    (addressed : link.destination = interface.mac ∨ link.destination.isGroup = true)
    (sound : datagram.checksumHolds = true)
    (notOwn : router.registry.isLocal datagram.destination = false)
    (notGroup : datagram.destination ≠ RipMessage.groupAddress) :
    router.receive octets name now =
      router.forward octets datagram ⟨interface, link.source, now⟩ := by
  have accepted : accepts interface link.destination = true := by
    rcases addressed with own | group
    · rw [accepts, own, beq_self_eq_true, Bool.true_or]
    · rw [accepts, group, Bool.or_true]
  have elsewhere : router.isAddressee datagram = false := by
    rw [isAddressee, notOwn, Bool.false_or]
    exact beq_eq_false_iff_ne.mpr notGroup
  simp only [receive, registered, decoded, handleFrame, if_neg foreign, accepted, handleDatagram,
    sound, elsewhere, Bool.not_true, Bool.false_eq_true, if_false]

/-- A frame sent along a route departs for the next hop on the interface of the route. -/
theorem route_departure (router : Router) (octets : Octets) (link : LinkHeader)
    (datagram : Datagram) (arrival : Arrival) (route : Route) (out : Interface)
    (aged : Octets) (decoded : Frame.read octets = .ok ⟨link, .ipv4 datagram⟩)
    (found : router.table.lookup? datagram.destination = some route)
    (registered : router.registry.get? route.interface = some out) :
    let outcome := router.route (octets.take LinkHeader.size ++ aged) datagram arrival
    Neighbor.Departure router.neighbors outcome.1.neighbors
      (if route.gateway = .unspecified then datagram.destination else route.gateway) out
      arrival.now (fun mac => LinkHeader.frame ⟨mac, out.mac, EtherType.ipv4⟩ aged)
      (Effect.transmissions outcome.2) := by
  obtain ⟨whole, linkIs, kind, -⟩ := Frame.read_ipv4 _ _ _ decoded
  obtain ⟨wholeAged, sameKind, rest⟩ := aged_frame octets aged whole
  have named : out.name = route.interface := (Keyed.mem_of_find? _ _ _ _ registered).2
  have departure := Neighbor.send_departure router.registry router.neighbors
    (octets.take LinkHeader.size ++ aged) (route.nextHop datagram.destination) out arrival.now
    (named ▸ registered) wholeAged
  have hop : route.nextHop datagram.destination =
      if route.gateway = .unspecified then datagram.destination else route.gateway := by
    simp only [Route.nextHop, Route.isAttached, beq_iff_eq]
  rw [sameKind, ← linkIs, kind, rest, hop] at departure
  simp only [Router.route, found, registered, Effect.transmissions_note, hop]
  exact departure

/-- What the router does with a sound datagram for another host. Its own state stays as it was,
but for the queue that the datagram may have to wait in; and of the ways to part with the
datagram exactly the one that its life, the route table and the neighbour cache leave is taken. -/
theorem receive_transit (router : Router) (octets : Octets) (name : String) (now : Nat)
    (interface : Interface) (link : LinkHeader) (datagram : Datagram)
    (registered : router.registry.get? name = some interface)
    (decoded : Frame.read octets = .ok ⟨link, .ipv4 datagram⟩)
    (foreign : link.source ≠ interface.mac)
    (addressed : link.destination = interface.mac ∨ link.destination.isGroup = true)
    (sound : datagram.checksumHolds = true)
    (notOwn : router.registry.isLocal datagram.destination = false)
    (notGroup : datagram.destination ≠ RipMessage.groupAddress) :
    let after := (router.receive octets name now).1
    let sent := Effect.transmissions (router.receive octets name now).2
    let destination := datagram.destination
    after.registry = router.registry ∧ after.settings = router.settings ∧
      after.table = router.table ∧
      (datagram.ttl ≤ 1 → after.neighbors = router.neighbors ∧
        router.SendsReport .timeExceeded datagram interface link.source sent) ∧
      (1 < datagram.ttl → router.table.lookup? destination = none →
        after.neighbors = router.neighbors ∧
        router.SendsReport .netUnreachable datagram interface link.source sent) ∧
      (1 < datagram.ttl → ∀ route, router.table.lookup? destination = some route →
        router.registry.get? route.interface = none →
        after.neighbors = router.neighbors ∧ sent = []) ∧
      (1 < datagram.ttl → ∀ route, router.table.lookup? destination = some route →
        ∀ out, router.registry.get? route.interface = some out →
        ∃ aged, datagram.Aged aged ∧
          Neighbor.Departure router.neighbors after.neighbors
            (if route.gateway = .unspecified then destination else route.gateway) out now
            (fun mac => LinkHeader.frame ⟨mac, out.mac, EtherType.ipv4⟩ aged) sent) := by
  obtain ⟨-, -, -, parsed⟩ := Frame.read_ipv4 _ _ _ decoded
  have readFrom := Datagram.readFrom_of_read _ _ parsed
  intro after sent destination
  let arrival : Arrival := ⟨interface, link.source, now⟩
  obtain ⟨neighbors, keeps⟩ := router.forward_keeps octets datagram arrival
  have forwards := receive_eq_forward router octets name now interface link datagram registered
    decoded foreign addressed sound notOwn notGroup
  have unchanged : after = { router with neighbors } := by rw [← keeps, ← forwards]
  refine ⟨by rw [unchanged], by rw [unchanged], by rw [unchanged], ?_, ?_, ?_, ?_⟩
  · intro expired
    have reports : router.receive octets name now =
        (router, router.report .timeExceeded datagram arrival) := by
      rw [forwards, forward, if_pos expired]
    have sentIs : sent = Effect.transmissions (router.report .timeExceeded datagram arrival) :=
      congrArg (fun outcome => Effect.transmissions outcome.2) reports
    rw [sentIs]
    exact ⟨congrArg (fun outcome => outcome.1.neighbors) reports, router.report_sends _ _ arrival⟩
  · intro alive unroutable
    have reports : router.receive octets name now = (router, .note (.noRoute destination) ::
        router.report .netUnreachable datagram arrival) := by
      rw [forwards, forward_alive router octets link datagram _ decoded alive]
      simp only [route, unroutable, destination, arrival]
    have sentIs : sent = Effect.transmissions (router.report .netUnreachable datagram arrival) :=
      congrArg (fun outcome => Effect.transmissions outcome.2) reports
    rw [sentIs]
    exact ⟨congrArg (fun outcome => outcome.1.neighbors) reports, router.report_sends _ _ arrival⟩
  · intro alive route found unregistered
    have drops : router.receive octets name now =
        (router, [.note (.routeWithoutInterface destination route.interface)]) := by
      rw [forwards, forward_alive router octets link datagram _ decoded alive]
      simp only [Router.route, found, unregistered, destination]
    exact ⟨congrArg (fun outcome => outcome.1.neighbors) drops,
      congrArg (fun outcome => Effect.transmissions outcome.2) drops⟩
  · intro alive route found out known
    refine ⟨_, Datagram.aged_withTtl _ _ readFrom alive, ?_⟩
    have departs := route_departure router octets link datagram arrival route out
      (datagram.withTtl (datagram.ttl - 1)) decoded found known
    rw [← forward_alive router octets link datagram _ decoded alive, ← forwards] at departs
    exact departs

/-! ### A datagram on its way -/

namespace Transit

/-- A router with a route to the subnet of each interface. -/
def router : Router where
  registry := Stations.registry
  settings := {}
  table := ⟨[.direct Stations.inner 0, .direct Stations.outer 0], by decide⟩

def link : LinkHeader := ⟨Stations.inner.mac, Stations.neighbor.mac, EtherType.ipv4⟩

/-- A datagram from 10.0.0.9 to 10.0.1.7 that may be forwarded once. -/
def datagram : Datagram where
  octets := [0x45, 0, 0, 20, 0, 0, 0, 0, 2, 0, 0xa3, 0xdb, 10, 0, 0, 9, 10, 0, 1, 7]
  payload := .other 0

/-- The frame of the datagram, with two octets of padding. -/
def frame : Octets := link.frame (datagram.octets ++ [0, 0])

end Transit

/-- Nobody asked for the neighbour yet, so the datagram waits and the neighbour is asked for. -/
theorem receive_transit_asks :
    Frame.read Transit.frame = .ok ⟨Transit.link, .ipv4 Transit.datagram⟩ ∧
      Transit.datagram.checksumHolds = true ∧ 1 < Transit.datagram.ttl ∧
      Effect.transmissions (Transit.router.receive Transit.frame "eth0" 7).2 =
        [("eth1", Neighbor.requestFrame Stations.outer (.ofParts 10 0 1 7))] := by
  have decoded : Frame.read Transit.frame = .ok ⟨Transit.link, .ipv4 Transit.datagram⟩ := rfl
  have sound : Transit.datagram.checksumHolds = true := by decide
  have alive : 1 < Transit.datagram.ttl := by decide
  obtain ⟨aged, -, departure⟩ := (receive_transit Transit.router Transit.frame "eth0" 7
    Stations.inner Transit.link Transit.datagram rfl decoded (by decide) (.inl rfl) sound
    (by decide) (by decide)).2.2.2.2.2.2 alive (.direct Stations.outer 0) (by decide) Stations.outer
    (by decide)
  exact ⟨decoded, sound, alive, (departure.unasked rfl rfl).2⟩

end Router

end Ipv4Router
