/-
This file shows how far forwarding depends on what a datagram carries. A frame is
decoded down to the first header of its protocol before anything is known of its way.
So a datagram for another host that has a sound header, time left and a route is
sent on if its payload can be read, and is dropped if the payload is too short for
its protocol, although nothing of the payload is needed to send it on.
-/

import Ipv4Router.Proofs.Router.Acceptance
import Ipv4Router.Proofs.Wire.Grammar

namespace Ipv4Router

/-- A frame that departs is sent, or waits, or is asked about; it never leaves no trace. -/
theorem Neighbor.not_departure_unchanged (cache : Cache) (nextHop : Ipv4Address)
    (out : Interface) (now : Nat) (frameTo : MacAddress → Octets) :
    ¬ Departure cache cache nextHop out now frameTo [] := by
  intro departure
  cases known : cache.lookup? nextHop with
  | some mac => cases (departure.known mac known).2
  | none =>
    cases outstanding : cache.request? nextHop with
    | some request =>
      have longer := (departure.outstanding request known outstanding).1
      rw [outstanding, Option.some_inj] at longer
      have waiting := congrArg (fun request => request.waiting.length) longer
      simp only [List.length_append, List.length_singleton] at waiting
      omega
    | none => cases (departure.unasked known outstanding).2

namespace Router

/-- A frame brings the router a datagram for another host, with a sound header, time left, and a
route. Nothing is said of the payload. -/
structure Transits (router : Router) (octets : Octets) (interfaceName : String)
    (interface : Interface) (route : Route) (out : Interface) : Prop where
  registered : router.registry.get? interfaceName = some interface
  framed : LinkHeader.size ≤ octets.length
  isIpv4 : (LinkHeader.read octets).etherType = EtherType.ipv4
  foreign : (LinkHeader.read octets).source ≠ interface.mac
  addressed : (LinkHeader.read octets).destination = interface.mac ∨
    (LinkHeader.read octets).destination.isGroup = true
  wellFormed : Ipv4Header.WellFormed (octets.drop LinkHeader.size)
  sound : Ipv4Header.computedChecksum (octets.drop LinkHeader.size) =
    Ipv4Header.checksum (octets.drop LinkHeader.size)
  notOwn : router.registry.isLocal (Ipv4Header.destination (octets.drop LinkHeader.size)) = false
  notGroup : Ipv4Header.destination (octets.drop LinkHeader.size) ≠ RipMessage.groupAddress
  alive : 1 < Ipv4Header.ttl (octets.drop LinkHeader.size)
  routed : router.table.lookup? (Ipv4Header.destination (octets.drop LinkHeader.size)) = some route
  known : router.registry.get? route.interface = some out

/-- The datagram of the frame, one less its time to live, is sent to its next hop out of an
interface or waits for the link address there. -/
def SendsOn (router : Router) (octets : Octets) (interfaceName : String) (now : Nat)
    (route : Route) (out : Interface) : Prop :=
  let packet := octets.drop LinkHeader.size
  ∃ datagram : Datagram, ∃ aged,
    datagram.octets = packet.take (Ipv4Header.totalLength packet) ∧ datagram.Aged aged ∧
    Neighbor.Departure router.neighbors (router.receive octets interfaceName now).1.neighbors
      (route.nextHop (Ipv4Header.destination packet)) out now
      (fun mac => LinkHeader.frame ⟨mac, out.mac, EtherType.ipv4⟩ aged)
      (Effect.transmissions (router.receive octets interfaceName now).2)

section Payloads

variable (router : Router) (octets : Octets) (interfaceName : String) (now : Nat)
  (interface : Interface) (route : Route) (out : Interface)

theorem sendsOn_of_read (payload : Payload)
    (transits : router.Transits octets interfaceName interface route out)
    (parsed : Datagram.read (octets.drop LinkHeader.size) =
      .ok ⟨(octets.drop LinkHeader.size).take
        (Ipv4Header.totalLength (octets.drop LinkHeader.size)), payload⟩) :
    router.SendsOn octets interfaceName now route out := by
  have wellFormed := transits.wellFormed
  let datagram : Datagram := ⟨(octets.drop LinkHeader.size).take
    (Ipv4Header.totalLength (octets.drop LinkHeader.size)), payload⟩
  have destination : datagram.destination =
      Ipv4Header.destination (octets.drop LinkHeader.size) := wellFormed.destination_take
  obtain ⟨computed, stored⟩ := wellFormed.checksum_take
  have forwards : router.Forwards octets interfaceName
      ⟨interface, LinkHeader.read octets, datagram, route, out⟩ := {
    accepted := {
      registered := transits.registered
      decoded := by
        rw [Frame.read_of_ipv4 octets transits.framed transits.isIpv4, parsed, Except.map]
      foreign := transits.foreign
      addressed := transits.addressed }
    sound := by
      show (Ipv4Header.computedChecksum datagram.octets == Ipv4Header.checksum datagram.octets) =
        true
      rw [computed, stored, transits.sound, beq_self_eq_true]
    elsewhere := by
      show router.isAddressee datagram = false
      rw [isAddressee, destination, transits.notOwn, Bool.false_or]
      exact beq_eq_false_iff_ne.mpr transits.notGroup
    alive := by
      show 1 < Ipv4Header.ttl datagram.octets
      rw [wellFormed.ttl_take]
      exact transits.alive
    routed := by
      show router.table.lookup? datagram.destination = some route
      exact destination ▸ transits.routed
    known := transits.known }
  have departure := departure_of_forwards router octets interfaceName now _ forwards
  have hop : route.nextHop datagram.destination =
      route.nextHop (Ipv4Header.destination (octets.drop LinkHeader.size)) := by rw [destination]
  refine ⟨datagram, datagram.withTtl (datagram.ttl - 1), rfl,
    aged_of_forwards router octets interfaceName _ forwards, ?_⟩
  rw [← hop]
  exact departure

theorem receive_of_unread (malformed : Malformed)
    (transits : router.Transits octets interfaceName interface route out)
    (unread : Datagram.read (octets.drop LinkHeader.size) = .error malformed) :
    router.receive octets interfaceName now =
      (router, [.note (.malformedFrame interfaceName malformed)]) := by
  simp only [receive, transits.registered,
    Frame.read_of_ipv4 octets transits.framed transits.isIpv4, unread, Except.map]

/-- What is only noted is not sent on. -/
theorem not_sendsOn_of_noted (notice : Notice)
    (noted : router.receive octets interfaceName now = (router, [.note notice])) :
    ¬ router.SendsOn octets interfaceName now route out := by
  rintro ⟨_, _, -, -, departure⟩
  rw [noted] at departure
  exact Neighbor.not_departure_unchanged _ _ _ _ _ departure

/-- A datagram on its way is sent on exactly if its payload is long enough for its protocol;
else the frame is dropped with a notice, and nothing else happens. -/
theorem transit_payload_iff (transits : router.Transits octets interfaceName interface route out) :
    let packet := octets.drop LinkHeader.size
    let payloadLength := Ipv4Header.totalLength packet - Ipv4Header.length packet
    (router.SendsOn octets interfaceName now route out ↔
      Datagram.leastPayload (Ipv4Header.protocol packet) ≤ payloadLength) ∧
    (payloadLength < Datagram.leastPayload (Ipv4Header.protocol packet) →
      ∃ part, router.receive octets interfaceName now =
        (router, [.note (.malformedFrame interfaceName (.truncated part))])) := by
  intro packet payloadLength
  rcases Datagram.read_cases packet transits.wellFormed with
    ⟨enough, payload, parsed⟩ | ⟨short, part, unread⟩
  · have sends := sendsOn_of_read router octets interfaceName now interface route out payload
      transits parsed
    exact ⟨⟨fun _ => enough, fun _ => sends⟩, fun short => absurd enough (Nat.not_le.mpr short)⟩
  · have dropped := receive_of_unread router octets interfaceName now interface route out _
      transits unread
    have unsent := router.not_sendsOn_of_noted octets interfaceName now route out _ dropped
    exact ⟨⟨fun sends => absurd sends unsent, fun enough => absurd enough (Nat.not_le.mpr short)⟩,
      fun _ => ⟨part, dropped⟩⟩

end Payloads

/-! ### The last fragment of a segment -/

namespace Fragment

/-- The last octets of a TCP segment on their way from 10.0.0.9 to 10.0.1.7. -/
def packet (body : Octets) : Octets :=
  Ipv4Header.withChecksum ([0x45, 0] ++ Octets.ofWord16 (UInt16.ofNat (20 + body.length)) ++
    [0, 0, 0, 0xb9, 2, 6, 0, 0, 10, 0, 0, 9, 10, 0, 1, 7] ++ body)

def frame (body : Octets) : Octets := Transit.link.frame (packet body)

/-- A fragment of twenty octets. -/
def long : Octets := frame (List.replicate 20 1)

/-- A fragment of eight octets. -/
def short : Octets := frame (List.replicate 8 1)

theorem transits_long :
    Transit.router.Transits long "eth0" Stations.inner (.direct Stations.outer 0)
      Stations.outer := by
  refine ⟨?_, ?_, ?_, ?_, ?_, ⟨?_, ?_, ?_, ?_⟩, ?_, ?_, ?_, ?_, ?_, ?_⟩ <;> decide +kernel

theorem transits_short :
    Transit.router.Transits short "eth0" Stations.inner (.direct Stations.outer 0)
      Stations.outer := by
  refine ⟨?_, ?_, ?_, ?_, ?_, ⟨?_, ?_, ?_, ?_⟩, ?_, ?_, ?_, ?_, ?_, ?_⟩ <;> decide +kernel

end Fragment

/-- A fragment that is as long as a TCP header is sent on. -/
theorem transit_payload_long :
    Transit.router.Transits Fragment.long "eth0" Stations.inner (.direct Stations.outer 0)
        Stations.outer ∧
      Transit.router.SendsOn Fragment.long "eth0" 7 (.direct Stations.outer 0) Stations.outer :=
  ⟨Fragment.transits_long, (transit_payload_iff Transit.router Fragment.long "eth0" 7 Stations.inner
    (.direct Stations.outer 0) Stations.outer Fragment.transits_long).1.mpr (by decide +kernel)⟩

/-- A shorter one is dropped, although its header is no worse. -/
theorem not_transit_payload_short :
    Transit.router.Transits Fragment.short "eth0" Stations.inner (.direct Stations.outer 0)
        Stations.outer ∧
      ¬ Transit.router.SendsOn Fragment.short "eth0" 7 (.direct Stations.outer 0)
        Stations.outer := by
  have noted : Transit.router.receive Fragment.short "eth0" 7 =
      (Transit.router, [.note (.malformedFrame "eth0" (.truncated .tcp))]) := by decide +kernel
  exact ⟨Fragment.transits_short, Transit.router.not_sendsOn_of_noted _ _ _ _ _ _ noted⟩

end Router

end Ipv4Router
