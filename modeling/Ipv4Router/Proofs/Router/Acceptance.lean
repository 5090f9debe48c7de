/-
This file says what a received frame comes to. An interface takes a frame in if it
comes from another station and is addressed to the interface or to a group. What is
taken in changes the router in one of three ways only: a neighbour's response is
absorbed by the route table, an answer teaches a link address, and a datagram for
another host is sent to its next hop. Everything else leaves the router as it was.
-/

import Ipv4Router.Proofs.Forwarding

namespace Ipv4Router.Router

/-! ### Taking in -/

/-- The interface of a name takes a frame in. -/
structure Accepts (router : Router) (octets : Octets) (interfaceName : String)
    (interface : Interface) (frame : Frame) : Prop where
  registered : router.registry.get? interfaceName = some interface
  decoded : Frame.read octets = .ok frame
  foreign : frame.link.source ≠ interface.mac
  addressed : frame.link.destination = interface.mac ∨ frame.link.destination.isGroup = true

theorem Accepts.name_eq {router : Router} {octets : Octets} {interfaceName : String}
    {interface : Interface} {frame : Frame}
    (accepted : router.Accepts octets interfaceName interface frame) :
    interface.name = interfaceName :=
  (Keyed.mem_of_find? _ _ _ _ accepted.registered).2

section TakingIn

variable (router : Router) (octets : Octets) (interfaceName : String) (now : Nat)

theorem accepts_iff (interface : Interface) (destination : MacAddress) :
    accepts interface destination = true ↔
      destination = interface.mac ∨ destination.isGroup = true := by
  rw [accepts, Bool.or_eq_true, beq_iff_eq]

/-- A frame that is taken in is handled by what it carries. -/
theorem receive_accepted (interface : Interface) (frame : Frame)
    (accepted : router.Accepts octets interfaceName interface frame) :
    router.receive octets interfaceName now =
      match frame.body with
      | .arp packet =>
        ({ router with
            neighbors := (Neighbor.receive router.neighbors packet interface now).1 },
          (Neighbor.receive router.neighbors packet interface now).2)
      | .ipv4 datagram => router.handleDatagram octets datagram ⟨interface, frame.link.source, now⟩
      | .other etherType => (router, [.note (.ignoredFrame etherType interface.name)]) := by
  have handled : router.receive octets interfaceName now =
      router.handleFrame octets frame interface now := by
    simp only [receive, accepted.registered, accepted.decoded]
  have notRefused : ¬ (!accepts interface frame.link.destination) = true := by
    rw [(accepts_iff interface _).mpr accepted.addressed]
    exact Bool.false_ne_true
  rw [handled, handleFrame]
  refine (if_neg accepted.foreign).trans ((if_neg notRefused).trans ?_)
  cases frame.body <;> rfl

/-- A datagram whose checksum does not hold is only noted. -/
theorem receive_of_spoilt (interface : Interface) (link : LinkHeader) (datagram : Datagram)
    (accepted : router.Accepts octets interfaceName interface ⟨link, .ipv4 datagram⟩)
    (spoilt : datagram.checksumHolds = false) :
    router.receive octets interfaceName now =
      (router, [.note (.badChecksum datagram.source)]) := by
  rw [receive_accepted router octets interfaceName now interface _ accepted]
  simp only [handleDatagram, spoilt, Bool.not_false, if_true]

/-- A sound datagram for the router itself is delivered. -/
theorem receive_eq_deliver (interface : Interface) (link : LinkHeader) (datagram : Datagram)
    (accepted : router.Accepts octets interfaceName interface ⟨link, .ipv4 datagram⟩)
    (sound : datagram.checksumHolds = true) (addressee : router.isAddressee datagram = true) :
    router.receive octets interfaceName now =
      router.deliver datagram ⟨interface, link.source, now⟩ := by
  rw [receive_accepted router octets interfaceName now interface _ accepted]
  simp only [handleDatagram, sound, addressee, Bool.not_true, Bool.false_eq_true, if_false,
    if_true]

/-- A sound datagram for another host is forwarded. -/
theorem receive_of_elsewhere (interface : Interface) (link : LinkHeader) (datagram : Datagram)
    (accepted : router.Accepts octets interfaceName interface ⟨link, .ipv4 datagram⟩)
    (sound : datagram.checksumHolds = true) (elsewhere : router.isAddressee datagram = false) :
    router.receive octets interfaceName now =
      router.forward octets datagram ⟨interface, link.source, now⟩ := by
  rw [receive_accepted router octets interfaceName now interface _ accepted]
  simp only [handleDatagram, sound, elsewhere, Bool.not_true, Bool.false_eq_true, if_false]

/-- A frame that is not taken in does nothing. -/
theorem receive_refused
    (refused : ∀ interface frame, ¬ router.Accepts octets interfaceName interface frame) :
    (router.receive octets interfaceName now).1 = router ∧
      Effect.transmissions (router.receive octets interfaceName now).2 = [] := by
  unfold receive
  split
  · exact ⟨rfl, rfl⟩
  · rename_i interface registered
    split
    · exact ⟨rfl, rfl⟩
    · rename_i frame decoded
      unfold handleFrame
      dsimp only
      split
      · exact ⟨rfl, rfl⟩
      · rename_i foreign
        split
        · exact ⟨rfl, rfl⟩
        · rename_i addressed
          rw [Bool.not_eq_true', Bool.not_eq_false, accepts_iff] at addressed
          exact absurd ⟨registered, decoded, foreign, addressed⟩ (refused interface frame)

end TakingIn

/-! ### Responses -/

/-- A response of the routing protocol, with all that it came in. -/
structure Response where
  interface : Interface
  link : LinkHeader
  datagram : Datagram
  segment : UdpSegment
  version : UInt8
  entries : List RipEntry

/-- Whom the response comes from, where, and when. -/
def Response.hearing (response : Response) (now : Nat) : DistanceVector.Hearing :=
  ⟨response.datagram.source, response.interface.name, now⟩

/-- A frame brings the router a response, and the exchange of routes takes it. -/
structure Hears (router : Router) (octets : Octets) (interfaceName : String)
    (response : Response) : Prop where
  accepted : router.Accepts octets interfaceName response.interface
    ⟨response.link, .ipv4 response.datagram⟩
  sound : response.datagram.checksumHolds = true
  addressee : router.isAddressee response.datagram = true
  alive : 1 < response.datagram.ttl
  enabled : router.settings.routingEnabled = true
  carried : response.datagram.payload = .udp response.segment
  toPort : response.segment.destinationPort = RipMessage.port
  fromPort : response.segment.sourcePort = RipMessage.port
  notOwn : router.registry.isLocal response.datagram.source = false
  understood : RipMessage.decode response.segment.body =
    .ok ⟨.response, response.version, response.entries⟩

section Responses

variable (router : Router) (octets : Octets) (interfaceName : String) (now : Nat)

/-- A datagram for the port of the protocol is handed to the exchange of routes. -/
theorem receive_eq_exchange (interface : Interface) (link : LinkHeader) (datagram : Datagram)
    (segment : UdpSegment)
    (accepted : router.Accepts octets interfaceName interface ⟨link, .ipv4 datagram⟩)
    (sound : datagram.checksumHolds = true) (addressee : router.isAddressee datagram = true)
    (alive : 1 < datagram.ttl) (carried : datagram.payload = .udp segment)
    (toPort : segment.destinationPort = RipMessage.port) :
    router.receive octets interfaceName now =
      router.exchangeRoutes datagram ⟨interface, link.source, now⟩ := by
  rw [receive_eq_deliver _ _ _ _ _ _ _ accepted sound addressee]
  simp only [deliver, if_neg (UInt8.not_le.mpr alive), carried, if_pos toPort]

theorem receive_eq_absorb (response : Response)
    (hears : router.Hears octets interfaceName response) :
    router.receive octets interfaceName now =
      ({ router with
          table := ((response.hearing now).absorb router.table response.entries).1 },
        ((response.hearing now).absorb router.table response.entries).2.2) := by
  rw [receive_eq_exchange _ _ _ _ _ _ _ _ hears.accepted hears.sound hears.addressee hears.alive
    hears.carried hears.toPort]
  simp only [exchangeRoutes, hears.enabled, DistanceVector.receive, hears.carried, hears.toPort,
    hears.notOwn, hears.understood, hears.fromPort, ne_eq, not_true_eq_false, decide_false,
    Bool.false_eq_true, Bool.or_self, if_false, if_true]
  rfl

/-- A response is absorbed by the route table. -/
theorem receive_of_hears (response : Response)
    (hears : router.Hears octets interfaceName response) :
    (router.receive octets interfaceName now).1 =
      { router with
        table := ((response.hearing now).absorb router.table response.entries).1 } :=
  congrArg Prod.fst (receive_eq_absorb router octets interfaceName now response hears)

/-- The exchange of routes changes the table by a response only. -/
theorem exchange_cases (registry : Registry) (settings : DistanceVector.Settings)
    (table : RouteTable) (datagram : Datagram) (peer : MacAddress) (interface : Interface) :
    (DistanceVector.receive registry settings table datagram peer interface now).1 = table ∨
      ∃ segment version entries, datagram.payload = .udp segment ∧
        segment.destinationPort = RipMessage.port ∧ segment.sourcePort = RipMessage.port ∧
        registry.isLocal datagram.source = false ∧
        RipMessage.decode segment.body = .ok ⟨.response, version, entries⟩ := by
  unfold DistanceVector.receive
  split
  · rename_i segment carried
    dsimp only
    split
    · exact Or.inl rfl
    · rename_i expected
      rw [Bool.or_eq_true, decide_eq_true_eq, not_or, ne_eq, not_not,
        Bool.not_eq_true] at expected
      split
      · exact Or.inl rfl
      · rename_i message understood
        split
        · exact Or.inl rfl
        · rename_i isResponse
          split
          · exact Or.inl rfl
          · rename_i fromPort
            obtain ⟨command, version, entries⟩ := message
            obtain rfl : command = .response := isResponse
            exact Or.inr ⟨segment, version, entries, carried, expected.1, not_not.mp fromPort,
              expected.2, understood⟩
  · exact Or.inl rfl

/-- What is delivered changes the router only if it is a response that is exchanged. -/
theorem deliver_cases (interface : Interface) (link : LinkHeader) (datagram : Datagram)
    (accepted : router.Accepts octets interfaceName interface ⟨link, .ipv4 datagram⟩)
    (sound : datagram.checksumHolds = true) (addressee : router.isAddressee datagram = true) :
    (router.deliver datagram ⟨interface, link.source, now⟩).1 = router ∨
      ∃ response, router.Hears octets interfaceName response := by
  unfold deliver
  split
  · exact Or.inl rfl
  · rename_i aged
    split
    · exact Or.inl rfl
    · split
      · unfold exchangeRoutes
        split
        · rename_i enabled
          rcases exchange_cases now router.registry router.settings.routing router.table datagram
            link.source interface with same | ⟨segment, version, entries, carried, toPort,
              fromPort, notOwn, understood⟩
          · exact Or.inl (congrArg (fun table => { router with table }) same)
          · exact Or.inr ⟨⟨interface, link, datagram, segment, version, entries⟩, accepted, sound,
              addressee, UInt8.not_le.mp aged, enabled, carried, toPort, fromPort, notOwn,
              understood⟩
        · exact Or.inl rfl
      · exact Or.inl rfl
    · exact Or.inl rfl

end Responses

/-! ### Answers -/

/-- A frame brings the router an answer that it learns from. -/
structure Learns (router : Router) (octets : Octets) (interfaceName : String)
    (interface : Interface) (packet : ArpPacket) : Prop where
  accepted : ∃ link, router.Accepts octets interfaceName interface ⟨link, .arp packet⟩
  isReply : packet.operation = ArpPacket.reply
  heard : packet.targetAddress = interface.address

section Answers

variable (router : Router) (octets : Octets) (interfaceName : String) (now : Nat)
  (interface : Interface) (packet : ArpPacket)

theorem receive_of_learns (learns : router.Learns octets interfaceName interface packet) :
    router.receive octets interfaceName now =
      ({ router with neighbors := (Neighbor.learnReply router.neighbors packet interface now).1 },
        (Neighbor.learnReply router.neighbors packet interface now).2) := by
  obtain ⟨link, accepted⟩ := learns.accepted
  have notRequest : packet.operation ≠ ArpPacket.request := by
    rw [learns.isReply]
    decide
  rw [receive_accepted _ _ _ _ _ _ accepted]
  simp only [Neighbor.receive, if_neg notRequest, if_pos learns.isReply]

/-- An address resolution packet changes what is known of the neighbours only if it is an answer
to the interface. -/
theorem neighbors_receive_cases (link : LinkHeader)
    (accepted : router.Accepts octets interfaceName interface ⟨link, .arp packet⟩) :
    (Neighbor.receive router.neighbors packet interface now).1 = router.neighbors ∨
      router.Learns octets interfaceName interface packet := by
  unfold Neighbor.receive
  split
  · exact Or.inl rfl
  · split
    · rename_i isReply
      by_cases heard : packet.targetAddress = interface.address
      · exact Or.inr ⟨⟨link, accepted⟩, isReply, heard⟩
      · refine Or.inl ?_
        rw [Neighbor.learnReply, if_neg heard]
    · exact Or.inl rfl

end Answers

/-! ### Datagrams for others -/

/-- A datagram for another host, how it came, and the route that it takes. -/
structure Passage where
  interface : Interface
  link : LinkHeader
  datagram : Datagram
  route : Route
  out : Interface

namespace Passage

/-- The station that the datagram is sent to. -/
def nextHop (passage : Passage) : Ipv4Address :=
  passage.route.nextHop passage.datagram.destination

/-- The octets of the datagram with one less time to live. -/
def aged (passage : Passage) : Octets := passage.datagram.withTtl (passage.datagram.ttl - 1)

/-- The frame in which the datagram leaves the interface of its route, to a station. -/
def frame (passage : Passage) (source destination : MacAddress) : Octets :=
  LinkHeader.frame ⟨destination, source, EtherType.ipv4⟩ passage.aged

end Passage

/-- A frame brings the router a datagram for another host that has time left and a route. -/
structure Forwards (router : Router) (octets : Octets) (interfaceName : String)
    (passage : Passage) : Prop where
  accepted : router.Accepts octets interfaceName passage.interface
    ⟨passage.link, .ipv4 passage.datagram⟩
  sound : passage.datagram.checksumHolds = true
  elsewhere : router.isAddressee passage.datagram = false
  alive : 1 < passage.datagram.ttl
  routed : router.table.lookup? passage.datagram.destination = some passage.route
  known : router.registry.get? passage.route.interface = some passage.out

theorem Forwards.out_registered {router : Router} {octets : Octets} {interfaceName : String}
    {passage : Passage} (forwards : router.Forwards octets interfaceName passage) :
    router.registry.get? passage.out.name = some passage.out := by
  have named : passage.out.name = passage.route.interface :=
    (Keyed.mem_of_find? _ _ _ _ forwards.known).2
  rw [named, forwards.known]

section Transits

variable (router : Router) (octets : Octets) (interfaceName : String) (now : Nat)

/-- The datagram is aged and sent along its route, in a frame of the kind that it came in. -/
theorem receive_eq_route (passage : Passage)
    (forwards : router.Forwards octets interfaceName passage) :
    router.receive octets interfaceName now =
      router.route (octets.take LinkHeader.size ++ passage.aged) passage.datagram
        ⟨passage.interface, passage.link.source, now⟩ := by
  rw [receive_of_elsewhere _ _ _ _ _ _ _ forwards.accepted forwards.sound forwards.elsewhere,
    forward_alive router octets _ _ _ forwards.accepted.decoded forwards.alive]
  rfl

/-- Only what is known of the neighbours changes, as in sending to the next hop. -/
theorem receive_of_forwards (passage : Passage)
    (forwards : router.Forwards octets interfaceName passage) :
    (router.receive octets interfaceName now).1 =
      { router with
        neighbors := (Neighbor.send router.registry router.neighbors
          (octets.take LinkHeader.size ++ passage.aged) passage.nextHop passage.out now).1 } := by
  rw [receive_eq_route router octets interfaceName now passage forwards]
  simp only [route, forwards.routed, forwards.known]
  rfl

/-- The datagram departs for its next hop, out of the interface of its route. -/
theorem departure_of_forwards (passage : Passage)
    (forwards : router.Forwards octets interfaceName passage) :
    Neighbor.Departure router.neighbors (router.receive octets interfaceName now).1.neighbors
      passage.nextHop passage.out now (passage.frame passage.out.mac)
      (Effect.transmissions (router.receive octets interfaceName now).2) := by
  have departs := route_departure router octets passage.link passage.datagram
    ⟨passage.interface, passage.link.source, now⟩ passage.route passage.out passage.aged
    forwards.accepted.decoded forwards.routed forwards.known
  have hop : passage.nextHop = if passage.route.gateway = .unspecified then
      passage.datagram.destination else passage.route.gateway := by
    simp only [Passage.nextHop, Route.nextHop, Route.isAttached, beq_iff_eq]
  rw [receive_eq_route router octets interfaceName now passage forwards, hop]
  exact departs

/-- What departs is the datagram as it was received, but for its age. -/
theorem aged_of_forwards (passage : Passage)
    (forwards : router.Forwards octets interfaceName passage) :
    passage.datagram.Aged passage.aged := by
  obtain ⟨-, -, -, parsed⟩ := Frame.read_ipv4 _ _ _ forwards.accepted.decoded
  exact Datagram.aged_withTtl _ _ (Datagram.readFrom_of_read _ _ parsed) forwards.alive

theorem forward_cases (interface : Interface) (link : LinkHeader) (datagram : Datagram)
    (accepted : router.Accepts octets interfaceName interface ⟨link, .ipv4 datagram⟩)
    (sound : datagram.checksumHolds = true) (elsewhere : router.isAddressee datagram = false) :
    (router.forward octets datagram ⟨interface, link.source, now⟩).1 = router ∨
      ∃ passage, router.Forwards octets interfaceName passage := by
  unfold forward
  split
  · exact Or.inl rfl
  · rename_i alive
    split
    · exact Or.inl rfl
    · unfold route
      dsimp only
      split
      · exact Or.inl rfl
      · rename_i route routed
        split
        · exact Or.inl rfl
        · rename_i out known
          exact Or.inr ⟨⟨interface, link, datagram, route, out⟩, accepted, sound, elsewhere,
            UInt8.not_le.mp alive, routed, known⟩

end Transits

/-! ### All frames -/

/-- What a received frame does to the router. -/
inductive Outcome (router : Router) (octets : Octets) (interfaceName : String) (now : Nat) : Prop
  | unchanged (same : (router.receive octets interfaceName now).1 = router)
  | heard (response : Response) (hears : router.Hears octets interfaceName response)
  | learned (interface : Interface) (packet : ArpPacket)
    (learns : router.Learns octets interfaceName interface packet)
  | forwarded (passage : Passage) (forwards : router.Forwards octets interfaceName passage)

section Outcomes

variable (router : Router) (octets : Octets) (interfaceName : String) (now : Nat)

theorem outcome_of_packet (interface : Interface) (link : LinkHeader) (packet : ArpPacket)
    (accepted : router.Accepts octets interfaceName interface ⟨link, .arp packet⟩) :
    router.Outcome octets interfaceName now := by
  rcases neighbors_receive_cases router octets interfaceName now interface packet link
    accepted with same | learns
  · refine .unchanged ?_
    rw [receive_accepted router octets interfaceName now interface _ accepted]
    exact congrArg (fun neighbors => { router with neighbors }) same
  · exact .learned interface packet learns

theorem outcome_of_datagram (interface : Interface) (link : LinkHeader) (datagram : Datagram)
    (accepted : router.Accepts octets interfaceName interface ⟨link, .ipv4 datagram⟩) :
    router.Outcome octets interfaceName now := by
  cases sound : datagram.checksumHolds with
  | false =>
    exact .unchanged (congrArg Prod.fst (receive_of_spoilt router octets interfaceName now
      interface link datagram accepted sound))
  | true =>
    cases addressee : router.isAddressee datagram with
    | true =>
      have delivered := receive_eq_deliver router octets interfaceName now interface link datagram
        accepted sound addressee
      rcases deliver_cases router octets interfaceName now interface link datagram accepted
        sound addressee with same | ⟨response, hears⟩
      · exact .unchanged (by rw [delivered, same])
      · exact .heard response hears
    | false =>
      have forwarded := receive_of_elsewhere router octets interfaceName now interface link datagram
        accepted sound addressee
      rcases forward_cases router octets interfaceName now interface link datagram accepted
        sound addressee with same | ⟨passage, forwards⟩
      · exact .unchanged (by rw [forwarded, same])
      · exact .forwarded passage forwards

/-- Every received frame does one of the four things. -/
theorem receive_outcome : router.Outcome octets interfaceName now := by
  by_cases taken : ∃ interface frame, router.Accepts octets interfaceName interface frame
  · obtain ⟨interface, ⟨link, body⟩, accepted⟩ := taken
    cases body with
    | arp packet => exact outcome_of_packet _ _ _ _ interface link packet accepted
    | ipv4 datagram => exact outcome_of_datagram _ _ _ _ interface link datagram accepted
    | other etherType =>
      refine .unchanged ?_
      rw [receive_accepted router octets interfaceName now interface _ accepted]
  · refine .unchanged (receive_refused router octets interfaceName now ?_).1
    exact fun interface frame accepted => taken ⟨interface, frame, accepted⟩

end Outcomes

end Ipv4Router.Router
