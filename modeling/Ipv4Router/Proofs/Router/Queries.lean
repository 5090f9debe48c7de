/-
This file says what neighbours are told of the route table. Every beat tells all routers on
each link the routes that do not lead back to the link, and a request for the whole table is
answered with the same entries. A request for some destinations is answered entry by entry,
each with the cost of exactly that route or with infinity. No answer changes the router.
-/

import Ipv4Router.Proofs.DistanceVector.Advertising
import Ipv4Router.Proofs.Router.Acceptance

namespace Ipv4Router.Router

/-! ### Requests -/

/-- A request of the routing protocol, with all that it came in. -/
structure Query where
  interface : Interface
  link : LinkHeader
  datagram : Datagram
  segment : UdpSegment
  version : UInt8
  entries : List RipEntry

namespace Query

/-- Whom the answer goes to: the station that sent the request, at the port that it was sent
from. -/
def requester (query : Query) : DistanceVector.Recipient :=
  ⟨query.datagram.source, query.link.source, query.segment.sourcePort⟩

def message (query : Query) : RipMessage := ⟨.request, query.version, query.entries⟩

/-- The request is for the whole table. -/
def IsForAll (query : Query) : Prop :=
  query.entries = [] ∨ ∃ entry, query.entries = [entry] ∧ entry.family = 0 ∧ entry.metric = 16

theorem asksWholeTable_iff (query : Query) :
    query.message.asksWholeTable = true ↔ query.IsForAll := by
  obtain ⟨-, -, -, -, version, entries⟩ := query
  unfold IsForAll
  match entries with
  | [] => exact iff_of_true rfl (Or.inl rfl)
  | [entry] =>
    show (entry.family == 0 && entry.metric == RipEntry.infinity) = true ↔ _
    rw [Bool.and_eq_true, beq_iff_eq, beq_iff_eq]
    constructor
    · exact fun forAll => Or.inr ⟨entry, rfl, forAll⟩
    · rintro (none | ⟨_, same, forAll⟩)
      · cases none
      · obtain ⟨rfl, -⟩ := List.cons_eq_cons.mp same
        exact forAll
  | first :: second :: rest =>
    refine iff_of_false Bool.false_ne_true ?_
    rintro (none | ⟨_, same, -⟩)
    · cases none
    · cases same

end Query

/-- A frame brings the router a request, and the exchange of routes takes it. -/
structure Asks (router : Router) (octets : Octets) (interfaceName : String) (query : Query) :
    Prop where
  accepted : router.Accepts octets interfaceName query.interface
    ⟨query.link, .ipv4 query.datagram⟩
  sound : query.datagram.checksumHolds = true
  addressee : router.isAddressee query.datagram = true
  alive : 1 < query.datagram.ttl
  enabled : router.settings.routingEnabled = true
  carried : query.datagram.payload = .udp query.segment
  toPort : query.segment.destinationPort = RipMessage.port
  notOwn : router.registry.isLocal query.datagram.source = false
  understood : RipMessage.decode query.segment.body =
    .ok ⟨.request, query.version, query.entries⟩

section Answering

variable (router : Router) (octets : Octets) (interfaceName : String) (query : Query) (now : Nat)

/-- A request is answered, and changes nothing. -/
theorem receive_of_asks (asks : router.Asks octets interfaceName query) :
    router.receive octets interfaceName now =
      (router, DistanceVector.answer router.settings.routing.ttl router.table query.interface
        query.requester query.message) := by
  rw [receive_eq_exchange _ _ _ _ _ _ _ _ asks.accepted asks.sound asks.addressee asks.alive
    asks.carried asks.toPort]
  simp only [exchangeRoutes, asks.enabled, DistanceVector.receive, asks.carried, asks.toPort,
    asks.notOwn, asks.understood, ne_eq, not_true_eq_false, decide_false, Bool.false_eq_true,
    Bool.or_self, if_false, if_true]
  rfl

/-- The requester is told the entries that answer the request, on the interface where it came
in. -/
theorem tells_of_asks (asks : router.Asks octets interfaceName query) :
    ∃ blocks frames,
      Effect.transmissions (router.receive octets interfaceName now).2 =
          frames.map (fun frame => (query.interface.name, frame)) ∧
        DistanceVector.Tells router.settings.routing.ttl query.interface query.requester
          (DistanceVector.answerEntries router.table query.interface query.message) blocks
          frames := by
  rw [receive_of_asks router octets interfaceName query now asks, DistanceVector.answer,
    Effect.transmissions_note, DistanceVector.transmissions_respond]
  exact ⟨_, _, rfl, DistanceVector.tells_responses _ _ _ _⟩

end Answering

/-! ### The whole table -/

/-- A beat tells everyone on each link, one interface after the other, the routes that are not stale
and do not lead through that interface, each once and in the order of the table. Who asks for the
whole of the same table is told the same entries. -/
theorem whole_table_told (router : Router) (now : Nat) :
    let left := (router.table.expire now router.settings.routing.timeout).1
    let told := fun interface : Interface =>
      (left.routes.filter fun route => route.interface != interface.name).map fun route =>
        (⟨2, 0, route.destination, route.mask, interface.address, route.cost⟩ : RipEntry)
    (router.advertise now).1 = { router with table := left } ∧
      (∃ frames : Interface → List Octets,
        Effect.transmissions (router.advertise now).2 =
            (router.registry.interfaces.flatMap fun interface =>
              (frames interface).map fun frame => (interface.name, frame)) ∧
          ∀ interface ∈ router.registry.interfaces, ∃ blocks,
            DistanceVector.Tells router.settings.routing.ttl interface
              ⟨.ofParts 224 0 0 9, .ofOctets [0x01, 0x00, 0x5e, 0x00, 0x00, 0x09], 520⟩
              (told interface) blocks (frames interface)) ∧
      ∀ (asked : Router) (octets : Octets) (interfaceName : String) (query : Query) (later : Nat),
        asked.table = left → asked.Asks octets interfaceName query → query.IsForAll →
          (asked.receive octets interfaceName later).1 = asked ∧ ∃ blocks frames,
            Effect.transmissions (asked.receive octets interfaceName later).2 =
                frames.map (fun frame => (query.interface.name, frame)) ∧
              DistanceVector.Tells asked.settings.routing.ttl query.interface query.requester
                (told query.interface) blocks frames := by
  intro left told
  obtain ⟨frames, sent, tells⟩ :=
    DistanceVector.tells_advertise router.settings.routing.ttl router.registry left
  refine ⟨rfl, ⟨frames, ?_, fun interface _ => tells interface⟩,
    fun asked octets interfaceName query later sameTable asks forAll => ⟨?_, ?_⟩⟩
  · exact (DistanceVector.transmissions_beat _ _ _ _).trans sent
  · rw [receive_of_asks asked octets interfaceName query later asks]
  · have answerIs : DistanceVector.answerEntries asked.table query.interface query.message =
        told query.interface := by
      rw [DistanceVector.answerEntries, if_pos (query.asksWholeTable_iff.mpr forAll), sameTable]
      rfl
    have answered := tells_of_asks asked octets interfaceName query later asks
    rwa [answerIs] at answered

namespace Inquiry

def link : LinkHeader := ⟨Stations.outer.mac, Stations.host.mac, EtherType.ipv4⟩

/-- A request from a port of its own. -/
def segment (entries : List RipEntry) : UdpSegment where
  sourcePort := 5200
  destinationPort := 520
  length := UInt16.ofNat (12 + 20 * entries.length)
  checksum := 0
  body := RipMessage.encode ⟨.request, 1, entries⟩

/-- The request travels from a host to the outer interface of the router. -/
def datagram (entries : List RipEntry) : Datagram where
  octets := (Datagram.encode? Stations.host.address Stations.outer.address UdpSegment.protocol 64
    (segment entries).octets).getD []
  payload := .udp (segment entries)

def query (entries : List RipEntry) : Query :=
  ⟨Stations.outer, link, datagram entries, segment entries, 1, entries⟩

def frame (entries : List RipEntry) : Octets := link.frame (datagram entries).octets

def requester : DistanceVector.Recipient :=
  ⟨Stations.host.address, Stations.host.mac, 5200⟩

/-- The router takes the request, and sees whom it comes from. -/
theorem asks (entries : List RipEntry)
    (room : Ipv4Header.size + (segment entries).octets.length < 65536) :
    Transit.router.Asks (frame entries) "eth1" (query entries) ∧
      (query entries).requester = requester := by
  have built : Datagram.encode? Stations.host.address Stations.outer.address UdpSegment.protocol 64
      (segment entries).octets = some (datagram entries).octets := by
    rw [datagram, Datagram.encode?_eq_some _ _ _ _ _ room, Option.getD_some]
  have encloses := Datagram.encloses_of_encode? _ _ _ _ _ _ built
  have parsed := encloses.read _ (Datagram.readPayload_udp (segment entries))
  have sourceIs : (datagram entries).source = Stations.host.address := encloses.source_eq
  have destinationIs : (datagram entries).destination = Stations.outer.address :=
    encloses.destination_eq
  have lifeIs : (datagram entries).ttl = 64 := encloses.ttl_eq
  have registered : Transit.router.registry.get? "eth1" = some Stations.outer := by decide
  have foreign : link.source ≠ Stations.outer.mac := by decide
  have versioned : (1 : UInt8) ≠ 0 := by decide
  constructor
  · exact
      { accepted := ⟨registered, Frame.read_ofDatagram _ _ _ _ parsed, foreign, Or.inl rfl⟩
        sound := beq_iff_eq.mpr encloses.sound
        addressee := by
          show Transit.router.isAddressee (datagram entries) = true
          rw [isAddressee, destinationIs]
          decide
        alive := by
          show 1 < (datagram entries).ttl
          rw [lifeIs]
          decide
        enabled := rfl
        carried := rfl
        toPort := rfl
        notOwn := by
          show Transit.router.registry.isLocal (datagram entries).source = false
          rw [sourceIs]
          decide
        understood := RipMessage.decode_encode _ versioned }
  · show (⟨(datagram entries).source, link.source, 5200⟩ : DistanceVector.Recipient) = _
    rw [sourceIs]
    rfl

end Inquiry

/-- Who asks on the outer link is told the way to the inner subnet, as all on that link are. -/
theorem whole_table_told_outer :
    let query := Inquiry.query []
    let told : List RipEntry :=
      [⟨2, 0, .ofParts 10 0 0 0, .ofParts 255 255 255 0, .ofParts 10 0 1 1, 0⟩]
    let answered := Transit.router.receive (Inquiry.frame []) "eth1" 8
    Transit.router.Asks (Inquiry.frame []) "eth1" query ∧ query.IsForAll ∧
      (Transit.router.advertise 7).1.table = Transit.router.table ∧ answered.1 = Transit.router ∧
      ∃ blocks frames,
        Effect.transmissions answered.2 = frames.map (fun frame => ("eth1", frame)) ∧
          DistanceVector.Tells 16 Stations.outer Inquiry.requester told blocks frames := by
  intro query told answered
  obtain ⟨asks, requester⟩ := Inquiry.asks [] (by decide)
  have forAll : query.IsForAll := Or.inl rfl
  have sameTable : Transit.router.table = (Transit.router.table.expire 7 30000).1 := by decide
  obtain ⟨-, -, whoAsks⟩ := whole_table_told Transit.router 7
  obtain ⟨unchanged, blocks, frames, sent, tells⟩ :=
    whoAsks Transit.router (Inquiry.frame []) "eth1" query 8 sameTable asks forAll
  refine ⟨asks, forAll, by decide, unchanged, blocks, frames, sent, ?_⟩
  rw [requester] at tells
  exact tells

/-! ### Some destinations -/

/-- A request that is not for the whole table is answered entry by entry. However many destinations
it asks for, the requester alone is told, for each in turn, the cost of the route of exactly this
destination and mask, or infinity if the table has none. -/
theorem destinations_answered (router : Router) (octets : Octets) (interfaceName : String)
    (query : Query) (now : Nat) (asks : router.Asks octets interfaceName query)
    (specific : ¬ query.IsForAll) :
    query.entries ≠ [] ∧ (router.receive octets interfaceName now).1 = router ∧
      ∃ blocks frames,
        Effect.transmissions (router.receive octets interfaceName now).2 =
            frames.map (fun frame => (query.interface.name, frame)) ∧
          DistanceVector.Tells router.settings.routing.ttl query.interface query.requester
            (query.entries.map fun asked =>
              ⟨2, 0, asked.address, asked.mask, query.interface.address,
                (router.table.find? asked.address asked.mask).elim 16 Route.cost⟩)
            blocks frames := by
  refine ⟨fun none => specific (Or.inl none), ?_, ?_⟩
  · rw [receive_of_asks router octets interfaceName query now asks]
  · have costs (asked : RipEntry) :
        DistanceVector.answerEntry router.table query.interface asked =
          ⟨2, 0, asked.address, asked.mask, query.interface.address,
            (router.table.find? asked.address asked.mask).elim 16 Route.cost⟩ := by
      unfold DistanceVector.answerEntry
      cases router.table.find? asked.address asked.mask <;> rfl
    have answerIs : DistanceVector.answerEntries router.table query.interface query.message =
        query.entries.map fun asked =>
          ⟨2, 0, asked.address, asked.mask, query.interface.address,
            (router.table.find? asked.address asked.mask).elim 16 Route.cost⟩ := by
      rw [DistanceVector.answerEntries, if_neg (mt query.asksWholeTable_iff.mp specific)]
      exact List.map_congr_left fun asked _ => costs asked
    have tells := tells_of_asks router octets interfaceName query now asks
    rwa [answerIs] at tells

/-- The subnet is known, but not as a route to one of its hosts. -/
theorem destinations_answered_two :
    let known : RipEntry :=
      ⟨2, 0, .ofParts 10 0 0 0, .ofParts 255 255 255 0, .unspecified, 16⟩
    let unknown : RipEntry :=
      ⟨0, 7, .ofParts 10 0 0 5, .ofParts 255 255 255 255, .ofParts 10 0 1 9, 3⟩
    let query := Inquiry.query [known, unknown]
    let answered := Transit.router.receive (Inquiry.frame [known, unknown]) "eth1" 8
    Transit.router.Asks (Inquiry.frame [known, unknown]) "eth1" query ∧ ¬ query.IsForAll ∧
      answered.1 = Transit.router ∧
      ∃ blocks frames,
        Effect.transmissions answered.2 = frames.map (fun frame => ("eth1", frame)) ∧
          DistanceVector.Tells 16 Stations.outer Inquiry.requester
            [⟨2, 0, .ofParts 10 0 0 0, .ofParts 255 255 255 0, .ofParts 10 0 1 1, 0⟩,
              ⟨2, 0, .ofParts 10 0 0 5, .ofParts 255 255 255 255, .ofParts 10 0 1 1, 16⟩]
            blocks frames := by
  intro known unknown query answered
  obtain ⟨asks, requester⟩ := Inquiry.asks [known, unknown] (by decide)
  have specific : ¬ query.IsForAll := by
    rintro (none | ⟨_, single, -⟩)
    · cases none
    · cases single
  obtain ⟨-, unchanged, blocks, frames, sent, tells⟩ := destinations_answered Transit.router
    (Inquiry.frame [known, unknown]) "eth1" query 8 asks specific
  refine ⟨asks, specific, unchanged, blocks, frames, sent, ?_⟩
  have entries : (query.entries.map fun asked =>
      (⟨2, 0, asked.address, asked.mask, query.interface.address,
        (Transit.router.table.find? asked.address asked.mask).elim 16 Route.cost⟩ : RipEntry)) =
      [⟨2, 0, .ofParts 10 0 0 0, .ofParts 255 255 255 0, .ofParts 10 0 1 1, 0⟩,
        ⟨2, 0, .ofParts 10 0 0 5, .ofParts 255 255 255 255, .ofParts 10 0 1 1, 16⟩] := by
    decide +kernel
  rw [requester, entries] at tells
  exact tells

end Ipv4Router.Router
