/-
This file shows that error reports never breed. A received frame makes the router report
one error at most, back on the interface and to the host that the frame came from, and only
if it is a datagram between two single hosts that reports no error itself. Wherever the
report travels and whatever happens to its link addresses and its time to live on the way,
it stays a report of an error to everyone who receives it; so no router reports an error
about it.
-/

import Ipv4Router.Proofs.Router.Delivery

namespace Ipv4Router

/-! ### The type of a control message -/

namespace Frame

/-- Where the header of the datagram in a frame ends, as its first octet says. -/
def bodyStart (octets : Octets) : Nat :=
  LinkHeader.size + Ipv4Header.length (octets.drop LinkHeader.size)

section Reading

variable (octets : Octets) (link : LinkHeader) (datagram : Datagram)
  (decoded : Frame.read octets = .ok ⟨link, .ipv4 datagram⟩)

include decoded

/-- The octets of the datagram stand in the frame behind the link header. -/
theorem octetAt_of_read (index : Nat) (inside : index < datagram.octets.length) :
    Octets.octetAt datagram.octets index = Octets.octetAt octets (LinkHeader.size + index) := by
  obtain ⟨-, -, -, parsed⟩ := Frame.read_ipv4 _ _ _ decoded
  rw [(Datagram.readFrom_of_read _ _ parsed).front, Octets.octetAt_take _ _ _ inside,
    Octets.octetAt_drop]

theorem bodyStart_of_read :
    bodyStart octets = LinkHeader.size + Ipv4Header.length datagram.octets := by
  obtain ⟨-, -, -, parsed⟩ := Frame.read_ipv4 _ _ _ decoded
  have readFrom := Datagram.readFrom_of_read _ _ parsed
  rw [bodyStart, readFrom.front, Ipv4Header.length_take _ _
    (Nat.lt_of_lt_of_le (by decide) readFrom.size_le)]

/-- The type of a control message is the first octet behind the header of its datagram. -/
theorem kind_of_read (message : IcmpMessage) (carried : datagram.payload = .icmp message) :
    Octets.octetAt octets 23 = IcmpMessage.protocol ∧ 34 ≤ bodyStart octets ∧
      bodyStart octets < octets.length ∧
      message.kind = Octets.octetAt octets (bodyStart octets) := by
  obtain ⟨-, -, -, parsed⟩ := Frame.read_ipv4 _ _ _ decoded
  have readFrom := Datagram.readFrom_of_read _ _ parsed
  have classified := Datagram.readPayload_of_read _ _ parsed
  rw [carried] at classified
  obtain ⟨isIcmp, readIs⟩ := Datagram.read?_of_readPayload _ _ message classified
  have size : Ipv4Header.size ≤ datagram.octets.length := readFrom.size_le
  have header : Ipv4Header.size ≤ Ipv4Header.length datagram.octets := readFrom.header_whole
  unfold Ipv4Header.size at size header
  obtain ⟨long, kind⟩ : IcmpMessage.headerSize ≤ datagram.body.length ∧
      message.kind = Octets.octetAt datagram.body 0 := by
    unfold IcmpMessage.read? at readIs
    split at readIs
    · cases readIs
    · rename_i long
      cases readIs
      exact ⟨Nat.not_lt.mp long, rfl⟩
  have start := bodyStart_of_read octets link datagram decoded
  have inside : Ipv4Header.length datagram.octets < datagram.octets.length := by
    rw [Datagram.body, List.length_drop] at long
    unfold IcmpMessage.headerSize at long
    omega
  have present : LinkHeader.size + datagram.octets.length ≤ octets.length := by
    have total := congrArg List.length readFrom.front
    rw [List.length_take, List.length_drop] at total
    unfold LinkHeader.size at total ⊢
    omega
  refine ⟨?_, ?_, ?_, ?_⟩
  · rw [← isIcmp]
    exact (octetAt_of_read octets link datagram decoded 9 (by omega)).symm
  · rw [start]
    unfold LinkHeader.size
    omega
  · rw [start]
    omega
  · rw [kind, start, Datagram.body, Octets.octetAt_drop, Nat.add_zero]
    exact octetAt_of_read octets link datagram decoded _ inside

end Reading

/-- A frame as it may arrive after others passed it on. It may have other link addresses, another
time to live with another checksum for it, and padding. -/
def Travelled (sent arrived : Octets) : Prop :=
  ∀ index, 12 ≤ index → index < sent.length → index ≠ 22 → index ≠ 24 → index ≠ 25 →
    arrived[index]? = sent[index]?

theorem travelled_readdress (octets : Octets) (source destination : MacAddress)
    (whole : LinkHeader.size ≤ octets.length) :
    Travelled octets (readdress octets source destination) := by
  intro index behind _ _ _ _
  have stations : (destination.octets ++ source.octets).length = 12 := by
    rw [List.length_append, MacAddress.length_octets, MacAddress.length_octets]
  rw [readdress_of_whole _ _ _ whole, List.getElem?_append_right (by omega), stations,
    List.getElem?_drop, Nat.add_sub_cancel' behind]

/-- Wherever a control message is received, it has the type with which it was sent. -/
theorem kind_of_travelled (sent arrived : Octets) (travelled : Travelled sent arrived)
    (link arrivedLink : LinkHeader) (datagram arrivedDatagram : Datagram) (message : IcmpMessage)
    (decoded : Frame.read sent = .ok ⟨link, .ipv4 datagram⟩)
    (carried : datagram.payload = .icmp message)
    (arrivedDecoded : Frame.read arrived = .ok ⟨arrivedLink, .ipv4 arrivedDatagram⟩) :
    ∃ same, arrivedDatagram.payload = .icmp same ∧ same.kind = message.kind := by
  obtain ⟨isIcmp, late, inside, kind⟩ := kind_of_read sent link datagram decoded message carried
  have kept (index : Nat) (behind : 12 ≤ index) (within : index < sent.length)
      (notTtl : index ≠ 22) (notHigh : index ≠ 24) (notLow : index ≠ 25) :
      Octets.octetAt arrived index = Octets.octetAt sent index :=
    Octets.octetAt_congr _ _ _ (travelled index behind within notTtl notHigh notLow)
  have protocol : Octets.octetAt arrived 23 = IcmpMessage.protocol :=
    (kept 23 (by decide) (by omega) (by decide) (by decide) (by decide)).trans isIcmp
  have start : bodyStart arrived = bodyStart sent := by
    have first := kept 14 (by decide) (by omega) (by decide) (by decide) (by decide)
    rw [bodyStart, bodyStart, Ipv4Header.length, Ipv4Header.length, Octets.octetAt_drop,
      Octets.octetAt_drop]
    exact congrArg (fun octet : UInt8 => LinkHeader.size + 4 * (octet.toNat % 16)) first
  obtain ⟨-, -, -, parsed⟩ := Frame.read_ipv4 _ _ _ arrivedDecoded
  have readFrom := Datagram.readFrom_of_read _ _ parsed
  have size : 20 ≤ arrivedDatagram.octets.length := readFrom.size_le
  have classified := Datagram.readPayload_of_read _ _ parsed
  have arrivedProtocol : Ipv4Header.protocol arrivedDatagram.octets = IcmpMessage.protocol :=
    (octetAt_of_read arrived arrivedLink arrivedDatagram arrivedDecoded 9 (by omega)).trans protocol
  rw [arrivedProtocol, Datagram.readPayload, if_pos rfl] at classified
  cases readIs : IcmpMessage.read? arrivedDatagram.body with
  | none =>
    rw [readIs] at classified
    cases classified
  | some same =>
    rw [readIs] at classified
    have arrivedCarried := (Except.ok.inj classified).symm
    obtain ⟨-, -, -, arrivedKind⟩ := kind_of_read arrived arrivedLink arrivedDatagram
      arrivedDecoded same arrivedCarried
    refine ⟨same, arrivedCarried, ?_⟩
    rw [arrivedKind, kind, start]
    exact kept _ (by omega) inside (by omega) (by omega) (by omega)

end Frame

/-! ### Control messages in frames -/

namespace ControlMessage

theorem bears_unique (frame : Octets) (first second : IcmpMessage) (bearsFirst : Bears frame first)
    (bearsSecond : Bears frame second) : first = second := by
  obtain ⟨_, _, decoded, carried⟩ := bearsFirst
  obtain ⟨_, _, decodedToo, carriedToo⟩ := bearsSecond
  cases decoded.symm.trans decodedToo
  exact Payload.icmp.inj (carried.symm.trans carriedToo)

theorem bears_of_carries (frame : Octets) (interface : Interface) (peer : MacAddress)
    (source destination : Ipv4Address) (ttl : UInt8) (message : IcmpMessage)
    (carries : Carries frame interface peer source destination ttl message) :
    Bears frame message := by
  obtain ⟨datagram, decoded, -, -, -, -, carried⟩ := carries
  exact ⟨_, datagram, decoded, carried⟩

/-- Address resolution is no control message. -/
theorem not_bears_packetFrame (linkDestination : MacAddress) (packet : ArpPacket)
    (message : IcmpMessage) : ¬ Bears (Neighbor.packetFrame linkDestination packet) message := by
  rintro ⟨link, datagram, decoded, -⟩
  obtain ⟨-, linkIs, kind, -⟩ := Frame.read_ipv4 _ _ _ decoded
  rw [linkIs, Neighbor.packetFrame, LinkHeader.read_frame] at kind
  have different : EtherType.arp ≠ EtherType.ipv4 := by decide
  exact different kind

end ControlMessage

/-! ### What a received frame makes the router send -/

namespace Router

/-- A frame that the router only passes on: the one that it received, on the way to the next hop,
or one that waited for the link address that the received one brings. -/
inductive PassesOn (router : Router) (octets : Octets) (interfaceName : String) :
    String × Octets → Prop
  | forwarded (passage : Passage) (forwards : router.Forwards octets interfaceName passage)
    (mac : MacAddress) :
    PassesOn router octets interfaceName
      (passage.out.name, passage.frame passage.out.mac mac)
  | released (interface : Interface) (packet : ArpPacket)
    (learns : router.Learns octets interfaceName interface packet) (frame : Octets)
    (waited : frame ∈ router.neighbors.queue packet.senderAddress) :
    PassesOn router octets interfaceName
      (interface.name, readdress frame interface.mac packet.senderMac)

/-- The router sends an error report of its own about a received frame. -/
structure OriginatesError (router : Router) (octets : Octets) (interfaceName : String) (now : Nat)
    (sent : String × Octets) : Prop where
  transmitted : sent ∈ Effect.transmissions (router.receive octets interfaceName now).2
  isError : ∃ message, ControlMessage.Bears sent.2 message ∧ message.isError = true
  own : ¬ router.PassesOn octets interfaceName sent

/-- What a received frame makes the router send: no error at all, the report of a problem with the
datagram in it, or what the router passes on. -/
inductive Reaction (router : Router) (octets : Octets) (interfaceName : String)
    (sent : List (String × Octets)) : Prop
  | harmless (noError : ∀ each ∈ sent, ∀ message, ControlMessage.Bears each.2 message →
      message.isError = false)
  | reported (problem : ControlMessage.Problem) (interface : Interface) (link : LinkHeader)
    (datagram : Datagram)
    (accepted : router.Accepts octets interfaceName interface ⟨link, .ipv4 datagram⟩)
    (reports : router.SendsReport problem datagram interface link.source sent)
  | passed (passes : ∀ each ∈ sent, router.PassesOn octets interfaceName each)

section Reacting

variable (router : Router) (octets : Octets) (interfaceName : String) (now : Nat)

theorem reaction_of_nothing : router.Reaction octets interfaceName [] :=
  .passed fun _ none => absurd none List.not_mem_nil

/-- Address resolution is answered by address resolution, or releases what waited for it. -/
theorem reaction_of_packet (interface : Interface) (link : LinkHeader) (packet : ArpPacket)
    (accepted : router.Accepts octets interfaceName interface ⟨link, .arp packet⟩) :
    router.Reaction octets interfaceName
      (Effect.transmissions (router.receive octets interfaceName now).2) := by
  rw [receive_accepted router octets interfaceName now interface _ accepted]
  show router.Reaction octets interfaceName
    (Effect.transmissions (Neighbor.receive router.neighbors packet interface now).2)
  unfold Neighbor.receive
  split
  · unfold Neighbor.answer
    split
    · refine .harmless fun each member message bears => ?_
      obtain rfl := List.mem_singleton.mp member
      exact absurd bears (ControlMessage.not_bears_packetFrame _ _ message)
    · exact router.reaction_of_nothing octets interfaceName
  · split
    · rename_i isReply
      by_cases heard : packet.targetAddress = interface.address
      · refine .passed fun each member => ?_
        rw [Neighbor.learnReply_heard _ _ _ _ heard, Effect.transmissions_note] at member
        cases found : router.neighbors.request? packet.senderAddress with
        | none =>
          rw [found] at member
          cases member
        | some request =>
          rw [found] at member
          change each ∈ Effect.transmissions (request.waiting.map fun frame =>
            .transmit interface.name (readdress frame interface.mac packet.senderMac)) at member
          rw [Effect.transmissions_map_transmit] at member
          obtain ⟨frame, waited, rfl⟩ := List.mem_map.mp member
          rw [← Neighbor.queue_of_request? _ _ _ found] at waited
          exact .released interface packet ⟨⟨link, accepted⟩, isReply, heard⟩ frame waited
      · rw [Neighbor.learnReply, if_neg heard]
        exact router.reaction_of_nothing octets interfaceName
    · exact router.reaction_of_nothing octets interfaceName

section Datagrams

variable (interface : Interface) (link : LinkHeader) (datagram : Datagram)
  (accepted : router.Accepts octets interfaceName interface ⟨link, .ipv4 datagram⟩)
  (sound : datagram.checksumHolds = true)

include accepted sound

/-- What is delivered is echoed, answered by the routing protocol, or reported. -/
theorem reaction_of_delivery (addressee : router.isAddressee datagram = true) :
    router.Reaction octets interfaceName
      (Effect.transmissions (router.receive octets interfaceName now).2) := by
  obtain ⟨-, -, -, parsed⟩ := Frame.read_ipv4 _ _ _ accepted.decoded
  have delivery := router.delivery_deliver datagram ⟨interface, link.source, now⟩ _ parsed
  rw [← receive_eq_deliver router octets interfaceName now interface link datagram accepted sound
    addressee] at delivery
  by_cases dead : datagram.ttl ≤ 1
  · exact .reported .timeExceeded interface link datagram accepted (delivery.expired dead).2
  · have alive := UInt8.not_le.mp dead
    by_cases isControl : ∃ message, datagram.payload = .icmp message
    · obtain ⟨message, carried⟩ := isControl
      have echoes := (delivery.control alive message carried).2
      unfold SendsEcho at echoes
      split at echoes
      · obtain ⟨frame, sends, echo, carries, kind, -⟩ := echoes
        rw [sends]
        refine .harmless fun each member other bears => ?_
        obtain rfl := List.mem_singleton.mp member
        obtain rfl := ControlMessage.bears_unique frame _ _ bears
          (ControlMessage.bears_of_carries _ _ _ _ _ _ _ carries)
        rw [other.isError_eq_false, kind]
        decide
      · rw [echoes]
        exact router.reaction_of_nothing octets interfaceName
    · by_cases isExchange : ∃ segment, datagram.payload = .udp segment ∧
          segment.destinationPort = RipMessage.port
      · obtain ⟨segment, carried, toPort⟩ := isExchange
        refine .harmless fun each member message bears => absurd bears ?_
        exact ((delivery.exchanged alive segment carried toPort).1 each member).2.2 message
      · exact .reported .portUnreachable interface link datagram accepted
          (delivery.undeliverable alive (fun message carried => isControl ⟨message, carried⟩)
            fun segment carried toPort => isExchange ⟨segment, carried, toPort⟩).2

/-- What is for another host is reported, passed on, or kept until its next hop answers. -/
theorem reaction_of_forwarding (elsewhere : router.isAddressee datagram = false) :
    router.Reaction octets interfaceName
      (Effect.transmissions (router.receive octets interfaceName now).2) := by
  have forwards := receive_of_elsewhere router octets interfaceName now interface link datagram
    accepted sound elsewhere
  by_cases dead : datagram.ttl ≤ 1
  · rw [forwards, forward, if_pos dead]
    exact .reported .timeExceeded interface link datagram accepted
      (router.report_sends _ datagram ⟨interface, link.source, now⟩)
  · have alive := UInt8.not_le.mp dead
    have routes := forwards.trans
      (forward_alive router octets link datagram _ accepted.decoded alive)
    cases routed : router.table.lookup? datagram.destination with
    | none =>
      rw [routes, route]
      simp only [routed, Effect.transmissions_note]
      exact .reported .netUnreachable interface link datagram accepted
        (router.report_sends _ datagram ⟨interface, link.source, now⟩)
    | some route =>
      cases known : router.registry.get? route.interface with
      | none =>
        rw [routes, Router.route]
        simp only [routed, known]
        exact router.reaction_of_nothing octets interfaceName
      | some out =>
        let passage : Passage := ⟨interface, link, datagram, route, out⟩
        have passes : router.Forwards octets interfaceName passage :=
          ⟨accepted, sound, elsewhere, alive, routed, known⟩
        have departure := departure_of_forwards router octets interfaceName now passage passes
        cases binding : router.neighbors.lookup? passage.nextHop with
        | some mac =>
          rw [(departure.known mac binding).2]
          refine .passed fun each member => ?_
          obtain rfl := List.mem_singleton.mp member
          exact .forwarded passage passes mac
        | none =>
          cases outstanding : router.neighbors.request? passage.nextHop with
          | some request =>
            rw [(departure.outstanding request binding outstanding).2]
            exact router.reaction_of_nothing octets interfaceName
          | none =>
            rw [(departure.unasked binding outstanding).2]
            refine .harmless fun each member message bears => ?_
            obtain rfl := List.mem_singleton.mp member
            exact absurd bears (ControlMessage.not_bears_packetFrame _ _ message)

end Datagrams

/-- Every received frame makes the router react in one of the three ways. -/
theorem reaction_receive :
    router.Reaction octets interfaceName
      (Effect.transmissions (router.receive octets interfaceName now).2) := by
  by_cases taken : ∃ interface frame, router.Accepts octets interfaceName interface frame
  · obtain ⟨interface, ⟨link, body⟩, accepted⟩ := taken
    cases body with
    | arp packet =>
      exact router.reaction_of_packet octets interfaceName now interface link packet accepted
    | ipv4 datagram =>
      cases sound : datagram.checksumHolds with
      | false =>
        rw [receive_of_spoilt router octets interfaceName now interface link datagram accepted
          sound]
        exact router.reaction_of_nothing octets interfaceName
      | true =>
        cases addressee : router.isAddressee datagram with
        | true =>
          exact router.reaction_of_delivery octets interfaceName now interface link datagram
            accepted sound addressee
        | false =>
          exact router.reaction_of_forwarding octets interfaceName now interface link datagram
            accepted sound addressee
    | other etherType =>
      rw [receive_accepted router octets interfaceName now interface _ accepted]
      exact router.reaction_of_nothing octets interfaceName
  · rw [(router.receive_refused octets interfaceName now fun interface frame accepted =>
      taken ⟨interface, frame, accepted⟩).2]
    exact router.reaction_of_nothing octets interfaceName

end Reacting

/-! ### Reports of errors -/

/-- Every report of a problem with a datagram that is not forwarded is an error that the router
sends on its own account. -/
theorem originatesError_of_report (router : Router) (octets : Octets) (interfaceName : String)
    (now : Nat) (problem : ControlMessage.Problem) (interface : Interface) (link : LinkHeader)
    (datagram : Datagram) (frame : Octets)
    (accepted : router.Accepts octets interfaceName interface ⟨link, .ipv4 datagram⟩)
    (stays : ∀ passage, ¬ router.Forwards octets interfaceName passage)
    (sends : Effect.transmissions (router.receive octets interfaceName now).2 =
      [(interface.name, frame)])
    (isReport : ControlMessage.IsReport router.settings.controlTtl problem datagram interface
      link.source frame) :
    router.OriginatesError octets interfaceName now (interface.name, frame) := by
  obtain ⟨message, carries, kind, -⟩ := isReport
  have isError : message.isError = true := by
    rw [IcmpMessage.isError, kind]
    cases problem <;> decide
  refine ⟨by rw [sends]; exact List.mem_singleton_self _,
    ⟨message, ControlMessage.bears_of_carries _ _ _ _ _ _ _ carries, isError⟩, fun passes => ?_⟩
  generalize (interface.name, frame) = sent at passes
  cases passes with
  | forwarded passage forwards mac => exact stays passage forwards
  | released other packet learns waiting waited =>
    obtain ⟨otherLink, otherAccepted⟩ := learns.accepted
    cases accepted.decoded.symm.trans otherAccepted.decoded

section Reports

variable {router : Router} {octets : Octets} {interfaceName : String} {now : Nat}
  {sent : String × Octets} (originates : router.OriginatesError octets interfaceName now sent)

include originates

/-- An error that the router sends on its own account is the report of a problem with the datagram
that it received, and all that it sends. -/
theorem OriginatesError.report :
    ∃ problem interface link datagram,
      router.Accepts octets interfaceName interface ⟨link, .ipv4 datagram⟩ ∧
      ControlMessage.isReportable datagram = true ∧
      Effect.transmissions (router.receive octets interfaceName now).2 = [sent] ∧
      sent.1 = interface.name ∧ ControlMessage.IsReport router.settings.controlTtl problem datagram
        interface link.source sent.2 := by
  obtain ⟨transmitted, ⟨message, bears, isError⟩, own⟩ := originates
  cases router.reaction_receive octets interfaceName now with
  | harmless noError => cases isError.symm.trans (noError sent transmitted message bears)
  | reported problem interface link datagram accepted reports =>
    unfold SendsReport at reports
    split at reports
    · rename_i reportable
      obtain ⟨frame, sends, isReport⟩ := reports
      rw [sends] at transmitted
      obtain rfl := List.mem_singleton.mp transmitted
      exact ⟨problem, interface, link, datagram, accepted, reportable, sends, rfl, isReport⟩
    · rw [reports] at transmitted
      cases transmitted
  | passed passes => exact absurd (passes sent transmitted) own

/-- Wherever the report of an error is received, it is one that may not be reported about. -/
theorem OriginatesError.not_originates_of_travelled (arrived : Octets)
    (travelled : Frame.Travelled sent.2 arrived) (other : Router) (name : String) (later : Nat)
    (answer : String × Octets) : ¬ other.OriginatesError arrived name later answer := by
  intro breeds
  obtain ⟨-, ⟨message, ⟨link, datagram, decoded, carried⟩, isError⟩, -⟩ := originates
  obtain ⟨_, _, arrivedLink, arrivedDatagram, accepted, reportable, -⟩ := breeds.report
  obtain ⟨same, arrivedCarried, kind⟩ := Frame.kind_of_travelled sent.2 arrived travelled link
    arrivedLink datagram arrivedDatagram message decoded carried accepted.decoded
  obtain ⟨-, -, -, -, -, noError⟩ :=
    (ControlMessage.isReportable_iff arrivedDatagram).mp reportable
  have harmless := message.isError_eq_false.mpr (kind ▸ noError same arrivedCarried)
  cases isError.symm.trans harmless

/-- Error reports never breed. If a received frame makes the router send an error report of its
own, this is all that it sends, back on the interface of the frame and to the source of the
datagram in it; and the datagram goes from a single host to a single host and reports no error
itself. So no router, in whatever state, sends an error report about this one, wherever and however
it arrives. -/
theorem errors_never_breed :
    Effect.transmissions (router.receive octets interfaceName now).2 = [sent] ∧
      sent.1 = interfaceName ∧
      (∃ link datagram, Frame.read octets = .ok ⟨link, .ipv4 datagram⟩ ∧
        (datagram.source ≠ .unspecified ∧ datagram.source ≠ .broadcast ∧
          datagram.source.isMulticast = false ∧ datagram.destination ≠ .broadcast ∧
          datagram.destination.isMulticast = false ∧
          ∀ message, datagram.payload = .icmp message →
            message.kind ∉ ([3, 4, 5, 11, 12] : List UInt8)) ∧
        ∃ reportLink report, Frame.read sent.2 = .ok ⟨reportLink, .ipv4 report⟩ ∧
          report.destination = datagram.source) ∧
      ∀ arrived, Frame.Travelled sent.2 arrived → ∀ other : Router, ∀ name later answer,
        ¬ other.OriginatesError arrived name later answer := by
  obtain ⟨problem, interface, link, datagram, accepted, reportable, sends, named, message,
    ⟨report, decoded, -, destination, -⟩, -⟩ := originates.report
  exact ⟨sends, named.trans accepted.name_eq, ⟨link, datagram, accepted.decoded,
    (ControlMessage.isReportable_iff datagram).mp reportable, _, report, decoded, destination⟩,
    originates.not_originates_of_travelled⟩

end Reports

/-! ### A report -/

namespace Expired

/-- A datagram from 10.0.0.9 to 10.0.1.7 at the end of its life. -/
def datagram : Datagram where
  octets := [0x45, 0, 0, 20, 0, 0, 0, 0, 1, 0, 0xa4, 0xdb, 10, 0, 0, 9, 10, 0, 1, 7]
  payload := .other 0

def frame : Octets := Transit.link.frame datagram.octets

/-- What is sent about the datagram. -/
def report : Octets :=
  (ControlMessage.reportFrame? 64 .timeExceeded datagram Stations.inner Transit.link.source).getD []

theorem originatesError : Transit.router.OriginatesError frame "eth0" 7 ("eth0", report) := by
  have accepted : Transit.router.Accepts frame "eth0" Stations.inner
      ⟨Transit.link, .ipv4 datagram⟩ := ⟨rfl, rfl, by decide, .inl rfl⟩
  obtain ⟨octets, built, isReport⟩ := ControlMessage.reportFrame?_isReport 64 .timeExceeded
    datagram Stations.inner Transit.link.source (by decide)
  have reportIs : report = octets := by
    rw [report, built, Option.getD_some]
  refine originatesError_of_report _ _ _ _ .timeExceeded Stations.inner Transit.link datagram report
    accepted (fun passage forwards => ?_) (by decide +kernel) (reportIs ▸ isReport)
  have same := Except.ok.inj (accepted.decoded.symm.trans forwards.accepted.decoded)
  have alive := forwards.alive
  rw [← FrameBody.ipv4.inj (Frame.mk.inj same).2] at alive
  exact absurd alive (by decide)

end Expired

/-- The report about the datagram comes back, with other link addresses, and is not answered by
another report. -/
theorem errors_never_breed_expired :
    Transit.router.OriginatesError Expired.frame "eth0" 7 ("eth0", Expired.report) ∧
      ∀ source destination : MacAddress, ∀ other : Router, ∀ name later answer,
        ¬ other.OriginatesError (readdress Expired.report source destination) name later
          answer := by
  have originates := Expired.originatesError
  obtain ⟨-, -, -, unbred⟩ := errors_never_breed originates
  have whole : LinkHeader.size ≤ Expired.report.length := by decide +kernel
  exact ⟨originates, fun source destination =>
    unbred _ (Frame.travelled_readdress Expired.report source destination whole)⟩

end Router

end Ipv4Router
