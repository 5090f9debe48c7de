/-
This file proves what the router does with a datagram for itself. One at the end of its
life is reported, whatever it carries. An echo request is answered by its echo, and a
message of the routing protocol by nothing but messages of the routing protocol; a control
message that asks for nothing is dropped, and anything else finds no port. None of this
touches what is known of the neighbours, and no datagram for the router is forwarded.
-/

import Ipv4Router.Proofs.DistanceVector.Advertising
import Ipv4Router.Proofs.Router.Confinement

namespace Ipv4Router

/-! ### Control messages -/

namespace ControlMessage

/-- A control message can be read from the frame. -/
def Bears (frame : Octets) (message : IcmpMessage) : Prop :=
  ∃ link datagram, Frame.read frame = .ok ⟨link, .ipv4 datagram⟩ ∧
    datagram.payload = .icmp message

theorem not_bears_of_conveys (ttl : UInt8) (interface : Interface)
    (recipient : DistanceVector.Recipient) (message : RipMessage) (frame : Octets)
    (datagram : Datagram) (segment : UdpSegment)
    (conveys : DistanceVector.Conveys ttl interface recipient message frame datagram segment)
    (control : IcmpMessage) : ¬ Bears frame control := by
  rintro ⟨link, other, decoded, carried⟩
  cases decoded.symm.trans conveys.decoded
  cases carried.symm.trans conveys.carried

/-- The frame echoes the request in a datagram: it goes back to the station and the host that the
request came from, with what followed the request's checksum. It comes from the address that was
asked, or from that of the interface if this was a group. -/
def IsEcho (ttl : UInt8) (datagram : Datagram) (interface : Interface) (peer : MacAddress)
    (frame : Octets) : Prop :=
  ∃ message, Carries frame interface peer
      (if datagram.destination.isMulticast then interface.address else datagram.destination)
      datagram.source ttl message ∧
    message.kind = IcmpMessage.echoReply ∧ message.code = 0 ∧ message.checksumHolds = true ∧
    message.octets.drop IcmpMessage.headerSize = datagram.body.drop IcmpMessage.headerSize

/-- The echo of a request fits a datagram, because the request came in one. -/
theorem echoFrame?_isEcho (ttl : UInt8) (datagram : Datagram) (interface : Interface)
    (peer : MacAddress) (request : IcmpMessage)
    (asked : IcmpMessage.read? datagram.body = some request)
    (room : Ipv4Header.size + datagram.body.length < 65536) :
    ∃ frame, echoFrame? ttl datagram interface peer = some frame ∧
      IsEcho ttl datagram interface peer frame := by
  obtain ⟨whole, body⟩ : IcmpMessage.headerSize ≤ datagram.body.length ∧
      request.body = datagram.body.drop IcmpMessage.headerSize := by
    unfold IcmpMessage.read? at asked
    split at asked
    · cases asked
    · rename_i long
      cases asked
      exact ⟨Nat.not_lt.mp long, rfl⟩
  let message := IcmpMessage.build IcmpMessage.echoReply 0 request.body
  have rest : message.octets.drop IcmpMessage.headerSize = request.body := rfl
  have size : message.octets.length = datagram.body.length := by
    have fromRest := congrArg List.length rest
    have header : IcmpMessage.headerSize ≤ message.octets.length := by
      rw [IcmpMessage.octets, List.length_append, List.length_append, Octets.length_ofWord16]
      exact Nat.le_add_right _ _
    rw [body, List.length_drop, List.length_drop] at fromRest
    omega
  obtain ⟨frame, built, carries⟩ := frame?_carries ttl interface peer
    (if datagram.destination.isMulticast then interface.address else datagram.destination)
    datagram.source message (by rwa [size])
  refine ⟨frame, ?_, message, carries, rfl, rfl, IcmpMessage.checksumHolds_build _ _ _, ?_⟩
  · rw [echoFrame?, asked, Option.bind_some]
    exact built
  · rw [rest, body]

end ControlMessage

namespace Router

/-! ### Delivery -/

/-- What is sent when a control message was delivered: one echo on the interface where it came in
if it is a sound echo request, and nothing otherwise. -/
def SendsEcho (router : Router) (datagram : Datagram) (message : IcmpMessage)
    (interface : Interface) (peer : MacAddress) (sent : List (String × Octets)) : Prop :=
  if message.kind = IcmpMessage.echoRequest ∧ message.checksumHolds = true then
    ∃ frame, sent = [(interface.name, frame)] ∧
      ControlMessage.IsEcho router.settings.controlTtl datagram interface peer frame
  else sent = []

/-- All that is sent are messages of the routing protocol to the sender of a segment, on the
interface where it came in. -/
def SendsAnswers (router : Router) (datagram : Datagram) (segment : UdpSegment)
    (interface : Interface) (peer : MacAddress) (sent : List (String × Octets)) : Prop :=
  ∀ answer ∈ sent, answer.1 = interface.name ∧
    (∃ message reply replied, DistanceVector.Conveys router.settings.routing.ttl interface
      ⟨datagram.source, peer, segment.sourcePort⟩ message answer.2 reply replied) ∧
    ∀ control, ¬ ControlMessage.Bears answer.2 control

/-- What becomes of a datagram for the router itself: the router afterwards and what it sends. The
cases of its life and its payload exclude each other, and one of them applies. -/
structure Delivery (router : Router) (datagram : Datagram) (interface : Interface)
    (peer : MacAddress) (after : Router) (sent : List (String × Octets)) : Prop where
  kept : after = { router with table := after.table }
  expired : datagram.ttl ≤ 1 →
    after = router ∧ router.SendsReport .timeExceeded datagram interface peer sent
  control : 1 < datagram.ttl → ∀ message, datagram.payload = .icmp message →
    after = router ∧ router.SendsEcho datagram message interface peer sent
  exchanged : 1 < datagram.ttl → ∀ segment, datagram.payload = .udp segment →
    segment.destinationPort = RipMessage.port →
    router.SendsAnswers datagram segment interface peer sent ∧
      (router.settings.routingEnabled = false → after = router ∧ sent = [])
  undeliverable : 1 < datagram.ttl → (∀ message, datagram.payload ≠ .icmp message) →
    (∀ segment, datagram.payload = .udp segment → segment.destinationPort ≠ RipMessage.port) →
    after = router ∧ router.SendsReport .portUnreachable datagram interface peer sent

section Delivering

variable (router : Router) (datagram : Datagram) (arrival : Arrival)

theorem echo_sends (message : IcmpMessage)
    (asked : IcmpMessage.read? datagram.body = some message)
    (room : Ipv4Header.size + datagram.body.length < 65536) :
    router.SendsEcho datagram message arrival.interface arrival.peer
      (Effect.transmissions (router.echo datagram message arrival)) := by
  unfold SendsEcho echo
  simp only [Bool.and_eq_true, IcmpMessage.isEchoRequest, beq_iff_eq]
  split
  · obtain ⟨frame, built, isEcho⟩ := ControlMessage.echoFrame?_isEcho router.settings.controlTtl
      datagram arrival.interface arrival.peer message asked room
    refine ⟨frame, ?_, isEcho⟩
    simp only [built]
    rfl
  · rfl

theorem exchangeRoutes_sends (segment : UdpSegment) (carried : datagram.payload = .udp segment) :
    router.SendsAnswers datagram segment arrival.interface arrival.peer
      (Effect.transmissions (router.exchangeRoutes datagram arrival).2) := by
  intro answer member
  unfold exchangeRoutes at member
  split at member
  · obtain ⟨named, message, reply, replied, conveys⟩ := DistanceVector.conveys_of_mem_receive _ _ _
      datagram segment arrival.peer arrival.interface arrival.now carried answer member
    exact ⟨named, ⟨message, reply, replied, conveys⟩,
      ControlMessage.not_bears_of_conveys _ _ _ _ _ _ _ conveys⟩
  · cases member

/-- Delivering changes nothing but the route table. -/
theorem deliver_keeps :
    (router.deliver datagram arrival).1 =
      { router with table := (router.deliver datagram arrival).1.table } := by
  unfold deliver
  split
  · rfl
  · split
    · rfl
    · split
      · unfold exchangeRoutes
        split <;> rfl
      · rfl
    · rfl

theorem deliver_undeliverable (alive : 1 < datagram.ttl)
    (notControl : ∀ message, datagram.payload ≠ .icmp message)
    (notExchange : ∀ segment, datagram.payload = .udp segment →
      segment.destinationPort ≠ RipMessage.port) :
    router.deliver datagram arrival =
      (router, router.report .portUnreachable datagram arrival) := by
  rw [deliver, if_neg (UInt8.not_le.mpr alive)]
  cases carried : datagram.payload with
  | icmp message => exact absurd carried (notControl message)
  | udp segment => exact if_neg (notExchange segment carried)
  | tcp segment | other protocol => rfl

/-- What becomes of a datagram that was read is what delivering does. -/
theorem delivery_deliver (octets : Octets) (parsed : Datagram.read octets = .ok datagram) :
    router.Delivery datagram arrival.interface arrival.peer (router.deliver datagram arrival).1
      (Effect.transmissions (router.deliver datagram arrival).2) where
  kept := router.deliver_keeps datagram arrival
  expired := fun dead => by
    rw [deliver, if_pos dead]
    exact ⟨rfl, router.report_sends _ datagram arrival⟩
  control := fun alive message carried => by
    have classified := Datagram.readPayload_of_read octets datagram parsed
    rw [carried] at classified
    have delivered : router.deliver datagram arrival =
        (router, router.echo datagram message arrival) := by
      simp only [deliver, if_neg (UInt8.not_le.mpr alive), carried]
    rw [delivered]
    exact ⟨rfl, router.echo_sends datagram arrival message
      (Datagram.read?_of_readPayload _ _ message classified).2
      (Datagram.readFrom_of_read octets datagram parsed).room⟩
  exchanged := fun alive segment carried toPort => by
    have delivered : router.deliver datagram arrival = router.exchangeRoutes datagram arrival := by
      simp only [deliver, if_neg (UInt8.not_le.mpr alive), carried, if_pos toPort]
    rw [delivered]
    refine ⟨router.exchangeRoutes_sends datagram arrival segment carried, fun disabled => ?_⟩
    rw [exchangeRoutes, disabled]
    exact ⟨rfl, rfl⟩
  undeliverable := fun alive notControl notExchange => by
    rw [router.deliver_undeliverable datagram arrival alive notControl notExchange]
    exact ⟨rfl, router.report_sends _ datagram arrival⟩

end Delivering

theorem isAddressee_iff (router : Router) (datagram : Datagram) :
    router.isAddressee datagram = true ↔
      (∃ interface ∈ router.registry.interfaces, interface.address = datagram.destination) ∨
        datagram.destination = RipMessage.groupAddress := by
  rw [isAddressee, Bool.or_eq_true, Registry.isLocal_iff, beq_iff_eq]

/-- A sound datagram for the router itself, in a frame that an interface takes in, is delivered and
goes no further. What is known of the neighbours stays as it was, and only a response of the
routing protocol reaches the route table. -/
theorem receive_delivery (router : Router) (octets : Octets) (name : String) (now : Nat)
    (interface : Interface) (link : LinkHeader) (datagram : Datagram)
    (accepted : router.Accepts octets name interface ⟨link, .ipv4 datagram⟩)
    (sound : datagram.checksumHolds = true)
    (own : (∃ interface ∈ router.registry.interfaces, interface.address = datagram.destination) ∨
      datagram.destination = RipMessage.groupAddress) :
    let after := (router.receive octets name now).1
    let sent := Effect.transmissions (router.receive octets name now).2
    router.Delivery datagram interface link.source after sent ∧
      after.neighbors = router.neighbors ∧
      (∀ passage, ¬ router.Forwards octets name passage) ∧
      (after.table ≠ router.table → ∃ response, router.Hears octets name response ∧
        after.table = ((response.hearing now).absorb router.table response.entries).1) := by
  intro after sent
  have addressee := (router.isAddressee_iff datagram).mpr own
  have delivered := receive_eq_deliver router octets name now interface link datagram accepted
    sound addressee
  obtain ⟨-, -, -, parsed⟩ := Frame.read_ipv4 _ _ _ accepted.decoded
  have delivery := router.delivery_deliver datagram ⟨interface, link.source, now⟩ _ parsed
  rw [← delivered] at delivery
  have neighbors : after.neighbors = router.neighbors := by
    show (router.receive octets name now).1.neighbors = router.neighbors
    rw [delivery.kept]
  refine ⟨delivery, neighbors, fun passage forwards => ?_, fun changed => ?_⟩
  · cases accepted.decoded.symm.trans forwards.accepted.decoded
    cases addressee.symm.trans forwards.elsewhere
  · obtain ⟨response, hears⟩ := router.hears_of_table_ne octets name now changed
    exact ⟨response, hears, congrArg Router.table (receive_of_hears _ _ _ now response hears)⟩

/-! ### An echo -/

namespace Echoed

/-- An echo request with an odd number of octets. -/
def request : Octets := [8, 0, 0x96, 0xfc, 0, 1, 0, 2, 0x61]

/-- The request in a datagram from 10.0.0.9 to 10.0.0.1, whose header has options. -/
def datagram : Datagram where
  octets :=
    [0x46, 0, 0, 0x21, 0, 0, 0, 0, 64, 1, 0x63, 0xd2, 10, 0, 0, 9, 10, 0, 0, 1, 1, 1, 1, 0] ++
      request
  payload := .icmp ⟨8, 0, 0x96fc, [0, 1, 0, 2, 0x61]⟩

/-- The frame of the datagram, with two octets of padding. -/
def frame : Octets := Transit.link.frame (datagram.octets ++ [0, 0])

end Echoed

/-- The request is echoed to the station that it came from, without the options. -/
theorem receive_delivery_echo :
    Transit.router.Accepts Echoed.frame "eth0" Stations.inner
        ⟨Transit.link, .ipv4 Echoed.datagram⟩ ∧
      Echoed.datagram.checksumHolds = true ∧ Echoed.datagram.destination = Stations.inner.address ∧
      ∃ frame, Effect.transmissions (Transit.router.receive Echoed.frame "eth0" 7).2 =
          [("eth0", frame)] ∧
        ControlMessage.IsEcho 64 Echoed.datagram Stations.inner Transit.link.source frame := by
  have accepted : Transit.router.Accepts Echoed.frame "eth0" Stations.inner
      ⟨Transit.link, .ipv4 Echoed.datagram⟩ := ⟨rfl, rfl, by decide, .inl rfl⟩
  have sound : Echoed.datagram.checksumHolds = true := by decide
  have own : Echoed.datagram.destination = Stations.inner.address := by decide
  obtain ⟨delivery, -⟩ := receive_delivery Transit.router Echoed.frame "eth0" 7 Stations.inner
    Transit.link Echoed.datagram accepted sound (.inl ⟨Stations.inner, by decide, own.symm⟩)
  have echoes := (delivery.control (by decide) _ rfl).2
  rw [SendsEcho, if_pos (by decide)] at echoes
  exact ⟨accepted, sound, own, echoes⟩

end Router

end Ipv4Router
