/-
This file handles received frames. A frame is acted on if it comes from another
station, is addressed to the interface or to a group, and can be decoded. Address
resolution packets go to the neighbour cache. A datagram with a sound header is
delivered to the router itself or forwarded by the route table; when neither is
possible, its source gets a report.
-/

import Ipv4Router.Router.Basic

namespace Ipv4Router.Router

/-- Where a datagram came from: the interface, the station that sent the frame, and the time. -/
structure Arrival where
  interface : Interface
  peer : MacAddress
  now : Nat
deriving DecidableEq

/-- Reports a problem with a datagram to its source. -/
def report (router : Router) (problem : ControlMessage.Problem) (datagram : Datagram)
    (arrival : Arrival) : List Effect :=
  let interface := arrival.interface
  match ControlMessage.reportFrame? router.settings.controlTtl problem datagram interface
      arrival.peer with
  | some frame =>
    [.note (.reported problem datagram.source interface.name), .transmit interface.name frame]
  | none => [.note (.suppressed problem datagram.source)]

/-! ### Local delivery -/

/-- Replies to an echo request with a valid checksum; other control messages are dropped. -/
def echo (router : Router) (datagram : Datagram) (message : IcmpMessage) (arrival : Arrival) :
    List Effect :=
  let interface := arrival.interface
  if message.isEchoRequest && message.checksumHolds then
    match ControlMessage.echoFrame? router.settings.controlTtl datagram interface arrival.peer with
    | some frame =>
      [.note (.echoed datagram.source interface.name), .transmit interface.name frame]
    | none => [.note (.unbuiltEcho datagram.source)]
  else [.note (.droppedIcmp message.kind datagram.source)]

/-- Hands a datagram to the exchange of routes, unless that is disabled. -/
def exchangeRoutes (router : Router) (datagram : Datagram) (arrival : Arrival) :
    Router × List Effect :=
  if router.settings.routingEnabled then
    let (table, effects) := DistanceVector.receive router.registry router.settings.routing
      router.table datagram arrival.peer arrival.interface arrival.now
    ({ router with table }, effects)
  else (router, [.note (.routingDisabled datagram.source)])

/-- Delivers a datagram to the router itself. -/
def deliver (router : Router) (datagram : Datagram) (arrival : Arrival) : Router × List Effect :=
  if datagram.ttl ≤ 1 then (router, router.report .timeExceeded datagram arrival)
  else
    match datagram.payload with
    | .icmp message => (router, router.echo datagram message arrival)
    | .udp segment =>
      if segment.destinationPort = RipMessage.port then router.exchangeRoutes datagram arrival
      else (router, router.report .portUnreachable datagram arrival)
    | _ => (router, router.report .portUnreachable datagram arrival)

/-! ### Forwarding -/

/-- Sends a frame, already aged, along the route to its datagram's destination. -/
def route (router : Router) (frame : Octets) (datagram : Datagram) (arrival : Arrival) :
    Router × List Effect :=
  let destination := datagram.destination
  match router.table.lookup? destination with
  | none =>
    (router, .note (.noRoute destination) :: router.report .netUnreachable datagram arrival)
  | some route =>
    match router.registry.get? route.interface with
    | none => (router, [.note (.routeWithoutInterface destination route.interface)])
    | some out =>
      let nextHop := route.nextHop destination
      let (neighbors, effects) :=
        Neighbor.send router.registry router.neighbors frame nextHop out arrival.now
      ({ router with neighbors },
        .note (.forwarding datagram.source destination nextHop out.name) :: effects)

/-- Forwards the datagram of a frame, one less its time to live and without link padding. -/
def forward (router : Router) (frame : Octets) (datagram : Datagram) (arrival : Arrival) :
    Router × List Effect :=
  if datagram.ttl ≤ 1 then (router, router.report .timeExceeded datagram arrival)
  else
    match Frame.decrementTtl? (frame.take (LinkHeader.size + datagram.octets.length)) with
    | none => (router, [])
    | some (_, aged) => router.route aged datagram arrival

/-! ### Frames -/

/-- The datagram is for the router itself. -/
def isAddressee (router : Router) (datagram : Datagram) : Bool :=
  router.registry.isLocal datagram.destination ||
    datagram.destination == RipMessage.groupAddress

/-- Handles the datagram of a frame. -/
def handleDatagram (router : Router) (frame : Octets) (datagram : Datagram) (arrival : Arrival) :
    Router × List Effect :=
  if !datagram.checksumHolds then (router, [.note (.badChecksum datagram.source)])
  else if router.isAddressee datagram then router.deliver datagram arrival
  else router.forward frame datagram arrival

/-- The interface takes frames to its own link address and to groups. -/
def accepts (interface : Interface) (destination : MacAddress) : Bool :=
  destination == interface.mac || destination.isGroup

/-- Handles a decoded frame on an interface. -/
def handleFrame (router : Router) (octets : Octets) (frame : Frame) (interface : Interface)
    (now : Nat) : Router × List Effect :=
  let peer := frame.link.source
  let destination := frame.link.destination
  if peer = interface.mac then (router, [.note (.ownFrame interface.name)])
  else if !accepts interface destination then
    (router, [.note (.foreignFrame destination interface.name)])
  else
    match frame.body with
    | .arp packet =>
      let (neighbors, effects) := Neighbor.receive router.neighbors packet interface now
      ({ router with neighbors }, effects)
    | .ipv4 datagram => router.handleDatagram octets datagram ⟨interface, peer, now⟩
    | .other etherType => (router, [.note (.ignoredFrame etherType interface.name)])

/-- Handles the octets received on a named interface. Whatever cannot be decoded is dropped. -/
def receive (router : Router) (octets : Octets) (interfaceName : String) (now : Nat) :
    Router × List Effect :=
  match router.registry.get? interfaceName with
  | none => (router, [.note (.unknownInterface interfaceName)])
  | some interface =>
    match Frame.read octets with
    | .error reason => (router, [.note (.malformedFrame interfaceName reason)])
    | .ok frame => router.handleFrame octets frame interface now

end Ipv4Router.Router
