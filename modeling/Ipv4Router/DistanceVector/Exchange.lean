/-
This file exchanges routes with neighbours. The router asks all neighbours for their
tables at first, advertises its own table out of every interface with split horizon,
answers queries, and lets learned routes that are no longer advertised expire.
-/

import Ipv4Router.DistanceVector.Relaxation
import Ipv4Router.Interface.Registry

namespace Ipv4Router.DistanceVector

/-- The rhythm of the exchange, in milliseconds, and the time to live of its datagrams. -/
structure Settings where
  updateInterval : Nat := 10000
  timeout : Nat := 30000
  ttl : UInt8 := 16
deriving DecidableEq

/-! ### Sending -/

/-- Where a message is sent. -/
structure Recipient where
  address : Ipv4Address
  mac : MacAddress
  port : UInt16
deriving DecidableEq

/-- All routers on the link. -/
def Recipient.everyone : Recipient :=
  ⟨RipMessage.groupAddress, RipMessage.groupMac, RipMessage.port⟩

/-- The frame of a message from an interface; none if the message does not fit a datagram. -/
def messageFrame? (ttl : UInt8) (interface : Interface) (recipient : Recipient)
    (message : RipMessage) : Option Octets := do
  let segment ← UdpSegment.build? interface.address recipient.address RipMessage.port
    recipient.port message.encode
  let datagram ← Datagram.encode? interface.address recipient.address UdpSegment.protocol ttl
    segment.octets
  return Frame.ofDatagram interface.mac recipient.mac datagram

/-- Sends a message out of an interface. -/
def send (ttl : UInt8) (interface : Interface) (recipient : Recipient) (message : RipMessage) :
    Effect :=
  match messageFrame? ttl interface recipient message with
  | some frame => .transmit interface.name frame
  | none => .note (.unbuiltMessage message.command interface.name)

/-- Sends entries in as many responses as they need. -/
def respond (ttl : UInt8) (interface : Interface) (recipient : Recipient)
    (entries : List RipEntry) : List Effect :=
  (RipMessage.responses entries).map (send ttl interface recipient)

/-! ### Speaking first -/

/-- The table with the route to every attached subnet put in. -/
def withDirectRoutes (registry : Registry) (table : RouteTable) (now : Nat) : RouteTable :=
  registry.interfaces.foldl
    (fun table interface => (table.insert (.direct interface now)).1) table

/-- Asks all neighbours for their tables. -/
def askEveryone (registry : Registry) (ttl : UInt8) : List Effect :=
  registry.interfaces.map fun interface =>
    send ttl interface .everyone .wholeTableRequest

/-- Advertises the table out of every interface. -/
def advertise (registry : Registry) (table : RouteTable) (ttl : UInt8) : List Effect :=
  (registry.interfaces.flatMap fun interface =>
    respond ttl interface .everyone (table.advertised interface.name interface.address)) ++
  [.note (.advertisedRoutes registry.size)]

/-- Takes out the stale routes, and notes each. -/
def expire (table : RouteTable) (timeout now : Nat) : RouteTable × List Route × List Effect :=
  let (table, stale) := table.expire now timeout
  (table, stale, stale.map fun route =>
    .note (.timedOut route.destination route.mask route.gateway))

/-- One beat of the exchange: takes out the stale routes, then advertises the others. -/
def beat (registry : Registry) (settings : Settings) (table : RouteTable) (now : Nat) :
    RouteTable × List Effect :=
  let (table, _, effects) := expire table settings.timeout now
  (table, effects ++ advertise registry table settings.ttl)

/-! ### Being spoken to -/

/-- The answer to one asked destination: the cost of exactly this route, or infinity. -/
def answerEntry (table : RouteTable) (interface : Interface) (asked : RipEntry) : RipEntry :=
  .inet asked.address asked.mask interface.address
    (((table.find? asked.address asked.mask).map Route.cost).getD RipEntry.infinity)

/-- The entries that answer a request. Asked for the whole table, the router applies split
horizon; asked for destinations, it does not. -/
def answerEntries (table : RouteTable) (interface : Interface) (request : RipMessage) :
    List RipEntry :=
  if request.asksWholeTable then table.advertised interface.name interface.address
  else request.entries.map (answerEntry table interface)

/-- Answers a request. -/
def answer (ttl : UInt8) (table : RouteTable) (interface : Interface) (requester : Recipient)
    (request : RipMessage) : List Effect :=
  let entries := answerEntries table interface request
  .note (.answeredQuery requester.address interface.name entries.length) ::
    respond ttl interface requester entries

/-- Handles a datagram that came from a station on an interface's link. It must be for the
protocol's port and come from elsewhere; a response must also come from the protocol's port. -/
def receive (registry : Registry) (settings : Settings) (table : RouteTable)
    (datagram : Datagram) (peer : MacAddress) (interface : Interface) (now : Nat) :
    RouteTable × List Effect :=
  match datagram.payload with
  | .udp segment =>
    let source := datagram.source
    if segment.destinationPort ≠ RipMessage.port || registry.isLocal source then (table, [])
    else
      match RipMessage.decode segment.body with
      | .error reason => (table, [.note (.droppedMessage source reason)])
      | .ok message =>
        match message.command with
        | .request =>
          let requester := ⟨source, peer, segment.sourcePort⟩
          (table, answer settings.ttl table interface requester message)
        | .response =>
          if segment.sourcePort ≠ RipMessage.port then
            (table, [.note (.ignoredResponse source segment.sourcePort)])
          else
            let (table, _, effects) :=
              Hearing.absorb ⟨source, interface.name, now⟩ table message.entries
            (table, effects)
  | _ => (table, [])

end Ipv4Router.DistanceVector
