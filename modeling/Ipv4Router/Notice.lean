/-
This file lists what the router tells its operator. Every record of the log is one
of these notices; its level and its wording follow from it.
-/

import Ipv4Router.ControlMessage
import Ipv4Router.Route.Table

namespace Ipv4Router

/-- How much a notice matters. -/
inductive Level
  | debug
  | info
  | warn
deriving DecidableEq

namespace Level

def text : Level → String
  | debug => "DEBUG"
  | info => "INFO"
  | warn => "WARN"

end Level

/-- A record of the log. -/
inductive Notice
  -- Address resolution.
  | askedFor (target : Ipv4Address) (interface : String)
  | cannotAsk (target : Ipv4Address) (interface : String)
  | refusedFrame (target : Ipv4Address)
  | heldFrame (target : Ipv4Address)
  | answered (requester : Ipv4Address) (interface : String)
  | learnedNeighbor (address : Ipv4Address) (mac : MacAddress) (interface : String)
  | releasedFrames (count : Nat) (address : Ipv4Address)
  | ignoredArpOperation (operation : UInt16)
  | forgotBindings (count : Nat)
  | gaveUp (target : Ipv4Address) (attempts frames : Nat)
  | sweepStopped
  -- Distance-vector routing.
  | initialRoutes (table : RouteTable)
  | unbuiltMessage (command : RipCommand) (interface : String)
  | droppedMessage (source : Ipv4Address) (reason : Malformed)
  | ignoredResponse (source : Ipv4Address) (port : UInt16)
  | answeredQuery (requester : Ipv4Address) (interface : String) (entries : Nat)
  | ignoredEntry (entry : RipEntry) (advertiser : Ipv4Address)
  | newRoute (destination mask advertiser : Ipv4Address) (interface : String) (cost : UInt32)
  | betterRoute (destination mask advertiser : Ipv4Address) (interface : String) (cost : UInt32)
      (oldCost : UInt32) (oldGateway : Ipv4Address)
  | routesAfter (advertiser : Ipv4Address) (table : RouteTable)
  | timedOut (destination mask gateway : Ipv4Address)
  | advertisedRoutes (interfaces : Nat)
  | advertisingStopped
  -- The router itself.
  | hasInterface (interface : Interface)
  | addedStaticRoute (destination mask gateway : Ipv4Address) (interface : String)
  | staticRoutes (table : RouteTable)
  | started (interfaces : Nat)
  | stopped
  | taskFailed
  -- Received frames.
  | unknownInterface (interface : String)
  | malformedFrame (interface : String) (reason : Malformed)
  | ownFrame (interface : String)
  | foreignFrame (destination : MacAddress) (interface : String)
  | ignoredFrame (etherType : EtherType) (interface : String)
  | badChecksum (source : Ipv4Address)
  | droppedIcmp (kind : UInt8) (source : Ipv4Address)
  | echoed (source : Ipv4Address) (interface : String)
  | unbuiltEcho (source : Ipv4Address)
  | routingDisabled (source : Ipv4Address)
  | noRoute (destination : Ipv4Address)
  | routeWithoutInterface (destination : Ipv4Address) (interface : String)
  | forwarding (source destination nextHop : Ipv4Address) (interface : String)
  | reported (problem : ControlMessage.Problem) (source : Ipv4Address) (interface : String)
  | suppressed (problem : ControlMessage.Problem) (source : Ipv4Address)
deriving DecidableEq

namespace Notice

/-- How much the notice matters. -/
def level : Notice → Level
  | gaveUp .. | initialRoutes .. | newRoute .. | betterRoute .. | timedOut ..
  | hasInterface .. | addedStaticRoute .. | staticRoutes .. | started .. | stopped => .info
  | cannotAsk .. | unbuiltMessage .. | taskFailed | unbuiltEcho .. | routeWithoutInterface .. =>
    .warn
  | _ => .debug

/-- The wording of the notice. -/
def message : Notice → String
  | askedFor target interface => s!"Sending ARP request for {target} on {interface}"
  | cannotAsk target interface =>
    s!"Cannot send ARP request for {target}: unknown interface {interface}"
  | refusedFrame target => s!"No pending ARP request for {target}, dropping frame"
  | heldFrame target => s!"Queued frame behind outstanding ARP request for {target}"
  | answered requester interface => s!"Answering ARP request from {requester} on {interface}"
  | learnedNeighbor address mac interface => s!"Learned {address} is-at {mac} on {interface}"
  | releasedFrames count address => s!"Releasing {count} frame(s) waiting on {address}"
  | ignoredArpOperation operation => s!"Ignoring ARP operation ArpOperation({operation})"
  | forgotBindings count => s!"Expired {count} ARP cache entries"
  | gaveUp target attempts frames =>
    s!"ARP resolution of {target} failed after {attempts} attempts, dropping {frames} frame(s)"
  | sweepStopped => "ARP sweep task shutting down"
  | initialRoutes table => s!"RIP initial route table:\n{table}"
  | unbuiltMessage command interface => s!"Failed to build RIP {command.text} for {interface}"
  | droppedMessage source reason => s!"Dropping RIP datagram from {source}: {reason.message}"
  | ignoredResponse source port =>
    s!"Ignoring RIP response from {source} sent from port {port}"
  | answeredQuery requester interface entries =>
    s!"Answering RIP request from {requester} on {interface} with {entries} entries"
  | ignoredEntry entry advertiser =>
    s!"Ignoring malformed RIP entry {entry.text} from {advertiser}"
  | newRoute destination mask advertiser interface cost =>
    s!"RIP: new route {destination}/{mask} via {advertiser} on {interface} cost {cost}"
  | betterRoute destination mask advertiser interface cost oldCost oldGateway =>
    s!"RIP: better route {destination}/{mask} via {advertiser} on {interface} cost {cost} " ++
    s!"(was {oldCost} via {oldGateway})"
  | routesAfter advertiser table => s!"Route table after update from {advertiser}:\n{table}"
  | timedOut destination mask gateway =>
    s!"RIP: route {destination}/{mask} via {gateway} timed out"
  | advertisedRoutes interfaces =>
    s!"Sent unsolicited RIP responses on {interfaces} interfaces"
  | advertisingStopped => "RIP periodic task shutting down"
  | hasInterface interface => s!"Interface {interface.text}"
  | addedStaticRoute destination mask gateway interface =>
    s!"Adding static route {destination}/{mask} via {gateway} on {interface}"
  | staticRoutes table => s!"Static route table:\n{table}"
  | started interfaces => s!"Router started on {interfaces} interfaces"
  | stopped => "Router stopped"
  | taskFailed => "Background task ended abnormally: its period is zero"
  | unknownInterface interface => s!"Dropping frame from unknown interface {interface}"
  | malformedFrame interface reason =>
    s!"Dropping malformed frame on {interface}: {reason.message}"
  | ownFrame interface => s!"Dropping our own frame looped back on {interface}"
  | foreignFrame destination interface => s!"Dropping frame for {destination} on {interface}"
  | ignoredFrame etherType interface => s!"Ignoring {etherType.name} frame on {interface}"
  | badChecksum source => s!"Dropping datagram from {source} with bad checksum"
  | droppedIcmp kind source => s!"Dropping ICMP IcmpType({kind}) from {source}"
  | echoed source interface => s!"Echo reply to {source} on {interface}"
  | unbuiltEcho source => s!"Failed to build echo reply for {source}"
  | routingDisabled source => s!"RIP disabled, ignoring datagram from {source}"
  | noRoute destination => s!"No route to {destination}"
  | routeWithoutInterface destination interface =>
    s!"Route to {destination} uses unknown interface {interface}"
  | forwarding source destination nextHop interface =>
    s!"Forwarding {source} -> {destination} via {nextHop} on {interface}"
  | reported problem source interface =>
    s!"Sending {problem.text} to {source} on {interface}"
  | suppressed problem source => s!"Suppressed {problem.text} about datagram from {source}"

/-- The record as it stands in the log. -/
def text (notice : Notice) : String := s!"{notice.level.text} {notice.message}"

end Notice

end Ipv4Router
