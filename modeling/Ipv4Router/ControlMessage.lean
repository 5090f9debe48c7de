/-
This file builds the ICMP messages that the router sends: the reply to an echo
request and the reports of the three errors it detects. No error is reported about
a datagram that another error report could answer, so reports never breed: not about
a source that is no single host, a group destination, or another error report.
-/

import Ipv4Router.Interface.Basic
import Ipv4Router.Wire.Frame

namespace Ipv4Router.ControlMessage

/-- The time to live of control messages, unless configured. -/
def defaultTtl : UInt8 := 64

/-! ### Errors -/

/-- What the router reports to the source of a datagram. -/
inductive Problem
  | netUnreachable
  | portUnreachable
  | timeExceeded
deriving DecidableEq

namespace Problem

/-- The ICMP type of a report. -/
def kind : Problem → UInt8
  | netUnreachable => IcmpMessage.destinationUnreachable
  | portUnreachable => IcmpMessage.destinationUnreachable
  | timeExceeded => IcmpMessage.timeExceeded

/-- The ICMP code of a report. -/
def code : Problem → UInt8
  | netUnreachable => 0
  | portUnreachable => 3
  | timeExceeded => 0

/-- The name of the problem, for the log. -/
def text : Problem → String
  | netUnreachable => "NetUnreachable"
  | portUnreachable => "PortUnreachable"
  | timeExceeded => "TimeExceeded"

end Problem

/-- A datagram may be reported about if it comes from one host, goes to one host, and is no error
report itself. -/
def isReportable (datagram : Datagram) : Bool :=
  let source := datagram.source
  let destination := datagram.destination
  let isErrorReport := match datagram.payload with
    | .icmp message => message.isError
    | _ => false
  source != .unspecified && source != .broadcast && !source.isMulticast &&
    destination != .broadcast && !destination.isMulticast && !isErrorReport

/-! ### Frames -/

/-- The frame of a control message sent from an interface to a station on its link; none if the
message is too long for a datagram. -/
def frame? (ttl : UInt8) (interface : Interface) (peer : MacAddress)
    (source destination : Ipv4Address) (message : IcmpMessage) : Option Octets :=
  (Datagram.encode? source destination IcmpMessage.protocol ttl message.octets).map
    (Frame.ofDatagram interface.mac peer)

/-- How much of the payload a report quotes. -/
def quotedSize : Nat := 8

/-- The report about a datagram: four unused octets, its header and the front of its payload. -/
def report (problem : Problem) (datagram : Datagram) : IcmpMessage :=
  .build problem.kind problem.code
    ([0, 0, 0, 0] ++ datagram.header ++ datagram.body.take quotedSize)

/-- The frame that reports a problem to the source of a datagram, through the station it came
from; none if the datagram may not be reported about. -/
def reportFrame? (ttl : UInt8) (problem : Problem) (datagram : Datagram) (interface : Interface)
    (peer : MacAddress) : Option Octets :=
  if isReportable datagram then
    frame? ttl interface peer interface.address datagram.source (report problem datagram)
  else none

/-- The frame that echoes the payload of a datagram back to its source. The reply comes from the
address that was asked, but from the interface's own if that was a group. -/
def echoFrame? (ttl : UInt8) (datagram : Datagram) (interface : Interface) (peer : MacAddress) :
    Option Octets :=
  let source := if datagram.destination.isMulticast then interface.address
    else datagram.destination
  (IcmpMessage.read? datagram.body).bind fun request =>
    frame? ttl interface peer source datagram.source
      (.build IcmpMessage.echoReply 0 request.body)

end Ipv4Router.ControlMessage
