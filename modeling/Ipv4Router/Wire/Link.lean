/-
This file holds the Ethernet header: the link addresses of the two stations and
the kind of payload. A frame is a header followed by its payload. A frame on its
way to the next hop gets new link addresses and keeps everything else.
-/

import Ipv4Router.Address.Mac

namespace Ipv4Router

/-- The number that tells what an Ethernet frame carries. -/
abbrev EtherType := UInt16

namespace EtherType

def ipv4 : EtherType := 0x0800

def arp : EtherType := 0x0806

/-- The name of a kind of payload; `unknown` for one without a name. -/
def name (etherType : EtherType) : String :=
  match etherType.toNat with
  | 0x0800 => "Ipv4"
  | 0x0806 => "Arp"
  | 0x0842 => "WakeOnLan"
  | 0x22f3 => "Trill"
  | 0x6003 => "DECnet"
  | 0x8035 => "Rarp"
  | 0x809b => "AppleTalk"
  | 0x80f3 => "Aarp"
  | 0x8100 => "Vlan"
  | 0x8137 => "Ipx"
  | 0x8204 => "Qnx"
  | 0x86dd => "Ipv6"
  | 0x8808 => "FlowControl"
  | 0x8819 => "CobraNet"
  | 0x8847 => "Mpls"
  | 0x8848 => "MplsMcast"
  | 0x8863 => "PppoeDiscovery"
  | 0x8864 => "PppoeSession"
  | 0x88a8 => "PBridge"
  | 0x88cc => "Lldp"
  | 0x88f7 => "Ptp"
  | 0x8902 => "Cfm"
  | 0x9100 => "QinQ"
  | _ => "unknown"

end EtherType

/-- The Ethernet header of a frame. -/
structure LinkHeader where
  destination : MacAddress
  source : MacAddress
  etherType : EtherType
deriving DecidableEq

namespace LinkHeader

/-- The number of octets of a header. -/
def size : Nat := 14

/-- The header on the wire. -/
def octets (header : LinkHeader) : Octets :=
  header.destination.octets ++ header.source.octets ++ Octets.ofWord16 header.etherType

/-- The header at the front of a frame. -/
def read (frame : Octets) : LinkHeader where
  destination := .ofOctets (Octets.field frame 0 6)
  source := .ofOctets (Octets.field frame 6 6)
  etherType := Octets.word16At frame 12

/-- The frame with this header and a payload. -/
def frame (header : LinkHeader) (payload : Octets) : Octets := header.octets ++ payload

end LinkHeader

/-! ### New link addresses -/

/-- The frame between two other stations; none if the frame has no whole header. -/
def readdress? (frame : Octets) (source destination : MacAddress) : Option Octets :=
  if frame.length < LinkHeader.size then none
  else some (destination.octets ++ source.octets ++ frame.drop 12)

/-- The frame between two other stations. A frame without a whole header stays as it is. -/
def readdress (frame : Octets) (source destination : MacAddress) : Octets :=
  (readdress? frame source destination).getD frame

end Ipv4Router
