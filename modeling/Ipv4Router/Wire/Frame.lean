/-
This file decodes a received frame in one pass: the Ethernet header, then the
address resolution packet or the datagram in it. It also takes one from the time to
live of the datagram in a frame that is to be forwarded.
-/

import Ipv4Router.Wire.Arp
import Ipv4Router.Wire.Datagram

namespace Ipv4Router

/-- What a frame carries. -/
inductive FrameBody
  | arp (packet : ArpPacket)
  | ipv4 (datagram : Datagram)
  | other (etherType : EtherType)
deriving DecidableEq

/-- A decoded frame. -/
structure Frame where
  link : LinkHeader
  body : FrameBody
deriving DecidableEq

namespace Frame

/-- Decodes what follows the link header. -/
def readBody (etherType : EtherType) (octets : Octets) : Except Malformed FrameBody :=
  if etherType = EtherType.arp then
    match ArpPacket.read? octets with
    | some packet => .ok (.arp packet)
    | none => .error (.truncated .arp)
  else if etherType = EtherType.ipv4 then
    match Datagram.read octets with
    | .ok datagram => .ok (.ipv4 datagram)
    | .error malformed => .error malformed
  else .ok (.other etherType)

/-- Decodes a frame. -/
def read (octets : Octets) : Except Malformed Frame :=
  if octets.length < LinkHeader.size then .error (.truncated .ethernet)
  else
    let link := LinkHeader.read octets
    match readBody link.etherType (octets.drop LinkHeader.size) with
    | .ok body => .ok ⟨link, body⟩
    | .error malformed => .error malformed

/-- The frame of a datagram between two stations. -/
def ofDatagram (source destination : MacAddress) (datagram : Octets) : Octets :=
  LinkHeader.frame ⟨destination, source, EtherType.ipv4⟩ datagram

/-- The new time to live and the frame with it and a new header checksum; none if the frame has
no whole IPv4 header or no time left. -/
def decrementTtl? (frame : Octets) : Option (UInt8 × Octets) :=
  let datagram := frame.drop LinkHeader.size
  let ttl := Ipv4Header.ttl datagram
  if datagram.length < Ipv4Header.size ∨ ttl = 0 then none
  else some (ttl - 1, frame.take LinkHeader.size ++
    Ipv4Header.withChecksum (Octets.overwrite datagram 8 [ttl - 1]))

end Frame

end Ipv4Router
