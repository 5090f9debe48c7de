/-
This file holds UDP segments. A segment that the router builds carries a checksum
over a pseudo-header of the two addresses, the protocol number and the length,
then the segment itself. The length field of a received segment is not consulted:
the body is everything after the header.
-/

import Ipv4Router.Address.Ipv4
import Ipv4Router.Checksum

namespace Ipv4Router

/-- A UDP segment. -/
structure UdpSegment where
  sourcePort : UInt16
  destinationPort : UInt16
  length : UInt16
  checksum : UInt16
  body : Octets
deriving DecidableEq

namespace UdpSegment

/-- The number of octets of a header. -/
def headerSize : Nat := 8

/-- The protocol number of UDP in an IPv4 header. -/
def protocol : UInt8 := 17

/-- The segment on the wire. -/
def octets (segment : UdpSegment) : Octets :=
  Octets.ofWord16 segment.sourcePort ++ Octets.ofWord16 segment.destinationPort ++
    Octets.ofWord16 segment.length ++ Octets.ofWord16 segment.checksum ++ segment.body

/-- Reads a segment. -/
def read? (octets : Octets) : Option UdpSegment :=
  if octets.length < headerSize then none
  else some {
    sourcePort := Octets.word16At octets 0
    destinationPort := Octets.word16At octets 2
    length := Octets.word16At octets 4
    checksum := Octets.word16At octets 6
    body := octets.drop headerSize }

/-- What the checksum covers before the segment. -/
def pseudoHeader (source destination : Ipv4Address) (length : UInt16) : Octets :=
  source.octets ++ destination.octets ++ [0, protocol] ++ Octets.ofWord16 length

/-- The checksum that the segment should carry between two addresses. -/
def computedChecksum (source destination : Ipv4Address) (segment : UdpSegment) : UInt16 :=
  Checksum.compute (pseudoHeader source destination segment.length ++
    { segment with checksum := 0 }.octets)

/-- The segment with a body and its checksum; none if its length does not fit 16 bits. -/
def build? (source destination : Ipv4Address) (sourcePort destinationPort : UInt16)
    (body : Octets) : Option UdpSegment :=
  let length := headerSize + body.length
  if length < 65536 then
    let blank : UdpSegment := ⟨sourcePort, destinationPort, UInt16.ofNat length, 0, body⟩
    some { blank with checksum := computedChecksum source destination blank }
  else none

end UdpSegment

end Ipv4Router
