/-
This file holds IPv4 datagrams. A datagram is read from octets that may be followed
by link padding: its total length tells where it ends, and its payload is classified
by the protocol number at once. A datagram that the router builds has a header of 20
octets with a valid checksum.
-/

import Ipv4Router.Wire.Malformed
import Ipv4Router.Wire.Icmp
import Ipv4Router.Wire.Udp

namespace Ipv4Router

/-! ### Headers -/

namespace Ipv4Header

/-- The number of octets of a header without options. -/
def size : Nat := 20

/-- The version in the upper half of the first octet. -/
def version (octets : Octets) : Nat := (Octets.octetAt octets 0).toNat / 16

/-- The header length, counted in 32-bit words in the lower half of the first octet. -/
def length (octets : Octets) : Nat := 4 * ((Octets.octetAt octets 0).toNat % 16)

/-- The length of header and payload. -/
def totalLength (octets : Octets) : Nat := (Octets.word16At octets 2).toNat

def ttl (octets : Octets) : UInt8 := Octets.octetAt octets 8

def protocol (octets : Octets) : UInt8 := Octets.octetAt octets 9

def checksum (octets : Octets) : UInt16 := Octets.word16At octets 10

def source (octets : Octets) : Ipv4Address := .ofOctets (Octets.field octets 12 4)

def destination (octets : Octets) : Ipv4Address := .ofOctets (Octets.field octets 16 4)

/-- The number of octets that the checksum covers: the header length as stated, but no fewer
than an optionless header has and no more than there are. -/
def coverage (octets : Octets) : Nat := max size (min (length octets) octets.length)

/-- The checksum that the header at the front should carry. -/
def computedChecksum (octets : Octets) : UInt16 :=
  Checksum.compute (Octets.overwrite (octets.take (coverage octets)) 10 [0, 0])

/-- The octets with the checksum of the header at the front written into it. -/
def withChecksum (octets : Octets) : Octets :=
  Octets.overwrite octets 10 (Octets.ofWord16 (computedChecksum octets))

end Ipv4Header

/-! ### Datagrams -/

/-- The payload of a datagram, by protocol. -/
inductive Payload
  | icmp (message : IcmpMessage)
  | udp (segment : UdpSegment)
  | tcp (segment : Octets)
  | other (protocol : UInt8)
deriving DecidableEq

/-- A datagram: all its octets without padding, and its payload. -/
structure Datagram where
  octets : Octets
  payload : Payload
deriving DecidableEq

namespace Datagram

/-- The protocol number of TCP in an IPv4 header. -/
def tcpProtocol : UInt8 := 6

/-- The number of octets of the smallest TCP header. -/
def tcpHeaderSize : Nat := 20

/-- The header with its options. -/
def header (datagram : Datagram) : Octets :=
  datagram.octets.take (Ipv4Header.length datagram.octets)

/-- All octets after the header. -/
def body (datagram : Datagram) : Octets :=
  datagram.octets.drop (Ipv4Header.length datagram.octets)

def source (datagram : Datagram) : Ipv4Address := Ipv4Header.source datagram.octets

def destination (datagram : Datagram) : Ipv4Address := Ipv4Header.destination datagram.octets

def ttl (datagram : Datagram) : UInt8 := Ipv4Header.ttl datagram.octets

/-- The stored header checksum is the computed one. -/
def checksumHolds (datagram : Datagram) : Bool :=
  Ipv4Header.computedChecksum datagram.octets == Ipv4Header.checksum datagram.octets

/-- Classifies a payload by the protocol number. -/
def readPayload (protocol : UInt8) (body : Octets) : Except Malformed Payload :=
  if protocol = IcmpMessage.protocol then
    match IcmpMessage.read? body with
    | some message => .ok (.icmp message)
    | none => .error (.truncated .icmp)
  else if protocol = UdpSegment.protocol then
    match UdpSegment.read? body with
    | some segment => .ok (.udp segment)
    | none => .error (.truncated .udp)
  else if protocol = tcpProtocol then
    if body.length < tcpHeaderSize then .error (.truncated .tcp) else .ok (.tcp body)
  else .ok (.other protocol)

/-- Reads a datagram from octets that may go on with link padding. -/
def read (octets : Octets) : Except Malformed Datagram :=
  let headerLength := Ipv4Header.length octets
  let totalLength := Ipv4Header.totalLength octets
  if octets.length < Ipv4Header.size then .error (.truncated .ipv4)
  else if Ipv4Header.version octets ≠ 4 then .error (.invalidHeader .version)
  else if headerLength < Ipv4Header.size then .error (.invalidHeader .headerLength)
  else if totalLength < headerLength then .error (.invalidHeader .totalLength)
  else if octets.length < totalLength then .error (.truncated .ipv4)
  else
    let whole := octets.take totalLength
    match readPayload (Ipv4Header.protocol whole) (whole.drop headerLength) with
    | .ok payload => .ok ⟨whole, payload⟩
    | .error malformed => .error malformed

/-- The octets of a datagram without options; none if its length does not fit 16 bits. -/
def encode? (source destination : Ipv4Address) (protocol ttl : UInt8) (payload : Octets) :
    Option Octets :=
  let totalLength := Ipv4Header.size + payload.length
  if totalLength < 65536 then
    some <| Ipv4Header.withChecksum <|
      [0x45, 0] ++ Octets.ofWord16 (UInt16.ofNat totalLength) ++
        [0, 0, 0, 0, ttl, protocol, 0, 0] ++ source.octets ++ destination.octets ++ payload
  else none

end Datagram

end Ipv4Router
