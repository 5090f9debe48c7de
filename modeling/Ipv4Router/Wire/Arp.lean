/-
This file holds the packets of the address resolution protocol, by which a station
asks for the link address of an IPv4 address and answers for its own.
-/

import Ipv4Router.Wire.Link
import Ipv4Router.Address.Ipv4

namespace Ipv4Router

/-- An address resolution packet. -/
structure ArpPacket where
  hardware : UInt16
  protocol : UInt16
  hardwareLength : UInt8
  protocolLength : UInt8
  operation : UInt16
  senderMac : MacAddress
  senderAddress : Ipv4Address
  targetMac : MacAddress
  targetAddress : Ipv4Address
deriving DecidableEq

namespace ArpPacket

/-- The number of octets of a packet. -/
def size : Nat := 28

/-- The operation that asks who has the target address. -/
def request : UInt16 := 1

/-- The operation that tells the sender's link address. -/
def reply : UInt16 := 2

/-- A packet about IPv4 addresses on Ethernet. -/
def overEthernet (operation : UInt16) (senderMac : MacAddress) (senderAddress : Ipv4Address)
    (targetMac : MacAddress) (targetAddress : Ipv4Address) : ArpPacket where
  hardware := 1
  protocol := EtherType.ipv4
  hardwareLength := 6
  protocolLength := 4
  operation
  senderMac
  senderAddress
  targetMac
  targetAddress

/-- The packet on the wire. -/
def octets (packet : ArpPacket) : Octets :=
  Octets.ofWord16 packet.hardware ++ Octets.ofWord16 packet.protocol ++
    [packet.hardwareLength, packet.protocolLength] ++ Octets.ofWord16 packet.operation ++
    packet.senderMac.octets ++ packet.senderAddress.octets ++
    packet.targetMac.octets ++ packet.targetAddress.octets

/-- Reads a packet; octets after it are padding. -/
def read? (octets : Octets) : Option ArpPacket :=
  if octets.length < size then none
  else some {
    hardware := Octets.word16At octets 0
    protocol := Octets.word16At octets 2
    hardwareLength := Octets.octetAt octets 4
    protocolLength := Octets.octetAt octets 5
    operation := Octets.word16At octets 6
    senderMac := .ofOctets (Octets.field octets 8 6)
    senderAddress := .ofOctets (Octets.field octets 14 4)
    targetMac := .ofOctets (Octets.field octets 18 6)
    targetAddress := .ofOctets (Octets.field octets 24 4) }

end ArpPacket

end Ipv4Router
