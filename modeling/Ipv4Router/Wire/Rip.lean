/-
This file holds the messages of the routing information protocol, version 2: a
command, a version and up to 25 entries of 20 octets each. Reading a written
message gives it back; a message is refused for the first fault of length, command,
version and record length, in this order.
-/

import Ipv4Router.Address.Ipv4
import Ipv4Router.Address.Mac
import Ipv4Router.Blocks
import Ipv4Router.Wire.Malformed

namespace Ipv4Router

/-! ### Entries -/

/-- One advertised or asked destination. -/
structure RipEntry where
  family : UInt16
  tag : UInt16
  address : Ipv4Address
  mask : Ipv4Address
  nextHop : Ipv4Address
  metric : UInt32
deriving DecidableEq

namespace RipEntry

/-- The number of octets of an entry. -/
def size : Nat := 20

/-- The metric of an unreachable destination. -/
def infinity : UInt32 := 16

/-- The address family of IPv4. -/
def inetFamily : UInt16 := 2

/-- An entry about an IPv4 destination. -/
def inet (address mask nextHop : Ipv4Address) (metric : UInt32) : RipEntry where
  family := inetFamily
  tag := 0
  address
  mask
  nextHop
  metric

/-- The entry that asks for all routes. -/
def wholeTable : RipEntry where
  family := 0
  tag := 0
  address := .unspecified
  mask := .unspecified
  nextHop := .unspecified
  metric := infinity

/-- The entry is about an IPv4 destination. -/
def isInet (entry : RipEntry) : Bool := entry.family == inetFamily

/-- The address has no bit outside the mask. -/
def isNetwork (entry : RipEntry) : Bool := entry.address.isNetworkOf entry.mask

/-- The entry on the wire. -/
def octets (entry : RipEntry) : Octets :=
  Octets.ofWord16 entry.family ++ Octets.ofWord16 entry.tag ++ entry.address.octets ++
    entry.mask.octets ++ entry.nextHop.octets ++ Octets.ofWord32 entry.metric

/-- The entry written in 20 octets. -/
def read (octets : Octets) : RipEntry where
  family := Octets.word16At octets 0
  tag := Octets.word16At octets 2
  address := .ofOctets (Octets.field octets 4 4)
  mask := .ofOctets (Octets.field octets 8 4)
  nextHop := .ofOctets (Octets.field octets 12 4)
  metric := Octets.word32At octets 16

/-- The entry with the names of its fields, for the log. -/
def text (entry : RipEntry) : String :=
  s!"RipEntry \x7b address_family: {entry.family}, route_tag: {entry.tag}, " ++
  s!"address: {entry.address}, mask: {entry.mask}, next_hop: {entry.nextHop}, " ++
  s!"metric: {entry.metric} \x7d"

end RipEntry

/-! ### Messages -/

/-- What a message does. -/
inductive RipCommand
  | request
  | response
deriving DecidableEq

namespace RipCommand

def octet : RipCommand → UInt8
  | request => 1
  | response => 2

def ofOctet (octet : UInt8) : Except Malformed RipCommand :=
  if octet = 1 then .ok request
  else if octet = 2 then .ok response
  else .error (.unknownCommand octet)

/-- The name of the command, for the log. -/
def text : RipCommand → String
  | request => "Request"
  | response => "Response"

end RipCommand

/-- A message. -/
structure RipMessage where
  command : RipCommand
  version : UInt8
  entries : List RipEntry
deriving DecidableEq

namespace RipMessage

/-- The UDP port of the protocol. -/
def port : UInt16 := 520

/-- The version of the messages that the router sends. -/
def version2 : UInt8 := 2

/-- The group of all routers that speak the protocol. -/
def groupAddress : Ipv4Address := .ofParts 224 0 0 9

/-- The link address of that group. -/
def groupMac : MacAddress := .ofOctets [0x01, 0x00, 0x5e, 0x00, 0x00, 0x09]

/-- The number of octets before the entries. -/
def headerSize : Nat := 4

/-- The greatest number of entries of a message that the router sends. -/
def maxEntries : Nat := 25

/-- The request for all routes. -/
def wholeTableRequest : RipMessage := ⟨.request, version2, [.wholeTable]⟩

def response (entries : List RipEntry) : RipMessage := ⟨.response, version2, entries⟩

/-- The responses that together carry the entries; one empty response if there are none. -/
def responses (entries : List RipEntry) : List RipMessage :=
  if entries.isEmpty then [response []] else (Blocks.split maxEntries entries).map response

/-- A request asks for all routes if it has no entry, or only one of family 0 and infinite
metric. -/
def asksWholeTable (message : RipMessage) : Bool :=
  match message.command, message.entries with
  | .request, [] => true
  | .request, [entry] => entry.family == 0 && entry.metric == RipEntry.infinity
  | _, _ => false

/-- The number of octets of the message. -/
def encodedLength (message : RipMessage) : Nat :=
  headerSize + message.entries.length * RipEntry.size

/-- The message on the wire. -/
def encode (message : RipMessage) : Octets :=
  [message.command.octet, message.version, 0, 0] ++ message.entries.flatMap RipEntry.octets

/-- Reads a message. -/
def decode (octets : Octets) : Except Malformed RipMessage :=
  if octets.length < headerSize then .error (.truncated .rip)
  else
    match RipCommand.ofOctet (Octets.octetAt octets 0) with
    | .error malformed => .error malformed
    | .ok command =>
      let version := Octets.octetAt octets 1
      let records := octets.drop headerSize
      if version = 0 then .error (.unsupportedVersion version)
      else if records.length % RipEntry.size ≠ 0 then .error (.truncated .ripEntry)
      else .ok ⟨command, version, (Blocks.split RipEntry.size records).map RipEntry.read⟩

end RipMessage

end Ipv4Router
