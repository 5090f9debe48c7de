/-
This file holds ICMP messages. Their checksum covers the whole message, with the
checksum field itself taken as zero.
-/

import Ipv4Router.Checksum

namespace Ipv4Router

/-- An ICMP message: type, code, checksum and all that follows. -/
structure IcmpMessage where
  kind : UInt8
  code : UInt8
  checksum : UInt16
  body : Octets
deriving DecidableEq

namespace IcmpMessage

/-- The number of octets before the body. -/
def headerSize : Nat := 4

/-- The protocol number of ICMP in an IPv4 header. -/
def protocol : UInt8 := 1

/-! ### Types -/

def echoReply : UInt8 := 0

def destinationUnreachable : UInt8 := 3

def sourceQuench : UInt8 := 4

def redirect : UInt8 := 5

def echoRequest : UInt8 := 8

def timeExceeded : UInt8 := 11

def parameterProblem : UInt8 := 12

/-- The message asks to be echoed. -/
def isEchoRequest (message : IcmpMessage) : Bool := message.kind == echoRequest

/-- The message reports an error. -/
def isError (message : IcmpMessage) : Bool :=
  [destinationUnreachable, sourceQuench, redirect, timeExceeded, parameterProblem].contains
    message.kind

/-! ### Octets -/

/-- The message on the wire. -/
def octets (message : IcmpMessage) : Octets :=
  [message.kind, message.code] ++ Octets.ofWord16 message.checksum ++ message.body

/-- Reads a message. -/
def read? (octets : Octets) : Option IcmpMessage :=
  if octets.length < headerSize then none
  else some {
    kind := Octets.octetAt octets 0
    code := Octets.octetAt octets 1
    checksum := Octets.word16At octets 2
    body := octets.drop headerSize }

/-! ### Checksum -/

/-- The checksum that the message should carry. -/
def computedChecksum (message : IcmpMessage) : UInt16 :=
  Checksum.compute { message with checksum := 0 }.octets

/-- The stored checksum is the computed one. -/
def checksumHolds (message : IcmpMessage) : Bool := message.computedChecksum == message.checksum

/-- The message with its checksum. -/
def build (kind code : UInt8) (body : Octets) : IcmpMessage :=
  let blank : IcmpMessage := ⟨kind, code, 0, body⟩
  { blank with checksum := blank.computedChecksum }

end IcmpMessage

end Ipv4Router
