/-
This file says what a UDP segment is that the router builds, and what its checksum is
worth. A segment is built of every body that leaves room for the header, and its checksum
verifies: behind the pseudo-header, all words of the segment add up to all ones. The
checksum is zero if they add up to all ones without it. A receiver takes a zero for a
segment that nobody computed a checksum for, so these segments arrive unprotected.
-/

import Ipv4Router.Proofs.Checksum
import Ipv4Router.Proofs.Wire.Built
import Ipv4Router.Wire.Rip

namespace Ipv4Router

namespace UdpSegment

/-! ### Reading -/

theorem length_octets (segment : UdpSegment) : segment.octets.length = 8 + segment.body.length := by
  simp only [octets, List.length_append, Octets.length_ofWord16]

/-- A segment read from its octets is the segment. -/
theorem read?_octets (segment : UdpSegment) : read? segment.octets = some segment := by
  have enough : ¬ segment.octets.length < headerSize := by
    rw [length_octets, headerSize]
    omega
  have source : Octets.field segment.octets 0 2 = Octets.ofWord16 segment.sourcePort := rfl
  have destination : Octets.field segment.octets 2 2 = Octets.ofWord16 segment.destinationPort :=
    rfl
  have length : Octets.field segment.octets 4 2 = Octets.ofWord16 segment.length := rfl
  have checksum : Octets.field segment.octets 6 2 = Octets.ofWord16 segment.checksum := rfl
  rw [read?, if_neg enough, Octets.word16At, Octets.word16At, Octets.word16At, Octets.word16At,
    source, destination, length, checksum]
  simp only [Octets.ofNat_toNat_ofWord16]
  rfl

end UdpSegment

theorem Datagram.readPayload_udp (segment : UdpSegment) :
    Datagram.readPayload UdpSegment.protocol segment.octets = .ok (.udp segment) := by
  have notIcmp : UdpSegment.protocol ≠ IcmpMessage.protocol := by decide
  rw [readPayload, if_neg notIcmp, if_pos rfl, UdpSegment.read?_octets]

namespace UdpSegment

/-! ### Building -/

/-- The segment takes a body from one port to another between two hosts, with a length and a
checksum that are its own. -/
structure Encloses (segment : UdpSegment) (source destination : Ipv4Address)
    (sourcePort destinationPort : UInt16) (body : Octets) : Prop where
  sourcePort_eq : segment.sourcePort = sourcePort
  destinationPort_eq : segment.destinationPort = destinationPort
  length_eq : segment.length.toNat = 8 + body.length
  checksum_eq : segment.checksum = computedChecksum source destination segment
  body_eq : segment.body = body

section Building

variable (source destination : Ipv4Address) (sourcePort destinationPort : UInt16) (body : Octets)

theorem build?_eq_none_iff :
    build? source destination sourcePort destinationPort body = none ↔
      65535 < 8 + body.length := by
  unfold build? headerSize
  dsimp only
  split
  · simp only [reduceCtorEq, false_iff, not_lt]
    omega
  · simp only [true_iff]
    omega

/-- What is built of a body encloses it. -/
theorem encloses_of_build? (segment : UdpSegment)
    (built : build? source destination sourcePort destinationPort body = some segment) :
    Encloses segment source destination sourcePort destinationPort body := by
  unfold build? headerSize at built
  dsimp only at built
  split at built
  · rename_i room
    obtain rfl := Option.some_inj.mp built
    refine ⟨rfl, rfl, ?_, rfl, rfl⟩
    show (UInt16.ofNat (8 + body.length)).toNat = 8 + body.length
    rw [UInt16.toNat_ofNat', Nat.mod_eq_of_lt room]
  · cases built

end Building

/-! ### Verifying -/

/-- Behind the pseudo-header, a segment with its checksum adds up to all ones. -/
theorem Encloses.onesSum_eq {segment : UdpSegment} {source destination : Ipv4Address}
    {sourcePort destinationPort : UInt16} {body : Octets}
    (encloses : Encloses segment source destination sourcePort destinationPort body) :
    Checksum.onesSum (pseudoHeader source destination segment.length ++ segment.octets) =
      65535 := by
  let front := pseudoHeader source destination segment.length ++
    (Octets.ofWord16 segment.sourcePort ++ Octets.ofWord16 segment.destinationPort ++
      Octets.ofWord16 segment.length)
  have parts (checksum : UInt16) :
      pseudoHeader source destination segment.length ++ { segment with checksum }.octets =
        front ++ Octets.ofWord16 checksum ++ segment.body := by
    simp only [front, octets, List.append_assoc]
  have size : front.length = 18 := rfl
  have written := Checksum.onesSum_with_checksum front segment.body (by rw [size])
  rwa [← parts 0, ← computedChecksum, ← encloses.checksum_eq, ← parts] at written

/-- The checksum of a segment that is built verifies. It is zero, as if nobody had computed it,
exactly if the pseudo-header and the segment add up to all ones without it. -/
theorem checksum_eq_zero_iff (source destination : Ipv4Address)
    (sourcePort destinationPort : UInt16) (body : Octets) (segment : UdpSegment)
    (built : build? source destination sourcePort destinationPort body = some segment) :
    Checksum.onesSum (pseudoHeader source destination segment.length ++ segment.octets) =
        65535 ∧
      (segment.checksum = 0 ↔
        Checksum.onesSum (pseudoHeader source destination segment.length ++
          { segment with checksum := 0 }.octets) = 65535) := by
  have encloses := encloses_of_build? source destination sourcePort destinationPort body segment
    built
  refine ⟨encloses.onesSum_eq, ?_⟩
  rw [encloses.checksum_eq]
  exact Checksum.compute_eq_zero_iff _

/-! ### Two segments -/

namespace Greeting

/-- A segment with an odd number of octets. -/
def segment : UdpSegment := ⟨4000, 53, 13, 0x972b, [0x68, 0x65, 0x6c, 0x6c, 0x6f]⟩

theorem built : build? (.ofParts 10 0 0 1) (.ofParts 10 0 1 1) 4000 53 segment.body =
    some segment := by
  decide +kernel

end Greeting

/-- The words of the greeting do not add up to all ones without its checksum. -/
theorem checksum_eq_zero_iff_greeting :
    build? (.ofParts 10 0 0 1) (.ofParts 10 0 1 1) 4000 53 Greeting.segment.body =
        some Greeting.segment ∧
      Checksum.onesSum (pseudoHeader (.ofParts 10 0 0 1) (.ofParts 10 0 1 1) 13 ++
        Greeting.segment.octets) = 65535 ∧
      Greeting.segment.checksum ≠ 0 := by
  obtain ⟨verifies, zero⟩ := checksum_eq_zero_iff _ _ _ _ _ _ Greeting.built
  exact ⟨Greeting.built, verifies, zero.not.mpr (by decide +kernel)⟩

namespace Advertised

/-- What a router at 10.0.1.1 tells the others of the subnet 10.141.250.0/24 that is attached to
it. -/
def message : RipMessage :=
  .response [.inet (.ofParts 10 141 250 0) (.ofParts 255 255 255 0) (.ofParts 10 0 1 1) 0]

def segment : UdpSegment := ⟨520, 520, 32, 0, message.encode⟩

end Advertised

/-- The segment that the message is sent in has the checksum zero. -/
theorem not_checksum_ne_zero_advertised :
    build? (.ofParts 10 0 1 1) RipMessage.groupAddress RipMessage.port RipMessage.port
        Advertised.message.encode = some Advertised.segment ∧
      Advertised.segment.checksum = 0 := by
  decide +kernel

end UdpSegment

end Ipv4Router
