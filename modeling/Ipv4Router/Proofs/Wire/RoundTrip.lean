/-
This file shows that reading undoes building. Segments and datagrams are built of whatever
is short enough for their lengths to be written in 16 bits. A frame of a segment in a
datagram is read back, with or without padding behind it, as all that it was built from;
and a datagram with any other payload is read back if the payload is long enough for its
protocol.
-/

import Ipv4Router.Proofs.Wire.Reading
import Ipv4Router.Proofs.Wire.Segments

namespace Ipv4Router

namespace Datagram

section Enclosing

variable {octets : Octets} {source destination : Ipv4Address} {protocol ttl : UInt8}
  {payload : Octets} (encloses : Encloses octets source destination protocol ttl payload)

include encloses

theorem Encloses.wellFormed : Ipv4Header.WellFormed octets where
  version_eq := encloses.version_eq
  whole := Nat.le_of_eq encloses.length_eq.symm
  covers := by
    rw [encloses.length_eq, encloses.total_eq, encloses.size_eq]
    exact Nat.le_add_right _ _
  present := Nat.le_of_eq encloses.total_eq

/-- An enclosed payload is read if it is long enough for its protocol. -/
theorem Encloses.read_iff :
    (∃ datagram, Datagram.read octets = .ok datagram) ↔ leastPayload protocol ≤ payload.length := by
  have size : Ipv4Header.totalLength octets - Ipv4Header.length octets = payload.length := by
    rw [encloses.total_eq, encloses.size_eq, encloses.length_eq, Nat.add_sub_cancel_left]
  have cases := read_cases octets encloses.wellFormed
  rw [size, encloses.protocol_eq] at cases
  rcases cases with ⟨enough, payload, parsed⟩ | ⟨short, part, unread⟩
  · exact ⟨fun _ => enough, fun _ => ⟨_, parsed⟩⟩
  · refine ⟨fun isRead => ?_, fun enough => absurd enough (Nat.not_le.mpr short)⟩
    obtain ⟨datagram, parsed⟩ := isRead
    cases unread.symm.trans parsed

/-- All that is enclosed is read, and the payload is taken for what its protocol makes of it. -/
theorem Encloses.octets_of_read (datagram : Datagram)
    (parsed : Datagram.read octets = .ok datagram) :
    datagram.octets = octets ∧ datagram.body = payload ∧
      readPayload protocol payload = .ok datagram.payload := by
  have whole : datagram.octets = octets := by
    rw [Datagram.octets_of_read octets datagram parsed, encloses.total_eq, List.take_length]
  have body : datagram.body = payload := by
    rw [Datagram.body, whole, encloses.length_eq, encloses.body_eq]
  have classified := readPayload_of_read octets datagram parsed
  rw [whole, encloses.protocol_eq, body] at classified
  exact ⟨whole, body, classified⟩

end Enclosing

end Datagram

namespace Frame

/-- Octets behind the datagram of a frame are octets behind the frame. -/
theorem ofDatagram_append (source destination : MacAddress) (datagram padding : Octets) :
    ofDatagram source destination datagram ++ padding =
      ofDatagram source destination (datagram ++ padding) := by
  rw [ofDatagram, ofDatagram, LinkHeader.frame, LinkHeader.frame, List.append_assoc]

/-- A frame of a datagram is read back as that datagram between its two stations, whatever padding
comes behind it. -/
theorem read_ofDatagram_append (source destination : MacAddress) (octets padding : Octets)
    (datagram : Datagram) (parsed : Datagram.read octets = .ok datagram) :
    Frame.read (ofDatagram source destination octets ++ padding) =
      .ok ⟨⟨destination, source, EtherType.ipv4⟩, .ipv4 datagram⟩ := by
  rw [ofDatagram_append]
  exact read_ofDatagram _ _ _ _ (Datagram.read_append octets padding datagram parsed)

/-- Reading undoes building. No segment and no datagram is built exactly if it would be longer than
65535 octets. What is built of a body is read back from the frame, whatever comes behind it: the
stations, the hosts and the time to live, and a segment with the ports, the body and its length.
Both checksums are such that header and segment add up to all ones. Of any protocol, a datagram
that is built is read back if the payload is long enough for the protocol, as the hosts, the time
to live, the protocol and the payload that it was built from. -/
theorem read_undoes_building (source destination : Ipv4Address) (ttl : UInt8) :
    (∀ sourcePort destinationPort body,
      (UdpSegment.build? source destination sourcePort destinationPort body = none ↔
        65535 < 8 + body.length) ∧
      ∀ segment octets,
        UdpSegment.build? source destination sourcePort destinationPort body = some segment →
        Datagram.encode? source destination UdpSegment.protocol ttl segment.octets = some octets →
        ∀ sourceMac destinationMac padding, ∃ datagram,
          read (ofDatagram sourceMac destinationMac octets ++ padding) =
            .ok ⟨⟨destinationMac, sourceMac, EtherType.ipv4⟩, .ipv4 datagram⟩ ∧
          datagram.source = source ∧ datagram.destination = destination ∧ datagram.ttl = ttl ∧
          datagram.checksumHolds = true ∧ Checksum.onesSum datagram.header = 65535 ∧
          datagram.payload = .udp segment ∧ segment.sourcePort = sourcePort ∧
          segment.destinationPort = destinationPort ∧ segment.body = body ∧
          segment.length.toNat = 8 + body.length ∧
          Checksum.onesSum (UdpSegment.pseudoHeader source destination segment.length ++
            segment.octets) = 65535) ∧
    ∀ protocol payload,
      (Datagram.encode? source destination protocol ttl payload = none ↔
        65535 < 20 + payload.length) ∧
      ∀ octets, Datagram.encode? source destination protocol ttl payload = some octets →
        ((∃ datagram, Datagram.read octets = .ok datagram) ↔
          (protocol = 1 → 4 ≤ payload.length) ∧ (protocol = 17 → 8 ≤ payload.length) ∧
            (protocol = 6 → 20 ≤ payload.length)) ∧
        ∀ datagram, Datagram.read octets = .ok datagram →
          (∀ padding, Datagram.read (octets ++ padding) = .ok datagram) ∧
          datagram.source = source ∧ datagram.destination = destination ∧ datagram.ttl = ttl ∧
          Ipv4Header.protocol datagram.octets = protocol ∧ datagram.checksumHolds = true ∧
          Checksum.onesSum datagram.header = 65535 ∧ datagram.body = payload ∧
          Datagram.readPayload protocol payload = .ok datagram.payload := by
  constructor
  · intro sourcePort destinationPort body
    refine ⟨UdpSegment.build?_eq_none_iff _ _ _ _ _,
      fun segment octets segmentBuilt built sourceMac destinationMac padding => ?_⟩
    have contents := UdpSegment.encloses_of_build? _ _ _ _ _ _ segmentBuilt
    have encloses := Datagram.encloses_of_encode? _ _ _ _ _ _ built
    have parsed := encloses.read _ (Datagram.readPayload_udp segment)
    exact ⟨⟨octets, .udp segment⟩, read_ofDatagram_append _ _ _ _ _ parsed, encloses.source_eq,
      encloses.destination_eq, encloses.ttl_eq, beq_iff_eq.mpr encloses.sound,
      encloses.onesSum_header, rfl, contents.sourcePort_eq, contents.destinationPort_eq,
      contents.body_eq, contents.length_eq, contents.onesSum_eq⟩
  · intro protocol payload
    refine ⟨Datagram.encode?_eq_none_iff _ _ _ _ _, fun octets built => ?_⟩
    have encloses := Datagram.encloses_of_encode? _ _ _ _ _ _ built
    refine ⟨encloses.read_iff.trans (Datagram.leastPayload_le_iff _ _), fun datagram parsed => ?_⟩
    obtain ⟨whole, body, classified⟩ := encloses.octets_of_read datagram parsed
    obtain ⟨stored, payload⟩ := datagram
    obtain rfl : stored = octets := whole
    exact ⟨fun padding => Datagram.read_append _ padding _ parsed, encloses.source_eq,
      encloses.destination_eq, encloses.ttl_eq, encloses.protocol_eq,
      beq_iff_eq.mpr encloses.sound, encloses.onesSum_header, body, classified⟩

/-- The greeting is read back from a padded frame, and the datagram around it from the frame's
datagram alone. -/
theorem read_undoes_building_greeting :
    ∃ octets datagram,
      Datagram.encode? (.ofParts 10 0 0 1) (.ofParts 10 0 1 1) UdpSegment.protocol 64
        UdpSegment.Greeting.segment.octets = some octets ∧
      read (ofDatagram .zero .broadcast octets ++ [0, 0, 0]) =
        .ok ⟨⟨.broadcast, .zero, EtherType.ipv4⟩, .ipv4 datagram⟩ ∧
      datagram.ttl = 64 ∧ datagram.payload = .udp UdpSegment.Greeting.segment ∧
      ∃ alone, Datagram.read octets = .ok alone ∧
        alone.body = UdpSegment.Greeting.segment.octets := by
  obtain ⟨segments, datagrams⟩ :=
    read_undoes_building (.ofParts 10 0 0 1) (.ofParts 10 0 1 1) 64
  obtain ⟨unbuilt, alone⟩ := datagrams UdpSegment.protocol UdpSegment.Greeting.segment.octets
  obtain ⟨octets, built⟩ := Option.ne_none_iff_exists'.mp (unbuilt.not.mpr (by decide))
  obtain ⟨datagram, decoded, -, -, life, -, -, carried, -⟩ := (segments _ _ _).2
    UdpSegment.Greeting.segment octets UdpSegment.Greeting.built built .zero .broadcast [0, 0, 0]
  obtain ⟨readable, parts⟩ := alone octets built
  obtain ⟨same, parsed⟩ := readable.mpr (by decide)
  obtain ⟨-, -, -, -, -, -, -, body, -⟩ := parts same parsed
  exact ⟨octets, datagram, built, decoded, life, carried, same, parsed, body⟩

end Frame

end Ipv4Router
