/-
This file shows that the messages of the routing protocol survive the wire. Entries
have one length, so cutting the body of a message into blocks gives back the octets of
every entry, and an entry read from its octets is the entry. A frame that the router
builds for a message carries this message and no other.
-/

import Ipv4Router.DistanceVector.Exchange
import Ipv4Router.Proofs.Blocks
import Ipv4Router.Proofs.Wire.Received
import Ipv4Router.Proofs.Wire.Segments

namespace Ipv4Router

/-! ### Entries -/

theorem Octets.length_ofWord32 (word : UInt32) : (ofWord32 word).length = 4 := length_ofNat 4 _

/-- A word read from the octets of a word is the word. -/
theorem Octets.ofNat_toNat_ofWord32 (word : UInt32) :
    UInt32.ofNat (toNat (ofWord32 word)) = word := by
  have bound := word.toNat_lt
  rw [ofWord32, toNat_ofNat, Nat.mod_eq_of_lt (by omega), UInt32.ofNat_toNat]

namespace RipEntry

theorem length_octets (entry : RipEntry) : entry.octets.length = size := by
  simp only [octets, List.length_append, Octets.length_ofWord16, Octets.length_ofWord32,
    Ipv4Address.length_octets, size]

/-- An entry read from its octets is the entry. -/
theorem read_octets (entry : RipEntry) : read entry.octets = entry := by
  have family : Octets.field entry.octets 0 2 = Octets.ofWord16 entry.family := rfl
  have tag : Octets.field entry.octets 2 2 = Octets.ofWord16 entry.tag := rfl
  have address : Octets.field entry.octets 4 4 = entry.address.octets := rfl
  have mask : Octets.field entry.octets 8 4 = entry.mask.octets := rfl
  have nextHop : Octets.field entry.octets 12 4 = entry.nextHop.octets := rfl
  have metric : Octets.field entry.octets 16 4 = Octets.ofWord32 entry.metric := rfl
  rw [read, Octets.word16At, Octets.word16At, Octets.word32At, family, tag, address, mask,
    nextHop, metric, Octets.ofNat_toNat_ofWord16, Octets.ofNat_toNat_ofWord16,
    Octets.ofNat_toNat_ofWord32, Ipv4Address.ofOctets_octets, Ipv4Address.ofOctets_octets,
    Ipv4Address.ofOctets_octets]

end RipEntry

/-! ### Messages -/

namespace RipMessage

theorem length_body (entries : List RipEntry) :
    (entries.flatMap RipEntry.octets).length = entries.length * RipEntry.size := by
  rw [List.length_flatMap, List.map_congr_left fun entry _ => entry.length_octets,
    List.map_const', List.sum_replicate, smul_eq_mul]

theorem length_encode (message : RipMessage) : message.encode.length = message.encodedLength := by
  rw [encode, List.length_append, length_body]
  rfl

/-- A message with no more entries than the router puts into one is short. -/
theorem length_encode_le (message : RipMessage) (few : message.entries.length ≤ maxEntries) :
    message.encode.length ≤ 504 := by
  rw [length_encode, encodedLength]
  unfold maxEntries at few
  unfold headerSize RipEntry.size
  omega

/-- A message of a version that there is, read from its octets, is the message. -/
theorem decode_encode (message : RipMessage) (versioned : message.version ≠ 0) :
    decode message.encode = .ok message := by
  have enough : ¬ message.encode.length < headerSize := by
    rw [length_encode, encodedLength]
    omega
  have command : RipCommand.ofOctet (Octets.octetAt message.encode 0) = .ok message.command := by
    show RipCommand.ofOctet message.command.octet = _
    cases message.command <;> rfl
  have version : Octets.octetAt message.encode 1 = message.version := rfl
  have body : message.encode.drop headerSize = message.entries.flatMap RipEntry.octets := rfl
  have whole : ¬ (message.entries.flatMap RipEntry.octets).length % RipEntry.size ≠ 0 := by
    rw [length_body, Nat.mul_mod_left]
    exact not_not_intro rfl
  have blocks : (Blocks.split RipEntry.size (message.entries.flatMap RipEntry.octets)).map
      RipEntry.read = message.entries := by
    rw [Blocks.split_flatMap RipEntry.size (by decide) RipEntry.octets RipEntry.length_octets,
      List.map_map]
    exact (List.map_congr_left fun entry _ => entry.read_octets).trans (List.map_id _)
  rw [decode, if_neg enough, command]
  simp only [version, body, if_neg versioned, if_neg whole, blocks]

end RipMessage

/-! ### Frames -/

namespace DistanceVector

/-- A message of the routing protocol can be read from the frame. -/
def Carries (frame : Octets) (message : RipMessage) : Prop :=
  ∃ link datagram segment, Frame.read frame = .ok ⟨link, .ipv4 datagram⟩ ∧
    datagram.payload = .udp segment ∧ RipMessage.decode segment.body = .ok message

/-- A frame carries one message at most. -/
theorem carries_unique (frame : Octets) (first second : RipMessage)
    (carriesFirst : Carries frame first) (carriesSecond : Carries frame second) :
    first = second := by
  obtain ⟨_, _, _, decoded, carried, understood⟩ := carriesFirst
  obtain ⟨_, _, _, decodedToo, carriedToo, understoodToo⟩ := carriesSecond
  cases decoded.symm.trans decodedToo
  cases carried.symm.trans carriedToo
  exact Except.ok.inj (understood.symm.trans understoodToo)

/-- The frame conveys a message from an interface to a recipient: it is read back as one segment
in one sound datagram between the two. -/
structure Conveys (ttl : UInt8) (interface : Interface) (recipient : Recipient)
    (message : RipMessage) (frame : Octets) (datagram : Datagram) (segment : UdpSegment) :
    Prop where
  decoded : Frame.read frame =
    .ok ⟨⟨recipient.mac, interface.mac, EtherType.ipv4⟩, .ipv4 datagram⟩
  source_eq : datagram.source = interface.address
  destination_eq : datagram.destination = recipient.address
  ttl_eq : datagram.ttl = ttl
  sound : datagram.checksumHolds = true
  carried : datagram.payload = .udp segment
  fromPort : segment.sourcePort = RipMessage.port
  toPort : segment.destinationPort = recipient.port
  understood : RipMessage.decode segment.body = .ok message

section Sending

variable (ttl : UInt8) (interface : Interface) (recipient : Recipient) (message : RipMessage)

/-- What is built for a message conveys it. -/
theorem messageFrame?_conveys (frame : Octets) (versioned : message.version ≠ 0)
    (built : messageFrame? ttl interface recipient message = some frame) :
    ∃ datagram segment, Conveys ttl interface recipient message frame datagram segment := by
  unfold messageFrame? at built
  obtain ⟨segment, segmentBuilt, rest⟩ := Option.bind_eq_some_iff.mp built
  obtain ⟨octets, datagramBuilt, framed⟩ := Option.bind_eq_some_iff.mp rest
  obtain rfl := Option.some_inj.mp framed
  have encloses := Datagram.encloses_of_encode? _ _ _ _ _ _ datagramBuilt
  have parsed := encloses.read _ (Datagram.readPayload_udp segment)
  have contents := UdpSegment.encloses_of_build? _ _ _ _ _ _ segmentBuilt
  exact ⟨⟨octets, .udp segment⟩, segment, Frame.read_ofDatagram _ _ _ _ parsed,
    encloses.source_eq, encloses.destination_eq, encloses.ttl_eq, beq_iff_eq.mpr encloses.sound,
    rfl, contents.sourcePort_eq, contents.destinationPort_eq,
    contents.body_eq ▸ RipMessage.decode_encode message versioned⟩

theorem messageFrame?_carries (frame : Octets) (versioned : message.version ≠ 0)
    (built : messageFrame? ttl interface recipient message = some frame) :
    Carries frame message := by
  obtain ⟨datagram, segment, conveys⟩ :=
    messageFrame?_conveys ttl interface recipient message frame versioned built
  exact ⟨_, datagram, segment, conveys.decoded, conveys.carried, conveys.understood⟩

/-- A message with no more entries than the router puts into one fits a frame. -/
theorem messageFrame?_isSome (few : message.entries.length ≤ RipMessage.maxEntries) :
    ∃ frame, messageFrame? ttl interface recipient message = some frame := by
  have short := message.length_encode_le few
  obtain ⟨segment, segmentBuilt⟩ : ∃ segment,
      UdpSegment.build? interface.address recipient.address RipMessage.port recipient.port
        message.encode = some segment := by
    rw [← Option.ne_none_iff_exists', ne_eq, UdpSegment.build?_eq_none_iff]
    omega
  have contents := UdpSegment.encloses_of_build? _ _ _ _ _ _ segmentBuilt
  have room : Ipv4Header.size + segment.octets.length < 65536 := by
    rw [UdpSegment.length_octets, contents.body_eq]
    unfold Ipv4Header.size
    omega
  unfold messageFrame?
  rw [segmentBuilt, Option.bind_eq_bind, Option.bind_some,
    Datagram.encode?_eq_some _ _ _ _ _ room]
  exact ⟨_, rfl⟩

end Sending

end DistanceVector

end Ipv4Router
