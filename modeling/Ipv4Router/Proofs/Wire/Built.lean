/-
This file shows that what the router builds can be read. A checksum written into an
IPv4 header holds, whatever the header; a frame, a datagram and a control message
that are built are read back as what they were built from. The checksum covers the
octets of its own field as zeros, which is why writing it does not change it.
-/

import Ipv4Router.Proofs.Checksum
import Ipv4Router.Wire.Frame

namespace Ipv4Router

/-! ### Link headers -/

namespace LinkHeader

theorem length_octets (header : LinkHeader) : header.octets.length = 14 := by
  rw [octets, List.length_append, List.length_append, MacAddress.length_octets,
    MacAddress.length_octets, Octets.length_ofWord16]

theorem drop_frame (header : LinkHeader) (payload : Octets) :
    (header.frame payload).drop size = payload :=
  List.drop_left' header.length_octets

/-- The header at the front of a frame is the one that it was built with. -/
theorem read_frame (header : LinkHeader) (payload : Octets) :
    read (header.frame payload) = header := by
  have destination : Octets.field (header.frame payload) 0 6 = header.destination.octets := rfl
  have source : Octets.field (header.frame payload) 6 6 = header.source.octets := rfl
  have kind : Octets.field (header.frame payload) 12 2 = Octets.ofWord16 header.etherType := rfl
  rw [read, destination, source, Octets.word16At, kind, MacAddress.ofOctets_octets,
    MacAddress.ofOctets_octets, Octets.ofNat_toNat_ofWord16]

end LinkHeader

/-- A frame with a whole header keeps everything behind its link addresses. -/
theorem readdress_of_whole (frame : Octets) (source destination : MacAddress)
    (whole : LinkHeader.size ≤ frame.length) :
    readdress frame source destination =
      destination.octets ++ source.octets ++ frame.drop 12 := by
  rw [readdress, readdress?, if_neg (Nat.not_lt.mpr whole), Option.getD_some]

/-- A frame with new link addresses is the old payload under a new header of the old kind. -/
theorem readdress_eq_frame (frame : Octets) (source destination : MacAddress)
    (whole : LinkHeader.size ≤ frame.length) :
    readdress frame source destination =
      LinkHeader.frame ⟨destination, source, (LinkHeader.read frame).etherType⟩
        (frame.drop LinkHeader.size) := by
  have fits : 12 + 2 ≤ frame.length := whole
  have kind : Octets.ofWord16 (LinkHeader.read frame).etherType = Octets.field frame 12 2 :=
    Octets.ofWord16_word16At frame 12 fits
  have rest : frame.drop 12 = Octets.field frame 12 2 ++ frame.drop LinkHeader.size := by
    calc frame.drop 12 = (frame.drop 12).take 2 ++ (frame.drop 12).drop 2 :=
          (List.take_append_drop 2 _).symm
      _ = Octets.field frame 12 2 ++ frame.drop LinkHeader.size := by rw [List.drop_drop]; rfl
  rw [readdress_of_whole _ _ _ whole, LinkHeader.frame, LinkHeader.octets, kind, rest]
  simp only [List.append_assoc]

/-! ### Address resolution packets -/

/-- A packet read from its octets is the packet. -/
theorem ArpPacket.read?_octets (packet : ArpPacket) : read? packet.octets = some packet := by
  have hardware : Octets.field packet.octets 0 2 = Octets.ofWord16 packet.hardware := rfl
  have protocol : Octets.field packet.octets 2 2 = Octets.ofWord16 packet.protocol := rfl
  have operation : Octets.field packet.octets 6 2 = Octets.ofWord16 packet.operation := rfl
  have senderMac : Octets.field packet.octets 8 6 = packet.senderMac.octets := rfl
  have senderAddress : Octets.field packet.octets 14 4 = packet.senderAddress.octets := rfl
  have targetMac : Octets.field packet.octets 18 6 = packet.targetMac.octets := rfl
  have targetAddress : Octets.field packet.octets 24 4 = packet.targetAddress.octets := rfl
  have whole : ¬ packet.octets.length < size := by
    have length : packet.octets.length = size := rfl
    rw [length]
    exact Nat.lt_irrefl size
  rw [read?, if_neg whole]
  simp only [Octets.word16At, hardware, protocol, operation, senderMac, senderAddress, targetMac,
    targetAddress, Octets.ofNat_toNat_ofWord16, MacAddress.ofOctets_octets,
    Ipv4Address.ofOctets_octets]
  rfl

/-! ### Header checksums -/

namespace Ipv4Header

theorem coverage_overwrite (octets : Octets) (offset : Nat) (fresh : Octets)
    (fits : offset + fresh.length ≤ octets.length) (later : 0 < offset) :
    coverage (Octets.overwrite octets offset fresh) = coverage octets := by
  rw [coverage, coverage, length, length, Octets.length_overwrite _ _ _ fits,
    Octets.octetAt_overwrite_of_lt _ _ _ fits 0 later]

/-- The checksum that a header should carry does not depend on the one that it carries. -/
theorem computedChecksum_overwrite (octets : Octets) (word : Octets) (whole : size ≤ octets.length)
    (width : word.length = 2) :
    computedChecksum (Octets.overwrite octets 10 word) = computedChecksum octets := by
  have fits : 10 + word.length ≤ octets.length := by rw [width]; unfold size at whole; omega
  have covered : 10 + word.length ≤ coverage octets := by
    rw [width, coverage]; unfold size; omega
  rw [computedChecksum, coverage_overwrite _ _ _ fits (by decide),
    Octets.take_overwrite_of_le _ _ _ _ fits covered, Octets.overwrite_overwrite, computedChecksum]
  · rw [List.length_take]; omega
  · rw [width]; rfl

/-- A header carries the checksum that was written into it. -/
theorem checksum_withChecksum (octets : Octets) (whole : size ≤ octets.length) :
    checksum (withChecksum octets) = computedChecksum octets := by
  have written : Octets.field (withChecksum octets) 10 2 =
      Octets.ofWord16 (computedChecksum octets) :=
    Octets.field_overwrite_self octets 10 (Octets.ofWord16 (computedChecksum octets))
      (by unfold size at whole; omega)
  rw [checksum, Octets.word16At, written, Octets.ofNat_toNat_ofWord16]

/-- A checksum that was written into a header holds. -/
theorem computedChecksum_withChecksum (octets : Octets) (whole : size ≤ octets.length) :
    computedChecksum (withChecksum octets) = checksum (withChecksum octets) := by
  rw [checksum_withChecksum octets whole]
  exact computedChecksum_overwrite octets _ whole (Octets.length_ofWord16 _)

/-- The octets that a checksum covers add up to all ones if it holds. -/
theorem onesSum_coverage (octets : Octets) (whole : size ≤ octets.length)
    (sound : computedChecksum octets = checksum octets) :
    Checksum.onesSum (octets.take (coverage octets)) = 65535 := by
  have covered : 20 ≤ coverage octets := Nat.le_max_left _ _
  unfold size at whole
  let front := octets.take 10
  let rest := (octets.take (coverage octets)).drop 12
  have word : Octets.ofWord16 (checksum octets) = Octets.field octets 10 2 :=
    Octets.ofWord16_word16At octets 10 (by omega)
  have parts : octets.take (coverage octets) =
      front ++ Octets.ofWord16 (checksum octets) ++ rest := by
    calc octets.take (coverage octets)
        = (octets.take (coverage octets)).take 12 ++ rest := (List.take_append_drop 12 _).symm
      _ = octets.take (10 + 2) ++ rest := by rw [List.take_take, min_eq_left (by omega)]
      _ = front ++ Octets.ofWord16 (checksum octets) ++ rest := by rw [List.take_add, word]; rfl
  have blank : Octets.overwrite (octets.take (coverage octets)) 10 [0, 0] =
      front ++ Octets.ofWord16 0 ++ rest := by
    rw [Octets.overwrite, List.take_take, min_eq_left (by omega)]
    rfl
  have even : front.length % 2 = 0 := by
    rw [List.length_take]
    omega
  have written := Checksum.onesSum_with_checksum front rest even
  rwa [← blank, ← computedChecksum, sound, ← parts] at written

theorem length_withChecksum (octets : Octets) (whole : size ≤ octets.length) :
    (withChecksum octets).length = octets.length :=
  Octets.length_overwrite octets 10 _
    (by rw [Octets.length_ofWord16]; unfold size at whole; omega)

end Ipv4Header

/-! ### Control messages -/

namespace IcmpMessage

/-- A message read from its octets is the message. -/
theorem read?_octets (message : IcmpMessage) : read? message.octets = some message := by
  have enough : ¬ message.octets.length < headerSize := by
    rw [octets, List.length_append, List.length_append, Octets.length_ofWord16]
    simp [headerSize]
  have word : Octets.field message.octets 2 2 = Octets.ofWord16 message.checksum := rfl
  rw [read?, if_neg enough, Octets.word16At, word, Octets.ofNat_toNat_ofWord16]
  rfl

theorem checksumHolds_build (kind code : UInt8) (body : Octets) :
    (build kind code body).checksumHolds = true :=
  beq_self_eq_true _

/-- A message with its checksum adds up to all ones. -/
theorem onesSum_build (kind code : UInt8) (body : Octets) :
    Checksum.onesSum (build kind code body).octets = 65535 :=
  Checksum.onesSum_with_checksum [kind, code] body (Nat.mod_self 2)

end IcmpMessage

/-! ### Datagrams -/

namespace Datagram

/-- The octets of a header without options before its checksum is written. -/
def blankHeader (source destination : Ipv4Address) (protocol ttl : UInt8) (totalLength : Nat) :
    Octets :=
  [0x45, 0] ++ Octets.ofWord16 (UInt16.ofNat totalLength) ++
    [0, 0, 0, 0, ttl, protocol, 0, 0] ++ source.octets ++ destination.octets

theorem length_blankHeader (source destination : Ipv4Address) (protocol ttl : UInt8)
    (totalLength : Nat) : (blankHeader source destination protocol ttl totalLength).length = 20 :=
  rfl

/-- A payload that leaves room for the header is put into a datagram. -/
theorem encode?_eq_some (source destination : Ipv4Address) (protocol ttl : UInt8)
    (payload : Octets) (room : Ipv4Header.size + payload.length < 65536) :
    encode? source destination protocol ttl payload =
      some (Ipv4Header.withChecksum
        (blankHeader source destination protocol ttl (Ipv4Header.size + payload.length) ++
          payload)) := by
  rw [encode?, if_pos room, blankHeader]

theorem encode?_eq_none_iff (source destination : Ipv4Address) (protocol ttl : UInt8)
    (payload : Octets) :
    encode? source destination protocol ttl payload = none ↔ 65535 < 20 + payload.length := by
  by_cases room : Ipv4Header.size + payload.length < 65536
  · rw [encode?_eq_some _ _ _ _ _ room]
    unfold Ipv4Header.size at room
    simp only [reduceCtorEq, false_iff, not_lt]
    omega
  · rw [encode?, if_neg room]
    unfold Ipv4Header.size at room
    simp only [true_iff]
    omega

/-- The octets are a datagram that takes a payload from one host to another. Its header has no
options, contradicts nothing, and has a checksum that holds. -/
structure Encloses (octets : Octets) (source destination : Ipv4Address) (protocol ttl : UInt8)
    (payload : Octets) : Prop where
  version_eq : Ipv4Header.version octets = 4
  length_eq : Ipv4Header.length octets = 20
  total_eq : Ipv4Header.totalLength octets = octets.length
  source_eq : Ipv4Header.source octets = source
  destination_eq : Ipv4Header.destination octets = destination
  protocol_eq : Ipv4Header.protocol octets = protocol
  ttl_eq : Ipv4Header.ttl octets = ttl
  sound : Ipv4Header.computedChecksum octets = Ipv4Header.checksum octets
  size_eq : octets.length = 20 + payload.length
  body_eq : octets.drop 20 = payload

/-- What is built for a payload encloses it. -/
theorem encloses_of_encode? (source destination : Ipv4Address) (protocol ttl : UInt8)
    (payload octets : Octets)
    (built : encode? source destination protocol ttl payload = some octets) :
    Encloses octets source destination protocol ttl payload := by
  have room : Ipv4Header.size + payload.length < 65536 := by
    by_contra tooLong
    rw [encode?, if_neg tooLong] at built
    cases built
  rw [encode?_eq_some _ _ _ _ _ room, Option.some_inj] at built
  have whole : Ipv4Header.size ≤ (blankHeader source destination protocol ttl
      (Ipv4Header.size + payload.length) ++ payload).length := by
    rw [List.length_append, length_blankHeader]
    exact Nat.le_add_right _ _
  have size : octets.length = 20 + payload.length := by
    rw [← built, Ipv4Header.length_withChecksum _ whole, List.length_append, length_blankHeader]
  have first : Octets.octetAt octets 0 = 0x45 := by rw [← built]; rfl
  have total : Octets.word16At octets 2 = UInt16.ofNat (Ipv4Header.size + payload.length) := by
    rw [← built]; exact Octets.ofNat_toNat_ofWord16 _
  exact
    { version_eq := by rw [Ipv4Header.version, first]; rfl
      length_eq := by rw [Ipv4Header.length, first]; rfl
      total_eq := by
        rw [Ipv4Header.totalLength, total, size, UInt16.toNat_ofNat', Nat.mod_eq_of_lt room]
        rfl
      source_eq := by rw [← built]; exact Ipv4Address.ofOctets_octets source
      destination_eq := by rw [← built]; exact Ipv4Address.ofOctets_octets destination
      protocol_eq := by rw [← built]; rfl
      ttl_eq := by rw [← built]; rfl
      sound := by rw [← built]; exact Ipv4Header.computedChecksum_withChecksum _ whole
      size_eq := size
      body_eq := by rw [← built]; rfl }

/-- The header of what encloses a payload adds up to all ones. -/
theorem Encloses.onesSum_header {octets : Octets} {source destination : Ipv4Address}
    {protocol ttl : UInt8} {payload : Octets}
    (encloses : Encloses octets source destination protocol ttl payload) :
    Checksum.onesSum (octets.take (Ipv4Header.length octets)) = 65535 := by
  have whole : 20 ≤ octets.length := by
    rw [encloses.size_eq]
    exact Nat.le_add_right _ _
  have covered : Ipv4Header.coverage octets = Ipv4Header.length octets := by
    rw [Ipv4Header.coverage, encloses.length_eq, min_eq_left whole]
    rfl
  rw [← covered]
  exact Ipv4Header.onesSum_coverage octets whole encloses.sound

/-- A payload that its protocol can read is read back from what encloses it. -/
theorem Encloses.read {octets : Octets} {source destination : Ipv4Address} {protocol ttl : UInt8}
    {payload : Octets} (encloses : Encloses octets source destination protocol ttl payload)
    (classified : Payload) (understood : readPayload protocol payload = .ok classified) :
    Datagram.read octets = .ok ⟨octets, classified⟩ := by
  have size := encloses.size_eq
  simp only [Datagram.read, encloses.total_eq, encloses.version_eq, encloses.length_eq]
  rw [if_neg (by unfold Ipv4Header.size; omega), if_neg (by decide), if_neg (by decide),
    if_neg (by omega), if_neg (by omega), List.take_length, encloses.protocol_eq,
    encloses.body_eq, understood]

end Datagram

end Ipv4Router
