/-
This file says which octets are read as a datagram. The header must not contradict
itself or the octets that it heads; then all depends on the payload, which must hold
the first header of its protocol. Nothing else in the header is looked at, not even
the place of a fragment in the datagram that it was cut from.
-/

import Ipv4Router.Proofs.Wire.Received

namespace Ipv4Router

/-! ### Headers -/

namespace Ipv4Header

/-- A header that contradicts neither itself nor the octets that it heads. -/
structure WellFormed (octets : Octets) : Prop where
  version_eq : version octets = 4
  whole : size ≤ length octets
  covers : length octets ≤ totalLength octets
  present : totalLength octets ≤ octets.length

section Front

variable (octets : Octets) (wellFormed : WellFormed octets)

include wellFormed

theorem WellFormed.size_le : size ≤ totalLength octets :=
  Nat.le_trans wellFormed.whole wellFormed.covers

theorem WellFormed.protocol_take :
    protocol (octets.take (totalLength octets)) = protocol octets :=
  Octets.octetAt_take octets _ 9 (Nat.lt_of_lt_of_le (by decide) (wellFormed.size_le octets))

theorem WellFormed.ttl_take : ttl (octets.take (totalLength octets)) = ttl octets :=
  Octets.octetAt_take octets _ 8 (Nat.lt_of_lt_of_le (by decide) (wellFormed.size_le octets))

theorem WellFormed.destination_take :
    destination (octets.take (totalLength octets)) = destination octets := by
  rw [destination, destination, Octets.field_take _ _ _ _ (wellFormed.size_le octets)]

/-- Link padding has no part in the checksum. -/
theorem WellFormed.checksum_take :
    computedChecksum (octets.take (totalLength octets)) = computedChecksum octets ∧
      checksum (octets.take (totalLength octets)) = checksum octets := by
  have enough := wellFormed.size_le octets
  have present := wellFormed.present
  have covers := wellFormed.covers
  have coverageIs : coverage (octets.take (totalLength octets)) = coverage octets := by
    rw [coverage, coverage, length_take _ _ (Nat.lt_of_lt_of_le (by decide) enough),
      List.length_take, Nat.min_eq_left present, Nat.min_eq_left covers,
      Nat.min_eq_left (Nat.le_trans covers present)]
  have covered : coverage octets ≤ totalLength octets :=
    Nat.max_le.mpr ⟨enough, Nat.le_trans (Nat.min_le_left _ _) covers⟩
  constructor
  · rw [computedChecksum, coverageIs, List.take_take, Nat.min_eq_left covered, computedChecksum]
  · rw [checksum, checksum, Octets.word16At,
      Octets.field_take _ _ _ _ (Nat.le_trans (by decide) enough), Octets.word16At]

end Front

end Ipv4Header

/-! ### Payloads -/

namespace Datagram

/-- The number of octets that the payload of a protocol must have to be read. -/
def leastPayload (protocol : UInt8) : Nat :=
  if protocol = IcmpMessage.protocol then IcmpMessage.headerSize
  else if protocol = UdpSegment.protocol then UdpSegment.headerSize
  else if protocol = tcpProtocol then tcpHeaderSize
  else 0

/-- A payload is read unless it is too short for the first header of its protocol. -/
theorem readPayload_cases (protocol : UInt8) (body : Octets) :
    (leastPayload protocol ≤ body.length ∧ ∃ payload, readPayload protocol body = .ok payload) ∨
      (body.length < leastPayload protocol ∧
        ∃ part, readPayload protocol body = .error (.truncated part)) := by
  unfold leastPayload readPayload
  by_cases isIcmp : protocol = IcmpMessage.protocol
  · simp only [if_pos isIcmp, IcmpMessage.read?]
    by_cases short : body.length < IcmpMessage.headerSize
    · exact Or.inr ⟨short, _, by rw [if_pos short]⟩
    · exact Or.inl ⟨Nat.not_lt.mp short, _, by rw [if_neg short]⟩
  · simp only [if_neg isIcmp]
    by_cases isUdp : protocol = UdpSegment.protocol
    · simp only [if_pos isUdp, UdpSegment.read?]
      by_cases short : body.length < UdpSegment.headerSize
      · exact Or.inr ⟨short, _, by rw [if_pos short]⟩
      · exact Or.inl ⟨Nat.not_lt.mp short, _, by rw [if_neg short]⟩
    · simp only [if_neg isUdp]
      by_cases isTcp : protocol = tcpProtocol
      · simp only [if_pos isTcp]
        by_cases short : body.length < tcpHeaderSize
        · exact Or.inr ⟨short, _, if_pos short⟩
        · exact Or.inl ⟨Nat.not_lt.mp short, _, if_neg short⟩
      · simp only [if_neg isTcp]
        exact Or.inl ⟨Nat.zero_le _, _, rfl⟩

/-! ### Datagrams -/

section Datagrams

variable (octets : Octets) (wellFormed : Ipv4Header.WellFormed octets)

include wellFormed

/-- Under a well-formed header, the payload decides. -/
theorem read_of_wellFormed :
    read octets =
      (readPayload (Ipv4Header.protocol octets)
        ((octets.take (Ipv4Header.totalLength octets)).drop (Ipv4Header.length octets))).map
          (Datagram.mk (octets.take (Ipv4Header.totalLength octets))) := by
  have enough := wellFormed.size_le octets
  have present := wellFormed.present
  rw [read]
  dsimp only
  rw [if_neg (by omega), if_neg (not_not_intro wellFormed.version_eq),
    if_neg (Nat.not_lt.mpr wellFormed.whole), if_neg (Nat.not_lt.mpr wellFormed.covers),
    if_neg (Nat.not_lt.mpr present), wellFormed.protocol_take]
  cases readPayload (Ipv4Header.protocol octets)
    ((octets.take (Ipv4Header.totalLength octets)).drop (Ipv4Header.length octets)) <;> rfl

theorem length_payload :
    ((octets.take (Ipv4Header.totalLength octets)).drop (Ipv4Header.length octets)).length =
      Ipv4Header.totalLength octets - Ipv4Header.length octets := by
  rw [List.length_drop, List.length_take, Nat.min_eq_left wellFormed.present]

/-- The datagram is read without the padding, unless its payload is too short. -/
theorem read_cases :
    (leastPayload (Ipv4Header.protocol octets) ≤
        Ipv4Header.totalLength octets - Ipv4Header.length octets ∧
      ∃ payload, read octets = .ok ⟨octets.take (Ipv4Header.totalLength octets), payload⟩) ∨
    (Ipv4Header.totalLength octets - Ipv4Header.length octets <
        leastPayload (Ipv4Header.protocol octets) ∧
      ∃ part, read octets = .error (.truncated part)) := by
  have payloadIs := length_payload octets wellFormed
  have readIs := read_of_wellFormed octets wellFormed
  rw [← payloadIs]
  rcases readPayload_cases (Ipv4Header.protocol octets)
    ((octets.take (Ipv4Header.totalLength octets)).drop (Ipv4Header.length octets)) with
    ⟨enough, payload, classified⟩ | ⟨short, part, classified⟩
  · exact Or.inl ⟨enough, payload, by rw [readIs, classified, Except.map]⟩
  · exact Or.inr ⟨short, part, by rw [readIs, classified, Except.map]⟩

end Datagrams

end Datagram

/-! ### Frames -/

/-- A frame of the IPv4 kind is read if its datagram is. -/
theorem Frame.read_of_ipv4 (octets : Octets) (whole : LinkHeader.size ≤ octets.length)
    (isIpv4 : (LinkHeader.read octets).etherType = EtherType.ipv4) :
    Frame.read octets =
      (Datagram.read (octets.drop LinkHeader.size)).map
        fun datagram => ⟨LinkHeader.read octets, .ipv4 datagram⟩ := by
  have notArp : EtherType.ipv4 ≠ EtherType.arp := by decide
  rw [read, if_neg (Nat.not_lt.mpr whole)]
  simp only [isIpv4, readBody, if_neg notArp, if_true]
  cases Datagram.read (octets.drop LinkHeader.size) <;> rfl

end Ipv4Router
