/-
This file says what is known of a received frame once it is decoded. The datagram is
the front of what follows the link header, as long as its own total length says, so
whatever comes behind it is padding. It also describes a datagram that was aged on
its way: one less its time to live, a checksum that holds, and all else as it was.
-/

import Ipv4Router.Proofs.Wire.Ageing

namespace Ipv4Router

/-! ### Decoded frames -/

/-- A frame that carries a datagram has a whole link header of the IPv4 kind, and the datagram
is what follows it. -/
theorem Frame.read_ipv4 (octets : Octets) (link : LinkHeader) (datagram : Datagram)
    (decoded : Frame.read octets = .ok ⟨link, .ipv4 datagram⟩) :
    LinkHeader.size ≤ octets.length ∧ link = LinkHeader.read octets ∧
      link.etherType = EtherType.ipv4 ∧
      Datagram.read (octets.drop LinkHeader.size) = .ok datagram := by
  unfold Frame.read at decoded
  split at decoded
  · cases decoded
  · rename_i whole
    dsimp only at decoded
    split at decoded
    · rename_i body classified
      simp only [Except.ok.injEq, Frame.mk.injEq] at decoded
      obtain ⟨rfl, rfl⟩ := decoded
      unfold Frame.readBody at classified
      split at classified
      · split at classified <;> cases classified
      · split at classified
        · rename_i kind
          split at classified
          · rename_i found parsed
            cases classified
            exact ⟨by omega, rfl, kind, parsed⟩
          · cases classified
        · cases classified
    · cases decoded

/-- The frame of a datagram is read back as that datagram between its two stations. -/
theorem Frame.read_ofDatagram (source destination : MacAddress) (octets : Octets)
    (datagram : Datagram) (parsed : Datagram.read octets = .ok datagram) :
    Frame.read (Frame.ofDatagram source destination octets) =
      .ok ⟨⟨destination, source, EtherType.ipv4⟩, .ipv4 datagram⟩ := by
  have whole : ¬ (Frame.ofDatagram source destination octets).length < LinkHeader.size := by
    rw [Frame.ofDatagram, LinkHeader.frame, List.length_append, LinkHeader.length_octets]
    unfold LinkHeader.size
    omega
  have notArp : EtherType.ipv4 ≠ EtherType.arp := by decide
  rw [Frame.read, if_neg whole]
  simp only [Frame.ofDatagram, LinkHeader.read_frame, LinkHeader.drop_frame, Frame.readBody,
    if_neg notArp, if_true, parsed]

/-! ### Decoded datagrams -/

theorem Ipv4Header.totalLength_take (octets : Octets) (kept : Nat) (fits : 4 ≤ kept) :
    Ipv4Header.totalLength (octets.take kept) = Ipv4Header.totalLength octets := by
  rw [totalLength, totalLength, Octets.word16At, Octets.field_take _ _ _ _ fits, Octets.word16At]

theorem Ipv4Header.length_take (octets : Octets) (kept : Nat) (fits : 0 < kept) :
    Ipv4Header.length (octets.take kept) = Ipv4Header.length octets := by
  rw [length, length, Octets.octetAt_take _ _ _ fits]

namespace Datagram

/-- What a decoded datagram is: its octets are the front of those read, as many as the total
length says, and they hold the whole header. -/
structure ReadFrom (octets : Octets) (datagram : Datagram) : Prop where
  front : datagram.octets = octets.take datagram.octets.length
  length_eq : datagram.octets.length = Ipv4Header.totalLength datagram.octets
  header_fits : Ipv4Header.length datagram.octets ≤ datagram.octets.length
  header_whole : Ipv4Header.size ≤ Ipv4Header.length datagram.octets

theorem readFrom_of_read (octets : Octets) (datagram : Datagram)
    (parsed : Datagram.read octets = .ok datagram) : ReadFrom octets datagram := by
  unfold Datagram.read at parsed
  dsimp only at parsed
  split at parsed
  · cases parsed
  split at parsed
  · cases parsed
  split at parsed
  · cases parsed
  split at parsed
  · cases parsed
  split at parsed
  · cases parsed
  rename_i _ _ wholeHeader totalCovers totalPresent
  split at parsed
  · rename_i payload classified
    cases parsed
    have headerPresent : Ipv4Header.size ≤ Ipv4Header.totalLength octets := by omega
    unfold Ipv4Header.size at headerPresent
    have sameTotal := Ipv4Header.totalLength_take octets (Ipv4Header.totalLength octets)
      (by omega)
    have sameLength := Ipv4Header.length_take octets (Ipv4Header.totalLength octets) (by omega)
    have size : (octets.take (Ipv4Header.totalLength octets)).length =
        Ipv4Header.totalLength octets := by
      rw [List.length_take]; omega
    exact {
      front := by simp only [size]
      length_eq := by simp only [size, sameTotal]
      header_fits := by simp only [size, sameLength]; omega
      header_whole := by simp only [sameLength]; omega }
  · cases parsed

theorem ReadFrom.size_le {octets : Octets} {datagram : Datagram}
    (readFrom : ReadFrom octets datagram) : Ipv4Header.size ≤ datagram.octets.length :=
  le_trans readFrom.header_whole readFrom.header_fits

/-- The payload of a decoded datagram is what its protocol makes of the octets after the header. -/
theorem readPayload_of_read (octets : Octets) (datagram : Datagram)
    (parsed : Datagram.read octets = .ok datagram) :
    readPayload (Ipv4Header.protocol datagram.octets) datagram.body = .ok datagram.payload := by
  have size := (readFrom_of_read octets datagram parsed).size_le
  have sameLength := Ipv4Header.length_take octets datagram.octets.length
    (Nat.lt_of_lt_of_le (by decide) size)
  have front := (readFrom_of_read octets datagram parsed).front
  rw [← front] at sameLength
  unfold Datagram.read at parsed
  dsimp only at parsed
  iterate 5
    split at parsed
    · cases parsed
  split at parsed
  · rename_i payload classified
    cases parsed
    rw [body, sameLength]
    exact classified
  · cases parsed

theorem read?_of_readPayload (protocol : UInt8) (body : Octets) (message : IcmpMessage)
    (classified : readPayload protocol body = .ok (.icmp message)) :
    protocol = IcmpMessage.protocol ∧ IcmpMessage.read? body = some message := by
  unfold readPayload at classified
  split at classified
  · rename_i isIcmp
    split at classified
    · rename_i found readIs
      cases classified
      exact ⟨isIcmp, readIs⟩
    · cases classified
  · iterate 2
      split at classified
      · split at classified <;> cases classified
    cases classified

/-- The octets after the header leave room for a header without options. -/
theorem ReadFrom.room {octets : Octets} {datagram : Datagram}
    (readFrom : ReadFrom octets datagram) : Ipv4Header.size + datagram.body.length < 65536 := by
  have total := readFrom.length_eq
  have bound := (Octets.word16At datagram.octets 2).toNat_lt
  have fits := readFrom.header_fits
  have whole := readFrom.header_whole
  rw [Ipv4Header.totalLength] at total
  rw [body, List.length_drop]
  omega

/-- A header has at most fifteen words, so a quoted header and eight octets are short. -/
theorem length_header_le (datagram : Datagram) : datagram.header.length ≤ 60 := by
  rw [header, List.length_take, Ipv4Header.length]
  omega

/-! ### Aged datagrams -/

/-- The octets of a datagram on its way to the next hop: one less its time to live, a header
checksum that holds, and every other octet as it was received. -/
structure Aged (datagram : Datagram) (octets : Octets) : Prop where
  length_eq : octets.length = Ipv4Header.totalLength datagram.octets
  ttl_eq : (Ipv4Header.ttl octets).toNat + 1 = datagram.ttl.toNat
  checksum_holds : Ipv4Header.computedChecksum octets = Ipv4Header.checksum octets
  kept : ∀ index, index ≠ 8 → index ≠ 10 → index ≠ 11 → octets[index]? = datagram.octets[index]?

/-- The octets of a datagram with another time to live and the checksum for it. -/
def withTtl (datagram : Datagram) (ttl : UInt8) : Octets :=
  Ipv4Header.withChecksum (Octets.overwrite datagram.octets 8 [ttl])

theorem aged_withTtl (octets : Octets) (datagram : Datagram) (readFrom : ReadFrom octets datagram)
    (alive : 1 < datagram.ttl) : datagram.Aged (datagram.withTtl (datagram.ttl - 1)) := by
  have whole := readFrom.size_le
  have written : Ipv4Header.ttl (datagram.withTtl (datagram.ttl - 1)) = datagram.ttl - 1 :=
    Ipv4Header.ttl_withTtl datagram.octets _ whole
  have positive : 1 < datagram.ttl.toNat := UInt8.lt_iff_toNat_lt.mp alive
  refine ⟨?_, ?_, Ipv4Header.computedChecksum_withTtl _ _ whole,
    Ipv4Header.getElem?_withTtl _ _ whole⟩
  · rw [← readFrom.length_eq]
    exact Ipv4Header.length_withTtl datagram.octets _ whole
  · rw [written, UInt8.toNat_sub_of_le _ _ (UInt8.le_of_lt alive)]
    simp only [UInt8.toNat_one]
    omega

/-- Ageing the datagram of a frame touches neither the link header nor, once the padding is cut
off, anything but the datagram. -/
theorem decrementTtl?_eq (octets : Octets) (datagram : Datagram)
    (readFrom : ReadFrom (octets.drop LinkHeader.size) datagram) (alive : 1 < datagram.ttl) :
    Frame.decrementTtl? (octets.take (LinkHeader.size + datagram.octets.length)) =
      some (datagram.ttl - 1,
        octets.take LinkHeader.size ++ datagram.withTtl (datagram.ttl - 1)) := by
  have rest : (octets.take (LinkHeader.size + datagram.octets.length)).drop LinkHeader.size =
      datagram.octets := by
    rw [List.drop_take, Nat.add_sub_cancel_left, ← readFrom.front]
  have front : (octets.take (LinkHeader.size + datagram.octets.length)).take LinkHeader.size =
      octets.take LinkHeader.size := by
    rw [List.take_take, min_eq_left (Nat.le_add_right _ _)]
  have inTime : ¬ (datagram.octets.length < Ipv4Header.size ∨ datagram.ttl = 0) := by
    rintro (short | dead)
    · exact absurd readFrom.size_le (by omega)
    · rw [dead] at alive
      exact absurd alive (by decide)
  simp only [Frame.decrementTtl?, rest, front]
  exact if_neg inTime

end Datagram

end Ipv4Router
