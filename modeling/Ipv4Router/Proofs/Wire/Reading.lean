/-
This file says exactly which octets are read, and that reading them never reaches
outside of them. A guarded reader takes every octet and every slice under a check that
they lie within the octets at hand, and has no result where one does not; it turns out to
have one always, and the same as the reader that does not check. What is read does not
depend on the link padding behind it.
-/

import Ipv4Router.Proofs.Wire.Grammar

namespace Ipv4Router

/-! ### Guarded access -/

namespace Octets

/-- The octets between two offsets; none if they do not lie within. -/
def slice? (octets : Octets) (start stop : Nat) : Option Octets :=
  if start ≤ stop ∧ stop ≤ octets.length then some ((octets.take stop).drop start) else none

/-- The 16-bit word at an offset; none if it does not lie within. -/
def word16At? (octets : Octets) (offset : Nat) : Option UInt16 :=
  (octets.slice? offset (offset + 2)).map fun word => UInt16.ofNat (toNat word)

theorem slice?_field (octets : Octets) (offset width : Nat)
    (fits : offset + width ≤ octets.length) :
    octets.slice? offset (offset + width) = some (field octets offset width) := by
  rw [slice?, if_pos ⟨Nat.le_add_right _ _, fits⟩, List.drop_take, Nat.add_sub_cancel_left, field]

theorem slice?_take (octets : Octets) (stop : Nat) (fits : stop ≤ octets.length) :
    octets.slice? 0 stop = some (octets.take stop) :=
  if_pos ⟨Nat.zero_le _, fits⟩

theorem slice?_drop (octets : Octets) (start : Nat) (fits : start ≤ octets.length) :
    octets.slice? start octets.length = some (octets.drop start) := by
  rw [slice?, if_pos ⟨fits, Nat.le_refl _⟩, List.take_length]

theorem word16At?_eq (octets : Octets) (offset : Nat) (fits : offset + 2 ≤ octets.length) :
    octets.word16At? offset = some (word16At octets offset) := by
  rw [word16At?, slice?_field _ _ _ fits, Option.map_some, word16At]

theorem getElem?_eq_octetAt (octets : Octets) (offset : Nat) (fits : offset < octets.length) :
    octets[offset]? = some (octetAt octets offset) := by
  rw [octetAt, List.getD_eq_getElem?_getD, List.getElem?_eq_getElem fits, Option.getD_some]

end Octets

/-! ### Guarded reading -/

section Guarded

open Octets

namespace IcmpMessage

def guarded (octets : Octets) : Option (Option IcmpMessage) :=
  if octets.length < headerSize then some none
  else do
    let kind ← octets[0]?
    let code ← octets[1]?
    let checksum ← octets.word16At? 2
    let body ← octets.slice? headerSize octets.length
    return some ⟨kind, code, checksum, body⟩

theorem guarded_eq (octets : Octets) : guarded octets = some (read? octets) := by
  unfold guarded read?
  split
  · rfl
  · rename_i whole
    have enough : 4 ≤ octets.length := Nat.not_lt.mp whole
    rw [getElem?_eq_octetAt octets 0 (by omega), getElem?_eq_octetAt octets 1 (by omega),
      word16At?_eq octets 2 enough, slice?_drop octets headerSize enough]
    rfl

end IcmpMessage

namespace UdpSegment

def guarded (octets : Octets) : Option (Option UdpSegment) :=
  if octets.length < headerSize then some none
  else do
    let sourcePort ← octets.word16At? 0
    let destinationPort ← octets.word16At? 2
    let length ← octets.word16At? 4
    let checksum ← octets.word16At? 6
    let body ← octets.slice? headerSize octets.length
    return some ⟨sourcePort, destinationPort, length, checksum, body⟩

theorem guarded_eq (octets : Octets) : guarded octets = some (read? octets) := by
  unfold guarded read?
  split
  · rfl
  · rename_i whole
    have enough : 8 ≤ octets.length := Nat.not_lt.mp whole
    rw [word16At?_eq octets 0 (by omega), word16At?_eq octets 2 (by omega),
      word16At?_eq octets 4 (by omega), word16At?_eq octets 6 enough,
      slice?_drop octets headerSize enough]
    rfl

end UdpSegment

namespace ArpPacket

def guarded (octets : Octets) : Option (Option ArpPacket) :=
  if octets.length < size then some none
  else do
    let hardware ← octets.word16At? 0
    let protocol ← octets.word16At? 2
    let hardwareLength ← octets[4]?
    let protocolLength ← octets[5]?
    let operation ← octets.word16At? 6
    let senderMac ← octets.slice? 8 (8 + 6)
    let senderAddress ← octets.slice? 14 (14 + 4)
    let targetMac ← octets.slice? 18 (18 + 6)
    let targetAddress ← octets.slice? 24 (24 + 4)
    return some ⟨hardware, protocol, hardwareLength, protocolLength, operation,
      .ofOctets senderMac, .ofOctets senderAddress, .ofOctets targetMac, .ofOctets targetAddress⟩

theorem guarded_eq (octets : Octets) : guarded octets = some (read? octets) := by
  unfold guarded read?
  split
  · rfl
  · rename_i whole
    have enough : 28 ≤ octets.length := Nat.not_lt.mp whole
    rw [word16At?_eq octets 0 (by omega), word16At?_eq octets 2 (by omega),
      getElem?_eq_octetAt octets 4 (by omega), getElem?_eq_octetAt octets 5 (by omega),
      word16At?_eq octets 6 (by omega), slice?_field octets 8 6 (by omega),
      slice?_field octets 14 4 (by omega), slice?_field octets 18 6 (by omega),
      slice?_field octets 24 4 enough]
    rfl

end ArpPacket

/-- What a part comes to that was read, or that was cut short. -/
def Part.outcome {Read Result : Type} (part : Part) (result : Read → Result) :
    Option Read → Except Malformed Result
  | some read => .ok (result read)
  | none => .error (.truncated part)

namespace Datagram

def guardedPayload (protocol : UInt8) (body : Octets) : Option (Except Malformed Payload) :=
  if protocol = IcmpMessage.protocol then
    (IcmpMessage.guarded body).map (Part.icmp.outcome .icmp)
  else if protocol = UdpSegment.protocol then
    (UdpSegment.guarded body).map (Part.udp.outcome .udp)
  else if protocol = tcpProtocol then
    some (if body.length < tcpHeaderSize then .error (.truncated .tcp) else .ok (.tcp body))
  else some (.ok (.other protocol))

theorem guardedPayload_eq (protocol : UInt8) (body : Octets) :
    guardedPayload protocol body = some (readPayload protocol body) := by
  unfold guardedPayload readPayload
  split
  · rw [IcmpMessage.guarded_eq]
    cases IcmpMessage.read? body <;> rfl
  · split
    · rw [UdpSegment.guarded_eq]
      cases UdpSegment.read? body <;> rfl
    · split <;> rfl

/-- Takes a datagram apart under checks. -/
def guardedParts (octets : Octets) (headerLength totalLength : Nat) :
    Option (Except Malformed Datagram) := do
  let whole ← octets.slice? 0 totalLength
  let protocol ← whole[9]?
  let body ← whole.slice? headerLength whole.length
  let payload ← guardedPayload protocol body
  return payload.map (Datagram.mk whole)

theorem guardedParts_eq (octets : Octets) (headerLength totalLength : Nat)
    (wholeHeader : Ipv4Header.size ≤ headerLength) (covered : headerLength ≤ totalLength)
    (present : totalLength ≤ octets.length) :
    guardedParts octets headerLength totalLength =
      some ((readPayload (Ipv4Header.protocol (octets.take totalLength))
        ((octets.take totalLength).drop headerLength)).map
          (Datagram.mk (octets.take totalLength))) := by
  have length_eq : (octets.take totalLength).length = totalLength := by
    rw [List.length_take, min_eq_left present]
  have numbered : 9 < (octets.take totalLength).length := by
    rw [length_eq]
    exact Nat.lt_of_lt_of_le (by decide) (Nat.le_trans wholeHeader covered)
  have headed : headerLength ≤ (octets.take totalLength).length := by rwa [length_eq]
  simp only [guardedParts, Option.bind_eq_bind, Option.bind_some, slice?_take octets _ present,
    getElem?_eq_octetAt _ 9 numbered, slice?_drop _ _ headed, guardedPayload_eq]
  rfl

/-- Reads a datagram under checks. -/
def guarded (octets : Octets) : Option (Except Malformed Datagram) :=
  if octets.length < Ipv4Header.size then some (.error (.truncated .ipv4))
  else do
    let first ← octets[0]?
    let word ← octets.word16At? 2
    let headerLength := 4 * (first.toNat % 16)
    let totalLength := word.toNat
    if first.toNat / 16 ≠ 4 then some (.error (.invalidHeader .version))
    else if headerLength < Ipv4Header.size then some (.error (.invalidHeader .headerLength))
    else if totalLength < headerLength then some (.error (.invalidHeader .totalLength))
    else if octets.length < totalLength then some (.error (.truncated .ipv4))
    else guardedParts octets headerLength totalLength

/-- Every octet that reading a datagram asks for is there. -/
theorem guarded_eq (octets : Octets) : guarded octets = some (read octets) := by
  unfold guarded read
  split
  · rfl
  · rename_i whole
    have enough : 20 ≤ octets.length := Nat.not_lt.mp whole
    simp only [getElem?_eq_octetAt octets 0 (by omega), word16At?_eq octets 2 (by omega),
      Option.bind_eq_bind, Option.bind_some]
    show (if Ipv4Header.version octets ≠ 4 then _
      else if Ipv4Header.length octets < Ipv4Header.size then _
      else if Ipv4Header.totalLength octets < Ipv4Header.length octets then _
      else if octets.length < Ipv4Header.totalLength octets then _
      else guardedParts octets (Ipv4Header.length octets) (Ipv4Header.totalLength octets)) = _
    split
    · rfl
    split
    · rfl
    split
    · rfl
    split
    · rfl
    rename_i _ wholeHeader covered present
    rw [guardedParts_eq octets _ _ (Nat.not_lt.mp wholeHeader) (Nat.not_lt.mp covered)
      (Nat.not_lt.mp present)]
    cases readPayload (Ipv4Header.protocol (octets.take (Ipv4Header.totalLength octets)))
      ((octets.take (Ipv4Header.totalLength octets)).drop (Ipv4Header.length octets)) <;> rfl

end Datagram

namespace Frame

def guardedBody (etherType : EtherType) (octets : Octets) : Option (Except Malformed FrameBody) :=
  if etherType = EtherType.arp then (ArpPacket.guarded octets).map (Part.arp.outcome .arp)
  else if etherType = EtherType.ipv4 then
    (Datagram.guarded octets).map fun datagram => datagram.map .ipv4
  else some (.ok (.other etherType))

theorem guardedBody_eq (etherType : EtherType) (octets : Octets) :
    guardedBody etherType octets = some (readBody etherType octets) := by
  unfold guardedBody readBody
  split
  · rw [ArpPacket.guarded_eq]
    cases ArpPacket.read? octets <;> rfl
  · split
    · rw [Datagram.guarded_eq]
      cases Datagram.read octets <;> rfl
    · rfl

/-- Reads a frame under checks. -/
def guarded (octets : Octets) : Option (Except Malformed Frame) :=
  if octets.length < LinkHeader.size then some (.error (.truncated .ethernet))
  else do
    let destination ← octets.slice? 0 (0 + 6)
    let source ← octets.slice? 6 (6 + 6)
    let etherType ← octets.word16At? 12
    let rest ← octets.slice? LinkHeader.size octets.length
    let body ← guardedBody etherType rest
    return body.map (Frame.mk ⟨.ofOctets destination, .ofOctets source, etherType⟩)

/-- Every octet that reading a frame asks for is there. -/
theorem guarded_eq (octets : Octets) : guarded octets = some (read octets) := by
  unfold guarded read
  split
  · rfl
  · rename_i whole
    have enough : 14 ≤ octets.length := Nat.not_lt.mp whole
    rw [slice?_field octets 0 6 (by omega), slice?_field octets 6 6 (by omega),
      word16At?_eq octets 12 enough, slice?_drop octets LinkHeader.size enough]
    simp only [Option.bind_eq_bind, Option.bind_some, guardedBody_eq]
    show some (Except.map (Frame.mk (LinkHeader.read octets))
      (readBody (LinkHeader.read octets).etherType (octets.drop LinkHeader.size))) = _
    cases readBody (LinkHeader.read octets).etherType (octets.drop LinkHeader.size) <;> rfl

end Frame

end Guarded

/-! ### Datagrams -/

namespace Datagram

/-- What octets must be like for a datagram to be read from them: a header that contradicts
neither itself nor the octets at hand, and a body that holds the first header of its protocol. -/
structure Readable (octets : Octets) : Prop where
  whole : 20 ≤ octets.length
  version_eq : Ipv4Header.version octets = 4
  header_whole : 20 ≤ Ipv4Header.length octets
  covered : Ipv4Header.length octets ≤ Ipv4Header.totalLength octets
  present : Ipv4Header.totalLength octets ≤ octets.length
  icmp_whole : Ipv4Header.protocol octets = 1 →
    4 ≤ Ipv4Header.totalLength octets - Ipv4Header.length octets
  udp_whole : Ipv4Header.protocol octets = 17 →
    8 ≤ Ipv4Header.totalLength octets - Ipv4Header.length octets
  tcp_whole : Ipv4Header.protocol octets = 6 →
    20 ≤ Ipv4Header.totalLength octets - Ipv4Header.length octets

section Reading

variable (octets : Octets)

theorem Readable.wellFormed (readable : Readable octets) : Ipv4Header.WellFormed octets :=
  ⟨readable.version_eq, readable.header_whole, readable.covered, readable.present⟩

/-- A body has the least length of its protocol if it has the one that is asked of ICMP, UDP and
TCP. -/
theorem leastPayload_le_iff (protocol : UInt8) (length : Nat) :
    leastPayload protocol ≤ length ↔
      (protocol = 1 → 4 ≤ length) ∧ (protocol = 17 → 8 ≤ length) ∧
        (protocol = 6 → 20 ≤ length) := by
  unfold leastPayload
  by_cases isIcmp : protocol = 1
  · subst isIcmp
    simp [IcmpMessage.protocol, IcmpMessage.headerSize]
  · by_cases isUdp : protocol = 17
    · subst isUdp
      simp [IcmpMessage.protocol, UdpSegment.protocol, UdpSegment.headerSize]
    · by_cases isTcp : protocol = 6
      · subst isTcp
        simp [IcmpMessage.protocol, UdpSegment.protocol, tcpProtocol, tcpHeaderSize]
      · simp [IcmpMessage.protocol, UdpSegment.protocol, tcpProtocol, isIcmp, isUdp, isTcp]

/-- Only a header that is well formed is read. -/
theorem wellFormed_of_read (datagram : Datagram) (parsed : read octets = .ok datagram) :
    Ipv4Header.WellFormed octets := by
  unfold read at parsed
  dsimp only at parsed
  split at parsed
  · cases parsed
  split at parsed
  · cases parsed
  split at parsed
  · cases parsed
  split at parsed
  · cases parsed
  split at parsed
  · cases parsed
  rename_i _ version wholeHeader covered present
  exact ⟨not_not.mp version, Nat.not_lt.mp wholeHeader, Nat.not_lt.mp covered,
    Nat.not_lt.mp present⟩

/-- Exactly the readable octets are read. -/
theorem read_iff_readable : (∃ datagram, read octets = .ok datagram) ↔ Readable octets := by
  constructor
  · rintro ⟨datagram, parsed⟩
    have wellFormed := wellFormed_of_read octets datagram parsed
    rcases read_cases octets wellFormed with ⟨enough, -⟩ | ⟨-, part, unread⟩
    · obtain ⟨icmp, udp, tcp⟩ := (leastPayload_le_iff _ _).mp enough
      exact ⟨Nat.le_trans (wellFormed.size_le octets) wellFormed.present, wellFormed.version_eq,
        wellFormed.whole, wellFormed.covers, wellFormed.present, icmp, udp, tcp⟩
    · rw [unread] at parsed
      cases parsed
  · intro readable
    rcases read_cases octets (readable.wellFormed octets) with ⟨-, payload, parsed⟩ | ⟨short, -⟩
    · exact ⟨_, parsed⟩
    · have enough := (leastPayload_le_iff _ _).mpr
        ⟨readable.icmp_whole, readable.udp_whole, readable.tcp_whole⟩
      exact absurd enough (Nat.not_le.mpr short)

theorem octets_of_read (datagram : Datagram) (parsed : read octets = .ok datagram) :
    datagram.octets = octets.take (Ipv4Header.totalLength octets) := by
  have wellFormed := wellFormed_of_read octets datagram parsed
  rcases read_cases octets wellFormed with ⟨-, payload, readIs⟩ | ⟨-, part, unread⟩
  · rw [readIs] at parsed
    cases parsed
    rfl
  · rw [unread] at parsed
    cases parsed

theorem length_header_of_read (datagram : Datagram) (parsed : read octets = .ok datagram) :
    datagram.header.length = Ipv4Header.length octets := by
  have wellFormed := wellFormed_of_read octets datagram parsed
  have readFrom := readFrom_of_read octets datagram parsed
  have same : Ipv4Header.length datagram.octets = Ipv4Header.length octets := by
    rw [octets_of_read octets datagram parsed]
    exact Ipv4Header.length_take _ _ (Nat.lt_of_lt_of_le (by decide) (wellFormed.size_le octets))
  rw [header, List.length_take, min_eq_left readFrom.header_fits, same]

/-- Link padding behind a datagram plays no part in reading it. -/
theorem read_append (padding : Octets) (datagram : Datagram)
    (parsed : read octets = .ok datagram) : read (octets ++ padding) = .ok datagram := by
  have wellFormed := wellFormed_of_read octets datagram parsed
  have whole : 20 ≤ octets.length :=
    Nat.le_trans (wellFormed.size_le octets) wellFormed.present
  have front : (octets ++ padding).take octets.length = octets := List.take_left
  have first := Octets.octetAt_take (octets ++ padding) octets.length 0 (by omega)
  have number := Octets.octetAt_take (octets ++ padding) octets.length 9 (by omega)
  have lengthIs := Ipv4Header.length_take (octets ++ padding) octets.length (by omega)
  have totalIs := Ipv4Header.totalLength_take (octets ++ padding) octets.length (by omega)
  rw [front] at first number lengthIs totalIs
  have protocolIs : Ipv4Header.protocol (octets ++ padding) = Ipv4Header.protocol octets :=
    number.symm
  have padded : Ipv4Header.WellFormed (octets ++ padding) := by
    refine ⟨?_, ?_, ?_, ?_⟩
    · rw [Ipv4Header.version, ← first]
      exact wellFormed.version_eq
    · rw [← lengthIs]
      exact wellFormed.whole
    · rw [← lengthIs, ← totalIs]
      exact wellFormed.covers
    · rw [← totalIs, List.length_append]
      exact Nat.le_add_right_of_le wellFormed.present
  rw [read_of_wellFormed _ padded, protocolIs, ← lengthIs, ← totalIs,
    List.take_append_of_le_length wellFormed.present, ← read_of_wellFormed _ wellFormed, parsed]

end Reading

end Datagram

/-! ### Frames -/

namespace Frame

/-- What octets must be like for a frame to be read from them: of most kinds, a whole link header
is enough. -/
inductive Readable (octets : Octets) : Prop
  | other (whole : 14 ≤ octets.length) (notArp : (LinkHeader.read octets).etherType ≠ 0x0806)
    (notIpv4 : (LinkHeader.read octets).etherType ≠ 0x0800)
  | arp (whole : 14 ≤ octets.length) (isArp : (LinkHeader.read octets).etherType = 0x0806)
    (packet_whole : 28 ≤ (octets.drop 14).length)
  | ipv4 (whole : 14 ≤ octets.length) (isIpv4 : (LinkHeader.read octets).etherType = 0x0800)
    (carried : ∃ datagram, Datagram.read (octets.drop 14) = .ok datagram)

theorem readBody_arp (octets : Octets) :
    (∃ body, readBody EtherType.arp octets = .ok body) ↔ 28 ≤ octets.length := by
  rw [readBody, if_pos rfl, ArpPacket.read?]
  by_cases short : octets.length < ArpPacket.size
  · rw [if_pos short]
    refine ⟨fun isRead => ?_, fun enough => absurd enough (Nat.not_le.mpr short)⟩
    obtain ⟨_, parsed⟩ := isRead
    cases parsed
  · rw [if_neg short]
    exact ⟨fun _ => Nat.not_lt.mp short, fun _ => ⟨_, rfl⟩⟩

theorem readBody_ipv4 (octets : Octets) :
    (∃ body, readBody EtherType.ipv4 octets = .ok body) ↔
      ∃ datagram, Datagram.read octets = .ok datagram := by
  have notArp : EtherType.ipv4 ≠ EtherType.arp := by decide
  rw [readBody, if_neg notArp, if_pos rfl]
  cases Datagram.read octets with
  | ok datagram => exact ⟨fun _ => ⟨datagram, rfl⟩, fun _ => ⟨_, rfl⟩⟩
  | error malformed => constructor <;> (rintro ⟨_, parsed⟩; cases parsed)

theorem read_iff_readBody (octets : Octets) (whole : LinkHeader.size ≤ octets.length) :
    (∃ frame, read octets = .ok frame) ↔ ∃ body,
      readBody (LinkHeader.read octets).etherType (octets.drop LinkHeader.size) = .ok body := by
  rw [read, if_neg (Nat.not_lt.mpr whole)]
  dsimp only
  cases readBody (LinkHeader.read octets).etherType (octets.drop LinkHeader.size) with
  | ok body => exact ⟨fun _ => ⟨body, rfl⟩, fun _ => ⟨_, rfl⟩⟩
  | error malformed => constructor <;> (rintro ⟨_, parsed⟩; cases parsed)

/-- Exactly the readable octets are read. -/
theorem read_iff_readable (octets : Octets) :
    (∃ frame, read octets = .ok frame) ↔ Readable octets := by
  constructor
  · intro isRead
    have whole : LinkHeader.size ≤ octets.length := by
      by_contra short
      obtain ⟨frame, parsed⟩ := isRead
      rw [read, if_pos (Nat.not_le.mp short)] at parsed
      cases parsed
    have bodyRead := (read_iff_readBody octets whole).mp isRead
    by_cases isArp : (LinkHeader.read octets).etherType = EtherType.arp
    · rw [isArp] at bodyRead
      exact .arp whole isArp ((readBody_arp _).mp bodyRead)
    · by_cases isIpv4 : (LinkHeader.read octets).etherType = EtherType.ipv4
      · rw [isIpv4] at bodyRead
        exact .ipv4 whole isIpv4 ((readBody_ipv4 _).mp bodyRead)
      · exact .other whole isArp isIpv4
  · intro readable
    cases readable with
    | other whole notArp notIpv4 =>
      refine (read_iff_readBody octets whole).mpr
        ⟨.other (LinkHeader.read octets).etherType, ?_⟩
      exact (if_neg notArp).trans (if_neg notIpv4)
    | arp whole isArp packet_whole =>
      refine (read_iff_readBody octets whole).mpr ?_
      rw [show (LinkHeader.read octets).etherType = EtherType.arp from isArp]
      exact (readBody_arp _).mpr packet_whole
    | ipv4 whole isIpv4 carried =>
      refine (read_iff_readBody octets whole).mpr ?_
      rw [show (LinkHeader.read octets).etherType = EtherType.ipv4 from isIpv4]
      exact (readBody_ipv4 _).mpr carried

end Frame

/-! ### Reading -/

/-- Reading asks for no octet that is not there. Exactly the octets with a sound header and a body
that is long enough for its protocol are read as a datagram: as many octets as the total length
says, the header in front and then the body, whatever padding comes behind. And a frame is read if
its kind leaves nothing to read, or if what it carries is read. -/
theorem read_grammar (octets : Octets) :
    Datagram.guarded octets = some (Datagram.read octets) ∧
      ((∃ datagram, Datagram.read octets = .ok datagram) ↔ Datagram.Readable octets) ∧
      (∀ datagram, Datagram.read octets = .ok datagram →
        datagram.octets = octets.take (Ipv4Header.totalLength octets) ∧
        datagram.header.length = Ipv4Header.length octets ∧
        datagram.header ++ datagram.body = datagram.octets ∧
        ∀ padding, Datagram.read (octets ++ padding) = .ok datagram) ∧
      Frame.guarded octets = some (Frame.read octets) ∧
      ((∃ frame, Frame.read octets = .ok frame) ↔ Frame.Readable octets) := by
  refine ⟨Datagram.guarded_eq octets, Datagram.read_iff_readable octets, ?_,
    Frame.guarded_eq octets, Frame.read_iff_readable octets⟩
  intro datagram parsed
  exact ⟨Datagram.octets_of_read octets datagram parsed,
    Datagram.length_header_of_read octets datagram parsed, List.take_append_drop _ _,
    fun padding => Datagram.read_append octets padding datagram parsed⟩

/-- A datagram with one word of options and an empty UDP segment. -/
def Datagram.optioned : Octets :=
  [0x46, 0, 0, 32, 0, 0, 0, 0, 2, 17, 0, 0, 10, 0, 0, 9, 10, 0, 1, 7, 1, 1, 1, 1] ++
    [0, 7, 0, 9, 0, 8, 0, 0]

/-- It is read with all its header and without the padding. -/
theorem read_grammar_optioned :
    ∃ datagram, Datagram.read Datagram.optioned = .ok datagram ∧ datagram.header.length = 24 ∧
      Datagram.read (Datagram.optioned ++ [0, 0]) = .ok datagram := by
  obtain ⟨-, readable, parts, -⟩ := read_grammar Datagram.optioned
  obtain ⟨datagram, parsed⟩ := readable.mpr
    ⟨by decide, by decide, by decide, by decide, by decide, by decide, by decide, by decide⟩
  obtain ⟨-, header, -, padded⟩ := parts datagram parsed
  exact ⟨datagram, parsed, header.trans (by decide), padded [0, 0]⟩

end Ipv4Router
