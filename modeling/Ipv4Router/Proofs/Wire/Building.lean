/-
This file says that building never reaches outside of the octets at hand. A guarded builder takes
a buffer of zeros, asks whether the header fits before it writes a field, writes every field under
a check that it lies within, and puts the payload where the header says that it is, only if it
fills this place exactly. It has no result where a check fails. It turns out to have one whenever
the length fits the header's own field, and the same as the builder that does not check.
-/

import Ipv4Router.DistanceVector.Exchange
import Ipv4Router.Neighbor.Resolution
import Ipv4Router.Proofs.Wire.Segments

namespace Ipv4Router

/-! ### Guarded writing -/

namespace Octets

def zeros (count : Nat) : Octets := List.replicate count 0

theorem length_zeros (count : Nat) : (zeros count).length = count := List.length_replicate

/-- The octets, to write a header into; none if they are fewer than the header has. -/
def view? (octets : Octets) (size : Nat) : Option Octets :=
  if octets.length < size then none else some octets

/-- The octets with those from an offset on replaced; none if these do not lie within. -/
def write? (octets : Octets) (offset : Nat) (fresh : Octets) : Option Octets :=
  if offset + fresh.length ≤ octets.length then some (overwrite octets offset fresh) else none

/-- The octets with fields written into them, each at its offset. -/
def writeAll? (octets : Octets) (fields : List (Nat × Octets)) : Option Octets :=
  fields.foldlM (fun octets field => octets.write? field.1 field.2) octets

/-- The octets with those between two offsets replaced; none if these do not lie within, or are
not as many as replace them. -/
def fill? (octets : Octets) (start stop : Nat) (fresh : Octets) : Option Octets :=
  if start + fresh.length = stop ∧ stop ≤ octets.length then some (overwrite octets start fresh)
  else none

section Writing

variable (front rest : Octets)

theorem overwrite_append (offset : Nat) (fresh : Octets)
    (fits : offset + fresh.length ≤ front.length) :
    overwrite (front ++ rest) offset fresh = overwrite front offset fresh ++ rest := by
  rw [overwrite, overwrite, List.take_append_of_le_length (by omega),
    List.drop_append_of_le_length fits, List.append_assoc _ _ rest]

theorem overwrite_behind (fresh : Octets) (same : rest.length = fresh.length) :
    overwrite (front ++ rest) front.length fresh = front ++ fresh := by
  rw [overwrite, List.take_left, ← same, ← List.length_append, List.drop_length, List.append_nil]

theorem write?_word16 (octets : Octets) (offset : Nat) (word : UInt16)
    (fits : offset + 2 ≤ octets.length) :
    write? octets offset (ofWord16 word) = some (overwrite octets offset (ofWord16 word)) :=
  if_pos (by rwa [length_ofWord16])

theorem writeAll?_cons (octets : Octets) (offset : Nat) (field : Octets)
    (fields : List (Nat × Octets)) :
    writeAll? octets ((offset, field) :: fields) =
      (write? octets offset field).bind fun octets => writeAll? octets fields := rfl

/-- What lies behind the fields is not written to. -/
theorem writeAll?_append (fields : List (Nat × Octets)) (written : Octets)
    (writes : writeAll? front fields = some written) :
    writeAll? (front ++ rest) fields = some (written ++ rest) := by
  induction fields generalizing front with
  | nil =>
    obtain rfl := Option.some_inj.mp writes
    rfl
  | cons field fields inductionHypothesis =>
    obtain ⟨offset, field⟩ := field
    rw [writeAll?_cons] at writes ⊢
    by_cases fits : offset + field.length ≤ front.length
    · have within : offset + field.length ≤ (front ++ rest).length := by
        rw [List.length_append]
        omega
      rw [write?, if_pos fits, Option.bind_some] at writes
      rw [write?, if_pos within, Option.bind_some, overwrite_append _ _ _ _ fits]
      exact inductionHypothesis _ writes
    · rw [write?, if_neg fits] at writes
      cases writes

end Writing

/-- The fields follow each other between two offsets, maybe with gaps. -/
def Laid (start stop : Nat) : List (Nat × Octets) → Prop
  | [] => start ≤ stop
  | (offset, field) :: rest => start ≤ offset ∧ Laid (offset + field.length) stop rest

/-- The octets between two offsets of which fields are a part, and which are zero in the gaps. -/
def layout (start stop : Nat) : List (Nat × Octets) → Octets
  | [] => zeros (stop - start)
  | (offset, field) :: rest =>
    zeros (offset - start) ++ field ++ layout (offset + field.length) stop rest

theorem Laid.le {start stop : Nat} {fields : List (Nat × Octets)}
    (laid : Laid start stop fields) : start ≤ stop := by
  induction fields generalizing start with
  | nil => exact laid
  | cons field rest inductionHypothesis =>
    exact Nat.le_trans laid.1 (Nat.le_trans (Nat.le_add_right _ _) (inductionHypothesis laid.2))

theorem length_layout {start stop : Nat} {fields : List (Nat × Octets)}
    (laid : Laid start stop fields) : (layout start stop fields).length = stop - start := by
  induction fields generalizing start with
  | nil => exact length_zeros _
  | cons field rest inductionHypothesis =>
    have behind := laid.2.le
    have before := laid.1
    rw [layout, List.length_append, List.length_append, inductionHypothesis laid.2, length_zeros]
    omega

/-- A field is written into zeros, some of which stay before it and some behind it. -/
theorem write?_zeros (done : Octets) (stop offset : Nat) (field : Octets)
    (before : done.length ≤ offset) (behind : offset + field.length ≤ stop) :
    write? (done ++ zeros (stop - done.length)) offset field =
      some (done ++ zeros (offset - done.length) ++ field ++
        zeros (stop - (offset + field.length))) := by
  let front := done ++ zeros (offset - done.length)
  have reached : front.length = offset := by
    rw [List.length_append, length_zeros]
    omega
  have parts : done ++ zeros (stop - done.length) =
      front ++ zeros field.length ++ zeros (stop - (offset + field.length)) := by
    have count : stop - done.length =
        offset - done.length + (field.length + (stop - (offset + field.length))) := by omega
    rw [count, zeros, List.replicate_add, List.replicate_add, ← List.append_assoc,
      ← List.append_assoc]
    rfl
  have inside : offset + field.length ≤ (front ++ zeros field.length).length := by
    rw [List.length_append, reached, length_zeros]
  have replaced := overwrite_behind front (zeros field.length) field (length_zeros _)
  rw [reached] at replaced
  rw [parts, write?, if_pos (by rw [List.length_append]; omega), overwrite_append _ _ _ _ inside,
    replaced]

/-- Fields that follow each other are written into zeros one by one. -/
theorem writeAll?_zeros (done : Octets) (stop : Nat) (fields : List (Nat × Octets))
    (laid : Laid done.length stop fields) :
    writeAll? (done ++ zeros (stop - done.length)) fields =
      some (done ++ layout done.length stop fields) := by
  induction fields generalizing done with
  | nil => rfl
  | cons field rest inductionHypothesis =>
    obtain ⟨offset, field⟩ := field
    have before : done.length ≤ offset := laid.1
    have written := write?_zeros done stop offset field before laid.2.le
    -- With the field, what is done reaches to the field's end, where the others go on.
    have reached : (done ++ zeros (offset - done.length) ++ field).length =
        offset + field.length := by
      rw [List.length_append, List.length_append, length_zeros]
      omega
    have others := inductionHypothesis (done ++ zeros (offset - done.length) ++ field)
      (by rw [reached]; exact laid.2)
    rw [reached] at others
    rw [writeAll?_cons, written, Option.bind_some, others, layout, List.append_assoc,
      List.append_assoc, List.append_assoc]

theorem writeAll?_blank (stop : Nat) (fields : List (Nat × Octets)) (laid : Laid 0 stop fields) :
    writeAll? (zeros stop) fields = some (layout 0 stop fields) :=
  writeAll?_zeros [] stop fields laid

/-- A packet is built in a buffer of zeros: the fields of its header, then the payload, in the place
that the header says. -/
def packet? (size : Nat) (fields : List (Nat × Octets)) (place : Octets → Nat × Nat)
    (payload : Octets) : Option Octets := do
  let blank ← (zeros (size + payload.length)).view? size
  let headed ← blank.writeAll? fields
  headed.fill? (place headed).1 (place headed).2 payload

/-- A packet is built if its fields follow each other within the header, and this says that the
payload is all behind it. -/
theorem packet?_eq (size : Nat) (fields : List (Nat × Octets)) (place : Octets → Nat × Nat)
    (payload : Octets) (laid : Laid 0 size fields)
    (placed : place (layout 0 size fields ++ zeros payload.length) =
      (size, size + payload.length)) :
    packet? size fields place payload = some (layout 0 size fields ++ payload) := by
  have length_eq : (layout 0 size fields).length = size := length_layout laid
  have room : ¬ (zeros (size + payload.length)).length < size := by
    rw [length_zeros]
    omega
  have headed : writeAll? (zeros (size + payload.length)) fields =
      some (layout 0 size fields ++ zeros payload.length) := by
    rw [zeros, List.replicate_add]
    exact writeAll?_append _ _ fields _ (writeAll?_blank size fields laid)
  have inside : size + payload.length ≤ (layout 0 size fields ++ zeros payload.length).length := by
    rw [List.length_append, length_eq, length_zeros]
  have filled : fill? (layout 0 size fields ++ zeros payload.length) size (size + payload.length)
      payload = some (layout 0 size fields ++ payload) := by
    have replaced := overwrite_behind (layout 0 size fields) _ payload (length_zeros payload.length)
    rw [length_eq] at replaced
    rw [fill?, if_pos ⟨rfl, inside⟩, replaced]
  simp only [packet?, view?, if_neg room, Option.bind_eq_bind, Option.bind_some, headed, placed,
    filled]

/-- The place of a payload that is all behind the header. -/
def behind (size : Nat) (octets : Octets) : Nat × Nat := (size, octets.length)

theorem packet?_behind (size : Nat) (fields : List (Nat × Octets)) (payload : Octets)
    (laid : Laid 0 size fields) :
    packet? size fields (behind size) payload = some (layout 0 size fields ++ payload) := by
  have placed : behind size (layout 0 size fields ++ zeros payload.length) =
      (size, size + payload.length) := by
    rw [behind, List.length_append, length_layout laid, length_zeros, Nat.sub_zero]
  exact packet?_eq size fields (behind size) payload laid placed

end Octets

/-! ### Headers -/

section Guarded

open Octets

/-- A frame, built under checks. -/
def LinkHeader.assemble? (header : LinkHeader) (payload : Octets) : Option Octets :=
  packet? size
    [(0, header.destination.octets), (6, header.source.octets), (12, ofWord16 header.etherType)]
    (behind size) payload

theorem LinkHeader.assemble?_eq (header : LinkHeader) (payload : Octets) :
    header.assemble? payload = some (header.frame payload) := by
  rw [assemble?, packet?_behind]
  · simp [layout, zeros, frame, octets, MacAddress.length_octets, length_ofWord16, size]
  · simp [Laid, MacAddress.length_octets, length_ofWord16, size]

/-- An address resolution packet, built under checks. -/
def ArpPacket.assemble? (packet : ArpPacket) : Option Octets :=
  packet? size
    [(0, ofWord16 packet.hardware), (2, ofWord16 packet.protocol), (4, [packet.hardwareLength]),
      (5, [packet.protocolLength]), (6, ofWord16 packet.operation), (8, packet.senderMac.octets),
      (14, packet.senderAddress.octets), (18, packet.targetMac.octets),
      (24, packet.targetAddress.octets)]
    (behind size) []

theorem ArpPacket.assemble?_eq (packet : ArpPacket) :
    packet.assemble? = some packet.octets := by
  rw [assemble?, packet?_behind]
  · simp [layout, zeros, octets, MacAddress.length_octets, Ipv4Address.length_octets,
      length_ofWord16, size]
  · simp [Laid, MacAddress.length_octets, Ipv4Address.length_octets, length_ofWord16, size]

namespace UdpSegment

/-- The fields of a header, without the checksum. -/
def fields (sourcePort destinationPort length : UInt16) : List (Nat × Octets) :=
  [(0, ofWord16 sourcePort), (2, ofWord16 destinationPort), (4, ofWord16 length)]

/-- The octets of a segment, built under checks. -/
def assemble? (source destination : Ipv4Address) (sourcePort destinationPort : UInt16)
    (body : Octets) : Option Octets :=
  let length := headerSize + body.length
  if length < 65536 then do
    let blank ← packet? headerSize (fields sourcePort destinationPort (UInt16.ofNat length))
      (behind headerSize) body
    blank.write? 6 (ofWord16 (Checksum.compute
      (pseudoHeader source destination (UInt16.ofNat length) ++ blank)))
  else none

theorem packet?_fields (sourcePort destinationPort length : UInt16) (body : Octets) :
    packet? headerSize (fields sourcePort destinationPort length) (behind headerSize) body =
      some (UdpSegment.octets ⟨sourcePort, destinationPort, length, 0, body⟩) := by
  have laid : Laid 0 headerSize (fields sourcePort destinationPort length) :=
    ⟨Nat.le_refl 0, Nat.le_refl 2, Nat.le_refl 4, show 6 ≤ 8 by decide⟩
  have header : layout 0 headerSize (fields sourcePort destinationPort length) =
      ofWord16 sourcePort ++ ofWord16 destinationPort ++ ofWord16 length ++ ofWord16 0 := rfl
  rw [packet?_behind headerSize _ body laid, header]
  rfl

theorem assemble?_eq (source destination : Ipv4Address) (sourcePort destinationPort : UInt16)
    (body : Octets) :
    assemble? source destination sourcePort destinationPort body =
      (build? source destination sourcePort destinationPort body).map octets := by
  unfold assemble? build?
  dsimp only
  split
  · rw [packet?_fields, Option.bind_eq_bind, Option.bind_some, write?_word16]
    · rfl
    · rw [length_octets]
      omega
  · rfl

end UdpSegment

namespace Datagram

/-- The place of the payload behind the header of a datagram, by its lengths. -/
def place (octets : Octets) : Nat × Nat :=
  (max Ipv4Header.size (Ipv4Header.length octets),
    min (Ipv4Header.totalLength octets) octets.length)

theorem place_blankHeader (source destination : Ipv4Address) (protocol ttl : UInt8)
    (payload : Octets) (room : Ipv4Header.size + payload.length < 65536) :
    place (blankHeader source destination protocol ttl (Ipv4Header.size + payload.length) ++
        zeros payload.length) = (Ipv4Header.size, Ipv4Header.size + payload.length) := by
  let blank := blankHeader source destination protocol ttl (Ipv4Header.size + payload.length) ++
    zeros payload.length
  have first : octetAt blank 0 = 0x45 := rfl
  have length_eq : Ipv4Header.length blank = Ipv4Header.size := by
    rw [Ipv4Header.length, first]
    rfl
  have word : word16At blank 2 = UInt16.ofNat (Ipv4Header.size + payload.length) :=
    ofNat_toNat_ofWord16 _
  have total_eq : Ipv4Header.totalLength blank = Ipv4Header.size + payload.length := by
    rw [Ipv4Header.totalLength, word, UInt16.toNat_ofNat', Nat.mod_eq_of_lt room]
  have whole : blank.length = Ipv4Header.size + payload.length := by
    rw [List.length_append, length_zeros]
    rfl
  show place blank = _
  rw [place, length_eq, total_eq, whole, Nat.max_self, Nat.min_self]

/-- The fields of a header without options, without the checksum. -/
def fields (source destination : Ipv4Address) (protocol ttl : UInt8) (totalLength : Nat) :
    List (Nat × Octets) :=
  [(0, [0x45]), (2, ofWord16 (UInt16.ofNat totalLength)), (8, [ttl]), (9, [protocol]),
    (12, source.octets), (16, destination.octets)]

/-- The octets of a datagram without options, built under checks. -/
def assemble? (source destination : Ipv4Address) (protocol ttl : UInt8) (payload : Octets) :
    Option Octets :=
  let totalLength := Ipv4Header.size + payload.length
  if totalLength < 65536 then do
    let blank ← packet? Ipv4Header.size (fields source destination protocol ttl totalLength) place
      payload
    blank.write? 10 (ofWord16 (Ipv4Header.computedChecksum blank))
  else none

section Building

variable (source destination : Ipv4Address) (protocol ttl : UInt8) (payload : Octets)

theorem layout_fields (totalLength : Nat) :
    layout 0 Ipv4Header.size (fields source destination protocol ttl totalLength) =
      blankHeader source destination protocol ttl totalLength := rfl

theorem packet?_fields (room : Ipv4Header.size + payload.length < 65536) :
    packet? Ipv4Header.size
        (fields source destination protocol ttl (Ipv4Header.size + payload.length)) place payload =
      some (blankHeader source destination protocol ttl (Ipv4Header.size + payload.length) ++
        payload) := by
  have laid : Laid 0 Ipv4Header.size
      (fields source destination protocol ttl (Ipv4Header.size + payload.length)) :=
    ⟨Nat.le_refl 0, show 1 ≤ 2 by decide, show 4 ≤ 8 by decide, Nat.le_refl 9,
      show 10 ≤ 12 by decide, Nat.le_refl 16, Nat.le_refl 20⟩
  have placed := place_blankHeader source destination protocol ttl payload room
  rw [← layout_fields] at placed
  rw [packet?_eq Ipv4Header.size _ place payload laid placed, layout_fields]

theorem assemble?_eq :
    assemble? source destination protocol ttl payload =
      encode? source destination protocol ttl payload := by
  by_cases room : Ipv4Header.size + payload.length < 65536
  · have inside : 10 + 2 ≤ (blankHeader source destination protocol ttl
        (Ipv4Header.size + payload.length) ++ payload).length := by
      rw [List.length_append, length_blankHeader]
      omega
    rw [assemble?, if_pos room, packet?_fields _ _ _ _ _ room, Option.bind_eq_bind,
      Option.bind_some, write?_word16 _ _ _ inside, encode?_eq_some _ _ _ _ _ room,
      Ipv4Header.withChecksum]
  · rw [assemble?, encode?, if_neg room, if_neg room]

end Building

end Datagram

/-! ### Control messages -/

/-- The octets as a control message with a checksum, built under checks. -/
def IcmpMessage.assemble? (kind code : UInt8) (octets : Octets) : Option Octets := do
  let message ← octets.view? headerSize
  let blank ← message.writeAll? [(0, [kind]), (1, [code]), (2, [0, 0])]
  blank.write? 2 (ofWord16 (Checksum.compute blank))

theorem IcmpMessage.assemble?_eq (kind code : UInt8) (octets : Octets) :
    assemble? kind code octets =
      (read? octets).map fun message => (build kind code message.body).octets := by
  match octets with
  | [] | [_] | [_, _] | [_, _, _] => rfl
  | first :: second :: third :: fourth :: rest =>
    have whole : ¬ (first :: second :: third :: fourth :: rest).length < headerSize := by
      simp [headerSize]
    let blank : IcmpMessage := ⟨kind, code, 0, rest⟩
    have headed : writeAll? (first :: second :: third :: fourth :: rest)
        [(0, [kind]), (1, [code]), (2, [0, 0])] = some ([kind, code, 0, 0] ++ rest) :=
      writeAll?_append [first, second, third, fourth] rest _ _ rfl
    have word : ofWord16 0 = [0, 0] := rfl
    have blank_eq : blank.octets = [kind, code, 0, 0] ++ rest := by
      rw [IcmpMessage.octets, word]
      rfl
    rw [← blank_eq] at headed
    have written (checksum : UInt16) : blank.octets.write? 2 (ofWord16 checksum) =
        some { blank with checksum }.octets :=
      write?_word16 _ 2 checksum (Nat.le_add_left 4 rest.length)
    simp only [assemble?, view?, if_neg whole, Option.bind_eq_bind, Option.bind_some, headed,
      written, read?, Option.map_some]
    rfl

namespace ControlMessage

/-- The frame of the octets of a control message, built under checks. -/
def assembleFrame? (ttl : UInt8) (interface : Interface) (peer : MacAddress)
    (source destination : Ipv4Address) (message : Octets) : Option Octets := do
  let datagram ← Datagram.assemble? source destination IcmpMessage.protocol ttl message
  LinkHeader.assemble? ⟨peer, interface.mac, EtherType.ipv4⟩ datagram

theorem assembleFrame?_eq (ttl : UInt8) (interface : Interface) (peer : MacAddress)
    (source destination : Ipv4Address) (message : IcmpMessage) :
    assembleFrame? ttl interface peer source destination message.octets =
      frame? ttl interface peer source destination message := by
  simp only [assembleFrame?, frame?, Datagram.assemble?_eq, LinkHeader.assemble?_eq,
    Option.bind_eq_bind, Option.map_eq_bind]
  rfl

/-- The report about a datagram, built under checks. -/
def assembleReport? (ttl : UInt8) (problem : Problem) (datagram : Datagram)
    (interface : Interface) (peer : MacAddress) : Option Octets :=
  if isReportable datagram then do
    let header := datagram.header
    let quoted := datagram.body.take quotedSize
    let quoting ← writeAll? (zeros (8 + header.length + quoted.length))
      [(8, header), (8 + header.length, quoted)]
    let message ← IcmpMessage.assemble? problem.kind problem.code quoting
    assembleFrame? ttl interface peer interface.address datagram.source message
  else none

/-- A header and some octets behind it are quoted behind eight zeros. -/
theorem writeAll?_quoting (header quoted : Octets) :
    writeAll? (zeros (8 + header.length + quoted.length))
      [(8, header), (8 + header.length, quoted)] = some (zeros 8 ++ header ++ quoted) := by
  have laid : Laid 0 (8 + header.length + quoted.length)
      [(8, header), (8 + header.length, quoted)] :=
    ⟨Nat.zero_le 8, Nat.le_refl _, Nat.le_refl _⟩
  rw [writeAll?_blank _ _ laid]
  simp [layout, zeros]

theorem read?_quoting (header quoted : Octets) :
    IcmpMessage.read? (zeros 8 ++ header ++ quoted) =
      some ⟨0, 0, 0, [0, 0, 0, 0] ++ header ++ quoted⟩ := rfl

theorem assembleReport?_eq (ttl : UInt8) (problem : Problem) (datagram : Datagram)
    (interface : Interface) (peer : MacAddress) :
    assembleReport? ttl problem datagram interface peer =
      reportFrame? ttl problem datagram interface peer := by
  unfold assembleReport? reportFrame?
  dsimp only
  split
  · simp only [writeAll?_quoting, IcmpMessage.assemble?_eq, Option.bind_eq_bind, Option.bind_some]
    rw [read?_quoting, Option.map_some, Option.bind_some, assembleFrame?_eq]
    rfl
  · rfl

/-- The echo of a datagram, built under checks. -/
def assembleEcho? (ttl : UInt8) (datagram : Datagram) (interface : Interface)
    (peer : MacAddress) : Option Octets := do
  let message ← IcmpMessage.assemble? IcmpMessage.echoReply 0 datagram.body
  assembleFrame? ttl interface peer
    (if datagram.destination.isMulticast then interface.address else datagram.destination)
    datagram.source message

theorem assembleEcho?_eq (ttl : UInt8) (datagram : Datagram) (interface : Interface)
    (peer : MacAddress) :
    assembleEcho? ttl datagram interface peer = echoFrame? ttl datagram interface peer := by
  simp only [assembleEcho?, echoFrame?, IcmpMessage.assemble?_eq, Option.bind_eq_bind,
    Option.bind_map, Function.comp_def, assembleFrame?_eq]

end ControlMessage

/-! ### Address resolution -/

namespace Neighbor

/-- The frame of an address resolution packet, built under checks. -/
def assemblePacket? (linkDestination : MacAddress) (packet : ArpPacket) : Option Octets := do
  let payload ← packet.assemble?
  LinkHeader.assemble? ⟨linkDestination, packet.senderMac, EtherType.arp⟩ payload

/-- The broadcast that asks who has an address, built under checks. -/
def assembleRequest? (interface : Interface) (target : Ipv4Address) : Option Octets :=
  assemblePacket? .broadcast
    (.overEthernet ArpPacket.request interface.mac interface.address .zero target)

/-- The answer to a station that asked, built under checks. -/
def assembleReply? (interface : Interface) (requesterMac : MacAddress)
    (requesterAddress : Ipv4Address) : Option Octets :=
  assemblePacket? requesterMac
    (.overEthernet ArpPacket.reply interface.mac interface.address requesterMac requesterAddress)

theorem assemblePacket?_eq (linkDestination : MacAddress) (packet : ArpPacket) :
    assemblePacket? linkDestination packet = some (packetFrame linkDestination packet) := by
  rw [assemblePacket?, ArpPacket.assemble?_eq, Option.bind_eq_bind, Option.bind_some,
    LinkHeader.assemble?_eq, packetFrame]

end Neighbor

/-! ### Messages of the routing protocol -/

namespace DistanceVector

/-- The frame of a message, built under checks. -/
def assembleMessage? (ttl : UInt8) (interface : Interface) (recipient : Recipient)
    (message : RipMessage) : Option Octets := do
  let segment ← UdpSegment.assemble? interface.address recipient.address RipMessage.port
    recipient.port message.encode
  let datagram ← Datagram.assemble? interface.address recipient.address UdpSegment.protocol ttl
    segment
  LinkHeader.assemble? ⟨recipient.mac, interface.mac, EtherType.ipv4⟩ datagram

theorem assembleMessage?_eq (ttl : UInt8) (interface : Interface) (recipient : Recipient)
    (message : RipMessage) :
    assembleMessage? ttl interface recipient message =
      messageFrame? ttl interface recipient message := by
  simp only [assembleMessage?, messageFrame?, UdpSegment.assemble?_eq, Datagram.assemble?_eq,
    LinkHeader.assemble?_eq, Option.bind_eq_bind, Option.bind_map, Function.comp_def,
    Frame.ofDatagram]
  rfl

end DistanceVector

end Guarded

end Ipv4Router
