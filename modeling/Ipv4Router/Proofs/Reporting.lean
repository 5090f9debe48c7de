/-
This file shows what the reports of the router say. A report is a control message
from the interface on which the datagram came, sent back to the station and the host
it came from. It quotes the header of the datagram as it was received and the first
eight octets behind it, and nothing else. Every datagram that may be reported about gets
a report, because a quoted header is short enough for any datagram to hold.
-/

import Ipv4Router.Proofs.Interface.History
import Ipv4Router.Proofs.Wire.Received
import Ipv4Router.Router.Reception

namespace Ipv4Router

/-! ### Control messages in frames -/

theorem IcmpMessage.isError_eq_false (message : IcmpMessage) :
    message.isError = false ↔ message.kind ∉ ([3, 4, 5, 11, 12] : List UInt8) := by
  rw [isError, ← Bool.not_eq_true, List.contains_iff_mem]
  rfl

theorem Datagram.readPayload_icmp (message : IcmpMessage) :
    Datagram.readPayload IcmpMessage.protocol message.octets = .ok (.icmp message) := by
  rw [readPayload, if_pos rfl, IcmpMessage.read?_octets]

namespace ControlMessage

/-- A frame that carries a control message between two hosts, over a link on which it goes from
an interface to a station. -/
def Carries (frame : Octets) (interface : Interface) (peer : MacAddress)
    (source destination : Ipv4Address) (ttl : UInt8) (message : IcmpMessage) : Prop :=
  ∃ datagram, Frame.read frame =
      .ok ⟨⟨peer, interface.mac, EtherType.ipv4⟩, .ipv4 datagram⟩ ∧
    datagram.source = source ∧ datagram.destination = destination ∧ datagram.ttl = ttl ∧
    datagram.checksumHolds = true ∧ datagram.payload = .icmp message

/-- A control message that leaves room for a header is put into a datagram that encloses it. -/
theorem frame?_encloses (ttl : UInt8) (interface : Interface) (peer : MacAddress)
    (source destination : Ipv4Address) (message : IcmpMessage)
    (room : Ipv4Header.size + message.octets.length < 65536) :
    ∃ octets, frame? ttl interface peer source destination message =
        some (Frame.ofDatagram interface.mac peer octets) ∧
      Datagram.Encloses octets source destination IcmpMessage.protocol ttl message.octets := by
  obtain ⟨octets, built⟩ : ∃ octets, Datagram.encode? source destination IcmpMessage.protocol ttl
      message.octets = some octets := ⟨_, Datagram.encode?_eq_some _ _ _ _ _ room⟩
  exact ⟨octets, by rw [frame?, built, Option.map_some],
    Datagram.encloses_of_encode? _ _ _ _ _ _ built⟩

/-- So the frame carries the message. -/
theorem frame?_carries (ttl : UInt8) (interface : Interface) (peer : MacAddress)
    (source destination : Ipv4Address) (message : IcmpMessage)
    (room : Ipv4Header.size + message.octets.length < 65536) :
    ∃ frame, frame? ttl interface peer source destination message = some frame ∧
      Carries frame interface peer source destination ttl message := by
  obtain ⟨octets, built, encloses⟩ :=
    frame?_encloses ttl interface peer source destination message room
  exact ⟨_, built, ⟨octets, .icmp message⟩,
    Frame.read_ofDatagram _ _ _ _ (encloses.read _ (Datagram.readPayload_icmp message)),
    encloses.source_eq, encloses.destination_eq, encloses.ttl_eq, beq_iff_eq.mpr encloses.sound,
    rfl⟩

/-! ### Reports -/

/-- The frame reports a problem with a datagram that came from a station through an interface. -/
def IsReport (ttl : UInt8) (problem : Problem) (datagram : Datagram) (interface : Interface)
    (peer : MacAddress) (frame : Octets) : Prop :=
  ∃ message, Carries frame interface peer interface.address datagram.source ttl message ∧
    message.kind = problem.kind ∧ message.code = problem.code ∧ message.checksumHolds = true ∧
    message.body = [0, 0, 0, 0] ++ datagram.header ++ datagram.body.take quotedSize

theorem length_report_le (problem : Problem) (datagram : Datagram) :
    (report problem datagram).octets.length ≤ 76 := by
  have header := Datagram.length_header_le datagram
  have quoted : (datagram.body.take quotedSize).length ≤ 8 := List.length_take_le _ _
  have body : (report problem datagram).body =
      [0, 0, 0, 0] ++ datagram.header ++ datagram.body.take quotedSize := rfl
  rw [IcmpMessage.octets, body]
  simp only [List.length_append, List.length_cons, List.length_nil, Octets.length_ofWord16]
  omega

/-- Every datagram that may be reported about gets its report. -/
theorem reportFrame?_isReport (ttl : UInt8) (problem : Problem) (datagram : Datagram)
    (interface : Interface) (peer : MacAddress) (reportable : isReportable datagram = true) :
    ∃ frame, reportFrame? ttl problem datagram interface peer = some frame ∧
      IsReport ttl problem datagram interface peer frame := by
  have short := length_report_le problem datagram
  obtain ⟨frame, built, carries⟩ := frame?_carries ttl interface peer interface.address
    datagram.source (report problem datagram) (by unfold Ipv4Header.size; omega)
  exact ⟨frame, by rw [reportFrame?, if_pos reportable, built], report problem datagram, carries,
    rfl, rfl, IcmpMessage.checksumHolds_build _ _ _, rfl⟩

/-- A datagram may be reported about exactly if it goes from a single host to a single host and
reports no error. -/
theorem isReportable_iff (datagram : Datagram) :
    isReportable datagram = true ↔
      datagram.source ≠ .unspecified ∧ datagram.source ≠ .broadcast ∧
        datagram.source.isMulticast = false ∧ datagram.destination ≠ .broadcast ∧
        datagram.destination.isMulticast = false ∧
        ∀ message, datagram.payload = .icmp message →
          message.kind ∉ ([3, 4, 5, 11, 12] : List UInt8) := by
  unfold isReportable
  cases carried : datagram.payload with
  | icmp message =>
    simp only [Bool.and_eq_true, bne_iff_ne, ne_eq, Bool.not_eq_true', and_assoc,
      Payload.icmp.injEq, forall_eq', message.isError_eq_false]
  | udp segment | tcp segment | other protocol =>
    simp only [Bool.and_eq_true, bne_iff_ne, ne_eq, Bool.not_eq_true', and_assoc, Bool.not_false,
      reduceCtorEq, false_implies, implies_true]

theorem reportFrame?_eq_none_iff (ttl : UInt8) (problem : Problem) (datagram : Datagram)
    (interface : Interface) (peer : MacAddress) :
    reportFrame? ttl problem datagram interface peer = none ↔ isReportable datagram ≠ true := by
  by_cases reportable : isReportable datagram = true
  · obtain ⟨frame, built, -⟩ := reportFrame?_isReport ttl problem datagram interface peer reportable
    simp only [built, reportable, reduceCtorEq, ne_eq, not_true_eq_false]
  · exact ⟨fun _ => reportable, fun _ => if_neg reportable⟩

/-- A datagram is not reported about exactly if it does not come from a single host, or goes to a
group, or reports an error itself. A report about any other goes from the interface to the station,
and from the interface's address to the host that the datagram came from. It has a header without
options and is an ICMP message of the type and the code of the problem; both add up to all ones
with their checksums. Behind four octets of zero, the message is the header of the datagram and the
first eight octets behind it, or as many as there are. -/
theorem reportFrame?_exact (ttl : UInt8) (problem : Problem) (datagram : Datagram)
    (interface : Interface) (peer : MacAddress) :
    (reportFrame? ttl problem datagram interface peer = none ↔
      datagram.source = .ofParts 0 0 0 0 ∨ datagram.source = .ofParts 255 255 255 255 ∨
        datagram.source.isMulticast = true ∨ datagram.destination = .ofParts 255 255 255 255 ∨
        datagram.destination.isMulticast = true ∨
        ∃ message, datagram.payload = .icmp message ∧
          message.kind ∈ ([3, 4, 5, 11, 12] : List UInt8)) ∧
    ∀ frame, reportFrame? ttl problem datagram interface peer = some frame →
      ∃ reply message,
        Frame.read frame = .ok ⟨⟨peer, interface.mac, EtherType.ipv4⟩, .ipv4 reply⟩ ∧
        frame.length = 14 + reply.octets.length ∧ reply.header.length = 20 ∧
        reply.checksumHolds = true ∧ Checksum.onesSum reply.header = 65535 ∧
        reply.ttl = ttl ∧ reply.source = interface.address ∧
        reply.destination = datagram.source ∧ reply.payload = .icmp message ∧
        reply.body = message.octets ∧ message.kind = problem.kind ∧ message.code = problem.code ∧
        message.checksumHolds = true ∧ Checksum.onesSum message.octets = 65535 ∧
        message.body = [0, 0, 0, 0] ++ datagram.header ++
          datagram.body.take (min 8 datagram.body.length) := by
  constructor
  · rw [reportFrame?_eq_none_iff, ne_eq, isReportable_iff]
    simp only [not_and_or, ne_eq, not_not, Bool.not_eq_false, not_forall, exists_prop]
    rfl
  · intro frame built
    have reportable : isReportable datagram = true := by
      by_contra suppressed
      rw [reportFrame?, if_neg suppressed] at built
      cases built
    have short := length_report_le problem datagram
    obtain ⟨octets, builtToo, encloses⟩ := frame?_encloses ttl interface peer interface.address
      datagram.source (report problem datagram) (by unfold Ipv4Header.size; omega)
    rw [reportFrame?, if_pos reportable, builtToo, Option.some_inj] at built
    subst built
    have parsed := encloses.read _ (Datagram.readPayload_icmp (report problem datagram))
    refine ⟨⟨octets, .icmp (report problem datagram)⟩, report problem datagram,
      Frame.read_ofDatagram _ _ _ _ parsed, ?_, ?_, beq_iff_eq.mpr encloses.sound,
      encloses.onesSum_header, encloses.ttl_eq, encloses.source_eq, encloses.destination_eq, rfl,
      ?_, rfl, rfl, IcmpMessage.checksumHolds_build _ _ _, IcmpMessage.onesSum_build _ _ _, ?_⟩
    · rw [Frame.ofDatagram, LinkHeader.frame, List.length_append, LinkHeader.length_octets]
    · rw [Datagram.header, encloses.length_eq, List.length_take, encloses.size_eq]
      exact min_eq_left (Nat.le_add_right _ _)
    · rw [Datagram.body, encloses.length_eq, encloses.body_eq]
    · rw [← List.take_eq_take_min]
      rfl

namespace Quoted

/-- A datagram from 10.0.0.9 to 10.0.1.7 with a word of options and three octets of payload. -/
def datagram : Datagram where
  octets :=
    [0x46, 0, 0, 27, 0, 0, 0, 0, 1, 253, 0xa0, 0xd5, 10, 0, 0, 9, 10, 0, 1, 7, 1, 1, 1, 1] ++
      [0xaa, 0xbb, 0xcc]
  payload := .other 253

end Quoted

/-- The report quotes all of the datagram. -/
theorem reportFrame?_exact_quoted :
    Datagram.read Quoted.datagram.octets = .ok Quoted.datagram ∧
      ∃ frame reply message,
        reportFrame? 64 .netUnreachable Quoted.datagram Stations.inner Stations.neighbor.mac =
          some frame ∧
        Frame.read frame =
          .ok ⟨⟨Stations.neighbor.mac, Stations.inner.mac, EtherType.ipv4⟩, .ipv4 reply⟩ ∧
        reply.payload = .icmp message ∧
        message.body = [0, 0, 0, 0] ++ Quoted.datagram.octets := by
  obtain ⟨frame, built⟩ := Option.isSome_iff_exists.mp (show (reportFrame? 64 .netUnreachable
    Quoted.datagram Stations.inner Stations.neighbor.mac).isSome = true by decide +kernel)
  obtain ⟨reply, message, decoded, -, -, -, -, -, -, -, carried, -, -, -, -, -, body⟩ :=
    (reportFrame?_exact 64 .netUnreachable Quoted.datagram Stations.inner
      Stations.neighbor.mac).2 frame built
  exact ⟨rfl, frame, reply, message, built, decoded, carried, body⟩

end ControlMessage

namespace Router

/-- What is sent when a problem with a datagram is to be reported: one report on the interface
where it came in, or nothing if it may not be reported about. -/
def SendsReport (router : Router) (problem : ControlMessage.Problem) (datagram : Datagram)
    (interface : Interface) (peer : MacAddress) (sent : List (String × Octets)) : Prop :=
  if ControlMessage.isReportable datagram then
    ∃ frame, sent = [(interface.name, frame)] ∧
      ControlMessage.IsReport router.settings.controlTtl problem datagram interface peer frame
  else sent = []

theorem report_sends (router : Router) (problem : ControlMessage.Problem) (datagram : Datagram)
    (arrival : Arrival) :
    router.SendsReport problem datagram arrival.interface arrival.peer
      (Effect.transmissions (router.report problem datagram arrival)) := by
  unfold SendsReport
  split
  · rename_i reportable
    obtain ⟨frame, built, isReport⟩ := ControlMessage.reportFrame?_isReport
      router.settings.controlTtl problem datagram arrival.interface arrival.peer reportable
    refine ⟨frame, ?_, isReport⟩
    simp only [report, built]
    rfl
  · rename_i suppressed
    simp only [report, ControlMessage.reportFrame?, if_neg suppressed]
    rfl

end Router

end Ipv4Router
