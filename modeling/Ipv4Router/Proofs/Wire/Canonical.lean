/-
This file says exactly which octets are a message of the routing protocol. Reading
fails for one of four faults, the first that there is; otherwise every octet but the
two reserved ones can be told from the message that was read. So reading and writing
undo each other in both directions.
-/

import Ipv4Router.Proofs.Wire.Messages

namespace Ipv4Router

/-! ### Fields written again -/

namespace Octets

theorem toNat_lt (octets : Octets) : toNat octets < 256 ^ octets.length := by
  have digits := toNat_ofNat octets.length (toNat octets)
  rw [ofNat_length_toNat] at digits
  rw [digits]
  exact Nat.mod_lt _ (Nat.pow_pos (by decide))

/-- Four octets are those of the number that they write, as a number of 32 bits. -/
theorem ofNat_toNat_mod (octets : Octets) (width : octets.length = 4) :
    ofNat 4 (toNat octets % 2 ^ 32) = octets := by
  have bound := toNat_lt octets
  have digits := ofNat_length_toNat octets
  rw [width] at bound digits
  rw [Nat.mod_eq_of_lt (show toNat octets < 2 ^ 32 from bound), digits]

/-- The octets of the word at an offset are the four octets there. -/
theorem ofWord32_word32At (octets : Octets) (offset : Nat) (fits : offset + 4 ≤ octets.length) :
    ofWord32 (word32At octets offset) = field octets offset 4 := by
  rw [ofWord32, word32At, UInt32.toNat_ofNat',
    ofNat_toNat_mod _ (length_field octets offset 4 fits)]

/-- Two fields next to each other are one field. -/
theorem field_append_field (octets : Octets) (offset first second : Nat) :
    field octets offset first ++ field octets (offset + first) second =
      field octets offset (first + second) := by
  rw [field, field, field, List.take_add, List.drop_drop]

theorem take_two (octets : Octets) (fits : 2 ≤ octets.length) :
    octets.take 2 = [octetAt octets 0, octetAt octets 1] := by
  match octets, fits with
  | _ :: _ :: _, _ => rfl

end Octets

/-- An address read from four octets is written with these octets. -/
theorem Ipv4Address.octets_ofOctets (octets : Octets) (width : octets.length = 4) :
    (ofOctets octets).octets = octets := by
  rw [Ipv4Address.octets, ofOctets, BitVec.toNat_ofNat, Octets.ofNat_toNat_mod octets width]

/-! ### Entries written again -/

/-- An entry read from as many octets as an entry has is written with these octets. -/
theorem RipEntry.octets_read (record : Octets) (width : record.length = size) :
    (read record).octets = record := by
  have within (offset length : Nat) (fits : offset + length ≤ 20) :
      offset + length ≤ record.length := by rw [width]; exact fits
  have address (offset : Nat) (fits : offset + 4 ≤ 20) :
      (Ipv4Address.ofOctets (Octets.field record offset 4)).octets =
        Octets.field record offset 4 :=
    Ipv4Address.octets_ofOctets _ (Octets.length_field _ _ _ (within offset 4 fits))
  calc (read record).octets
      = Octets.field record 0 2 ++ Octets.field record 2 2 ++ Octets.field record 4 4 ++
          Octets.field record 8 4 ++ Octets.field record 12 4 ++ Octets.field record 16 4 := by
        rw [RipEntry.octets, read, Octets.ofWord16_word16At _ _ (within 0 2 (by decide)),
          Octets.ofWord16_word16At _ _ (within 2 2 (by decide)), address 4 (by decide),
          address 8 (by decide), address 12 (by decide),
          Octets.ofWord32_word32At _ _ (within 16 4 (by decide))]
    _ = Octets.field record 0 20 := by
        rw [Octets.field_append_field record 0 2 2, Octets.field_append_field record 0 4 4,
          Octets.field_append_field record 0 8 4, Octets.field_append_field record 0 12 4,
          Octets.field_append_field record 0 16 4]
    _ = record := by
        rw [show 20 = record.length from width.symm, Octets.field_zero_length]

theorem RipCommand.ofOctet_of_known (octet : UInt8)
    (known : octet = 1 ∨ octet = 2) :
    ∃ command : RipCommand, RipCommand.ofOctet octet = .ok command ∧ command.octet = octet := by
  rcases known with rfl | rfl
  · exact ⟨.request, rfl, rfl⟩
  · exact ⟨.response, rfl, rfl⟩

namespace RipMessage

/-- Entries read from whole records are written with the octets of the records. -/
theorem flatMap_octets_read (records : Octets) (whole : records.length % RipEntry.size = 0) :
    ((Blocks.split RipEntry.size records).map RipEntry.read).flatMap RipEntry.octets =
      records := by
  have positive : 0 < RipEntry.size := by decide
  obtain ⟨count, filled⟩ := Nat.dvd_of_mod_eq_zero whole
  have same : ∀ record ∈ Blocks.split RipEntry.size records,
      (RipEntry.read record).octets = id record := by
    intro record member
    rw [Blocks.split_eq_take _ positive count records filled] at member
    exact RipEntry.octets_read record
      (Blocks.length_of_mem_take _ count records record (Nat.le_of_eq filled.symm) member)
  rw [List.flatMap_map, List.flatMap_congr same, List.flatMap_id,
    Blocks.flatten_split _ positive]

/-! ### Faults -/

/-- What is wrong with the octets of a message. Of several faults, only the first in this order
counts. -/
inductive FirstFault (octets : Octets) : Malformed → Prop
  | short (cut : octets.length < 4) : FirstFault octets (.truncated .rip)
  | command (whole : 4 ≤ octets.length) (notRequest : Octets.octetAt octets 0 ≠ 1)
    (notResponse : Octets.octetAt octets 0 ≠ 2) :
    FirstFault octets (.unknownCommand (Octets.octetAt octets 0))
  | version (whole : 4 ≤ octets.length)
    (known : Octets.octetAt octets 0 = 1 ∨ Octets.octetAt octets 0 = 2)
    (zero : Octets.octetAt octets 1 = 0) : FirstFault octets (.unsupportedVersion 0)
  | record (whole : 4 ≤ octets.length)
    (known : Octets.octetAt octets 0 = 1 ∨ Octets.octetAt octets 0 = 2)
    (versioned : Octets.octetAt octets 1 ≠ 0) (ragged : (octets.length - 4) % 20 ≠ 0) :
    FirstFault octets (.truncated .ripEntry)

/-- Octets without a fault. -/
structure WellFormed (octets : Octets) : Prop where
  whole : 4 ≤ octets.length
  records : (octets.length - 4) % 20 = 0
  known : Octets.octetAt octets 0 = 1 ∨ Octets.octetAt octets 0 = 2
  versioned : Octets.octetAt octets 1 ≠ 0

theorem wellFormed_or_firstFault (octets : Octets) :
    WellFormed octets ∨ ∃ reason, FirstFault octets reason := by
  by_cases whole : 4 ≤ octets.length
  · by_cases known : Octets.octetAt octets 0 = 1 ∨ Octets.octetAt octets 0 = 2
    · by_cases zero : Octets.octetAt octets 1 = 0
      · exact Or.inr ⟨_, .version whole known zero⟩
      · by_cases records : (octets.length - 4) % 20 = 0
        · exact Or.inl ⟨whole, records, known, zero⟩
        · exact Or.inr ⟨_, .record whole known zero records⟩
    · rw [not_or] at known
      exact Or.inr ⟨_, .command whole known.1 known.2⟩
  · exact Or.inr ⟨_, .short (Nat.lt_of_not_le whole)⟩

/-! ### Messages written again -/

/-- Under a command that there is, the version and the records decide. -/
theorem decode_of_command (octets : Octets) (whole : 4 ≤ octets.length) (command : RipCommand)
    (readCommand : RipCommand.ofOctet (Octets.octetAt octets 0) = .ok command) :
    decode octets =
      if Octets.octetAt octets 1 = 0 then .error (.unsupportedVersion (Octets.octetAt octets 1))
      else if (octets.length - 4) % 20 ≠ 0 then .error (.truncated .ripEntry)
      else .ok ⟨command, Octets.octetAt octets 1,
        (Blocks.split RipEntry.size (octets.drop 4)).map RipEntry.read⟩ := by
  have notShort : ¬ octets.length < headerSize := Nat.not_lt.mpr whole
  rw [decode, if_neg notShort, readCommand, ← List.length_drop]
  rfl

/-- Without a fault a message is read, and it is written with the octets that it was read from, but
for the reserved ones. -/
theorem decode_of_wellFormed (octets : Octets) (wellFormed : WellFormed octets) :
    ∃ message, decode octets = .ok message ∧
      message.encode = Octets.overwrite octets 2 [0, 0] := by
  obtain ⟨whole, records, known, versioned⟩ := wellFormed
  obtain ⟨command, readCommand, octetIs⟩ := RipCommand.ofOctet_of_known _ known
  have filled : (octets.drop 4).length % RipEntry.size = 0 := by
    rw [List.length_drop]
    exact records
  have decoded := decode_of_command octets whole command readCommand
  rw [if_neg versioned, if_neg (not_not_intro records)] at decoded
  refine ⟨_, decoded, ?_⟩
  show [command.octet, Octets.octetAt octets 1, 0, 0] ++ _ = _
  rw [octetIs, flatMap_octets_read _ filled, Octets.overwrite,
    Octets.take_two octets (Nat.le_trans (by decide) whole)]
  rfl

theorem decode_of_firstFault (octets : Octets) (reason : Malformed)
    (fault : FirstFault octets reason) : decode octets = .error reason := by
  cases fault with
  | short cut => exact if_pos cut
  | command whole notRequest notResponse =>
    have notShort : ¬ octets.length < headerSize := Nat.not_lt.mpr whole
    rw [decode, if_neg notShort, RipCommand.ofOctet, if_neg notRequest, if_neg notResponse]
  | version whole known zero =>
    obtain ⟨command, readCommand, -⟩ := RipCommand.ofOctet_of_known _ known
    rw [decode_of_command octets whole command readCommand, if_pos zero, zero]
  | record whole known versioned ragged =>
    obtain ⟨command, readCommand, -⟩ := RipCommand.ofOctet_of_known _ known
    rw [decode_of_command octets whole command readCommand, if_neg versioned, if_pos ragged]

/-! ### Both directions -/

/-- Reading gives back every message that was written, at the length that was foretold; it accepts
the octets without a fault and no others, and those it accepts are what is written for the message,
but for the reserved octets; and it refuses all others for their first fault. -/
theorem codec_exact :
    (∀ message : RipMessage, message.version ≠ 0 →
      decode message.encode = .ok message ∧
        message.encode.length = message.encodedLength) ∧
    ∀ octets : Octets,
      ((∃ message, decode octets = .ok message) ↔ WellFormed octets) ∧
      (∀ message, decode octets = .ok message →
        message.encode = Octets.overwrite octets 2 [0, 0]) ∧
      ∀ reason, decode octets = .error reason ↔ FirstFault octets reason := by
  refine ⟨fun message versioned => ⟨decode_encode message versioned, length_encode message⟩,
    fun octets => ?_⟩
  rcases wellFormed_or_firstFault octets with wellFormed | ⟨first, fault⟩
  · obtain ⟨message, decoded, written⟩ := decode_of_wellFormed octets wellFormed
    refine ⟨⟨fun _ => wellFormed, fun _ => ⟨message, decoded⟩⟩, fun other decodedToo => ?_,
      fun reason => ⟨fun refused => ?_, fun fault => decode_of_firstFault octets reason fault⟩⟩
    · rwa [← Except.ok.inj (decoded.symm.trans decodedToo)]
    · cases decoded.symm.trans refused
  · have refused := decode_of_firstFault octets first fault
    refine ⟨⟨?_, fun wellFormed => ?_⟩, ?_, fun reason => ⟨?_, ?_⟩⟩
    · rintro ⟨message, decoded⟩
      cases refused.symm.trans decoded
    · obtain ⟨message, decoded, -⟩ := decode_of_wellFormed octets wellFormed
      cases refused.symm.trans decoded
    · intro message decoded
      cases refused.symm.trans decoded
    · intro refusedToo
      rwa [← Except.error.inj (refused.symm.trans refusedToo)]
    · exact decode_of_firstFault octets reason

/-! ### A message with scribbled octets -/

namespace Scribbled

/-- A response about two networks. -/
def message : RipMessage :=
  .response [.inet (.ofParts 10 9 0 0) (.ofParts 255 255 0 0) (.ofParts 10 0 0 2) 3,
    ⟨7, 8, .ofParts 1 2 3 4, .ofParts 5 6 7 8, .ofParts 9 10 11 12, 0x01020304⟩]

/-- The message with something written into the reserved octets. -/
def octets : Octets := Octets.overwrite message.encode 2 [0xab, 0xcd]

end Scribbled

/-- The message is read from the scribbled octets too, and written without them. -/
theorem codec_exact_scribbled :
    Scribbled.message.version ≠ 0 ∧ Scribbled.octets ≠ Scribbled.message.encode ∧
      Scribbled.message.encode.length = 44 ∧
      decode Scribbled.message.encode = .ok Scribbled.message ∧
      decode Scribbled.octets = .ok Scribbled.message ∧
      Scribbled.message.encode = Octets.overwrite Scribbled.octets 2 [0, 0] := by
  have versioned : Scribbled.message.version ≠ 0 := by decide
  have decoded : decode Scribbled.octets = .ok Scribbled.message := by decide +kernel
  obtain ⟨writing, reading⟩ := codec_exact
  obtain ⟨readBack, length⟩ := writing Scribbled.message versioned
  exact ⟨versioned, by decide +kernel, length, readBack, decoded,
    (reading Scribbled.octets).2.1 Scribbled.message decoded⟩

end RipMessage

end Ipv4Router
