/-
This file shows that a corrupted header is never acted on. When one octet of a sound header
arrives as another, either the checksum that the header should carry changes or the one
that it carries, but not both. So the frame is no longer read, or it is read as a datagram
whose checksum does not hold, even if the change gave it another length or another payload.
Only the four bits with the length of the header are outside of this argument, because they
decide how much the checksum covers; the version in the same octet must be what it is.
-/

import Ipv4Router.Proofs.Checksum
import Ipv4Router.Proofs.Router.Acceptance
import Ipv4Router.Proofs.Wire.Reading

namespace Ipv4Router

/-! ### One octet replaced -/

namespace Octets

section Replacing

variable (octets : Octets) (index : Nat) (fresh : UInt8)

section Overwriting

variable (offset : Nat) (written : Octets) (fits : offset + written.length ≤ octets.length)

include fits

/-- What is written over an octet hides that it was replaced. -/
theorem overwrite_set_within (inside : offset ≤ index ∧ index < offset + written.length) :
    overwrite (octets.set index fresh) offset written = overwrite octets offset written := by
  refine List.ext_getElem? fun place => ?_
  rw [getElem?_overwrite _ _ _ (by rwa [List.length_set]), getElem?_overwrite _ _ _ fits]
  split
  · rw [List.getElem?_set_ne (by omega)]
  · split
    · rfl
    · rw [List.getElem?_set_ne (by omega)]

theorem overwrite_set_outside (outside : index < offset ∨ offset + written.length ≤ index) :
    overwrite (octets.set index fresh) offset written =
      (overwrite octets offset written).set index fresh := by
  refine List.ext_getElem? fun place => ?_
  rw [getElem?_overwrite _ _ _ (by rwa [List.length_set]), List.getElem?_set, List.getElem?_set,
    length_overwrite _ _ _ fits, getElem?_overwrite _ _ _ fits]
  by_cases same : index = place
  · subst same
    rcases outside with before | beyond
    · rw [if_pos before, if_pos rfl, if_pos rfl]
    · rw [if_neg (by omega), if_neg (by omega), if_pos rfl, if_pos rfl]
  · rw [if_neg same, if_neg same]

end Overwriting

end Replacing

end Octets

/-! ### Headers -/

namespace Ipv4Header

/-- The octets that the checksum of a header covers, with its own field blank. -/
def covered (octets : Octets) : Octets := Octets.overwrite (octets.take (coverage octets)) 10 [0, 0]

section Replacing

variable (octets : Octets) (index : Nat) (fresh : UInt8)

theorem coverage_set (later : 0 < index) :
    coverage (octets.set index fresh) = coverage octets := by
  rw [coverage, coverage, length, length, Octets.octetAt_set_ne _ _ _ _ (by omega),
    List.length_set]

section Covering

variable (whole : 20 ≤ octets.length)

include whole

theorem blank_fits : 10 + ([0, 0] : Octets).length ≤ (octets.take (coverage octets)).length := by
  rw [List.length_take, coverage]
  unfold size
  simp only [List.length_cons, List.length_nil]
  omega

theorem lt_length_covered (inside : index < length octets) (present : index < octets.length) :
    index < (covered octets).length := by
  rw [covered, Octets.length_overwrite _ _ _ (blank_fits octets whole), List.length_take, coverage]
  omega

theorem octetAt_covered (inside : index < length octets) (present : index < octets.length)
    (outside : index < 10 ∨ 12 ≤ index) :
    Octets.octetAt (covered octets) index = Octets.octetAt octets index := by
  have kept : index < coverage octets := by
    rw [coverage]
    omega
  refine Octets.octetAt_congr _ _ _ ?_
  rw [covered, Octets.getElem?_overwrite _ _ _ (blank_fits octets whole),
    List.getElem?_take_of_lt kept]
  simp only [List.length_cons, List.length_nil]
  split
  · rfl
  · rw [if_neg (by omega)]

theorem covered_set_within (inside : 10 ≤ index ∧ index < 12) :
    covered (octets.set index fresh) = covered octets := by
  rw [covered, coverage_set _ _ _ (by omega), List.take_set,
    Octets.overwrite_set_within _ _ _ _ _ (blank_fits octets whole) inside, covered]

theorem covered_set_outside (later : 0 < index) (outside : index < 10 ∨ 12 ≤ index) :
    covered (octets.set index fresh) = (covered octets).set index fresh := by
  rw [covered, coverage_set _ _ _ later, List.take_set,
    Octets.overwrite_set_outside _ _ _ _ _ (blank_fits octets whole) outside, covered]

theorem checksum_set_ne (inside : 10 ≤ index ∧ index < 12)
    (replaced : fresh ≠ Octets.octetAt octets index) :
    checksum (octets.set index fresh) ≠ checksum octets := by
  intro same
  have fields : Octets.field (octets.set index fresh) 10 2 = Octets.field octets 10 2 := by
    rw [← Octets.ofWord16_word16At _ 10 (by rw [List.length_set]; omega),
      ← Octets.ofWord16_word16At _ 10 (by omega)]
    exact congrArg Octets.ofWord16 same
  have octet : Octets.octetAt (Octets.field (octets.set index fresh) 10 2) (index - 10) =
      Octets.octetAt (Octets.field octets 10 2) (index - 10) := by rw [fields]
  rw [Octets.octetAt_field _ _ _ _ (by omega), Octets.octetAt_field _ _ _ _ (by omega),
    Nat.add_sub_cancel' inside.1, Octets.octetAt_set_self _ _ _ (by omega)] at octet
  exact replaced octet

/-- If an octet of a sound header is replaced, behind the first, the checksum does not hold. -/
theorem computedChecksum_set_ne_checksum (version : version octets = 4)
    (sound : computedChecksum octets = checksum octets) (later : 0 < index)
    (inside : index < length octets) (present : index < octets.length)
    (replaced : fresh ≠ Octets.octetAt octets index) :
    computedChecksum (octets.set index fresh) ≠ checksum (octets.set index fresh) := by
  by_cases own : 10 ≤ index ∧ index < 12
  · have computed : computedChecksum (octets.set index fresh) = computedChecksum octets :=
      congrArg Checksum.compute (covered_set_within octets index fresh whole own)
    rw [computed, sound]
    exact (checksum_set_ne octets index fresh whole own replaced).symm
  · have outside : index < 10 ∨ 12 ≤ index := by omega
    have stored : checksum (octets.set index fresh) = checksum octets := by
      rw [checksum, checksum, Octets.word16At, Octets.word16At,
        Octets.field_set _ _ _ _ _ outside]
    have marked : Octets.octetAt (covered octets) 0 ≠ 0 := by
      rw [octetAt_covered octets 0 whole (by omega) (by omega) (by omega)]
      intro zero
      rw [Ipv4Header.version, zero] at version
      cases version
    rw [stored, ← sound]
    show Checksum.compute (covered (octets.set index fresh)) ≠ Checksum.compute (covered octets)
    rw [covered_set_outside octets index fresh whole later outside]
    exact Checksum.compute_set_ne _ _ _ (lt_length_covered octets index whole inside present) marked
      later (by rwa [octetAt_covered octets index whole inside present outside])

end Covering

end Replacing

end Ipv4Header

/-! ### Datagrams and frames -/

/-- The checksum of a datagram holds if that of the octets does that it was read from. -/
theorem Datagram.checksumHolds_of_read (octets : Octets) (datagram : Datagram)
    (parsed : read octets = .ok datagram) :
    datagram.checksumHolds = true ↔
      Ipv4Header.computedChecksum octets = Ipv4Header.checksum octets := by
  obtain ⟨computed, stored⟩ :=
    Ipv4Header.WellFormed.checksum_take octets (wellFormed_of_read octets datagram parsed)
  rw [checksumHolds, beq_iff_eq, octets_of_read octets datagram parsed, computed, stored]

section Replacing

variable (octets : Octets) (datagram : Datagram) (sound : datagram.checksumHolds = true)
  (index : Nat) (inside : index < datagram.header.length) (fresh : UInt8)

include sound inside

/-- What is still read after an octet of its header was replaced has a checksum that does not
hold. -/
theorem Datagram.checksumHolds_of_read_set (parsed : read octets = .ok datagram)
    (replaced : fresh ≠ Octets.octetAt octets index)
    (lengthKept : index = 0 → fresh.toNat % 16 = (Octets.octetAt octets index).toNat % 16)
    (other : Datagram) (parsedToo : read (octets.set index fresh) = .ok other) :
    other.checksumHolds = false := by
  have wellFormed := wellFormed_of_read octets datagram parsed
  have size := wellFormed.size_le octets
  have covers := wellFormed.covers
  have present := wellFormed.present
  unfold Ipv4Header.size at size
  rw [length_header_of_read octets datagram parsed] at inside
  rw [← Bool.not_eq_true, checksumHolds_of_read _ other parsedToo]
  by_cases first : index = 0
  · -- The version is the same, and so is the length: the octet was not replaced.
    subst first
    have version := wellFormed.version_eq
    have versionToo := (wellFormed_of_read _ other parsedToo).version_eq
    rw [Ipv4Header.version, Octets.octetAt_set_self _ _ _ (by omega)] at versionToo
    rw [Ipv4Header.version] at version
    have kept := lengthKept rfl
    exact absurd (UInt8.toNat_inj.mp (by omega)) replaced
  · exact Ipv4Header.computedChecksum_set_ne_checksum octets index fresh (by omega)
      wellFormed.version_eq ((checksumHolds_of_read octets datagram parsed).mp sound) (by omega)
      inside (by omega) replaced

theorem Frame.read_set (link : LinkHeader)
    (decoded : Frame.read octets = .ok ⟨link, .ipv4 datagram⟩)
    (replaced : fresh ≠ Octets.octetAt octets (LinkHeader.size + index))
    (lengthKept : index = 0 →
      fresh.toNat % 16 = (Octets.octetAt octets (LinkHeader.size + index)).toNat % 16)
    (frame : Frame) (decodedToo : Frame.read (octets.set (LinkHeader.size + index) fresh) =
      .ok frame) :
    ∃ other, frame = ⟨link, .ipv4 other⟩ ∧ other.checksumHolds = false := by
  obtain ⟨whole, linkIs, kind, parsed⟩ := Frame.read_ipv4 _ _ _ decoded
  have sameLink : LinkHeader.read (octets.set (LinkHeader.size + index) fresh) = link := by
    unfold LinkHeader.size
    rw [linkIs, LinkHeader.read, LinkHeader.read, Octets.word16At, Octets.word16At,
      Octets.field_set _ _ _ 0 6 (by omega), Octets.field_set _ _ _ 6 6 (by omega),
      Octets.field_set _ _ _ 12 2 (by omega)]
  have rest : (octets.set (LinkHeader.size + index) fresh).drop LinkHeader.size =
      (octets.drop LinkHeader.size).set index fresh := List.set_drop.symm
  have place : Octets.octetAt octets (LinkHeader.size + index) =
      Octets.octetAt (octets.drop LinkHeader.size) index := by
    exact (Octets.octetAt_drop octets LinkHeader.size index).symm
  rw [Frame.read_of_ipv4 _ (by rwa [List.length_set]) (by rw [sameLink, kind]), sameLink,
    rest] at decodedToo
  rw [place] at replaced lengthKept
  cases parsedToo : Datagram.read ((octets.drop LinkHeader.size).set index fresh) with
  | error malformed =>
    rw [parsedToo] at decodedToo
    cases decodedToo
  | ok other =>
    rw [parsedToo] at decodedToo
    cases decodedToo
    exact ⟨other, rfl, Datagram.checksumHolds_of_read_set _ datagram sound index inside fresh parsed
      replaced lengthKept other parsedToo⟩

end Replacing

namespace Router

/-- Nothing is done about a frame if its checksum does not hold, provided that it is read at
all. -/
theorem receive_of_unsound (router : Router) (octets : Octets) (interfaceName : String) (now : Nat)
    (unsound : ∀ frame, Frame.read octets = .ok frame →
      ∃ link other, frame = ⟨link, .ipv4 other⟩ ∧ other.checksumHolds = false) :
    (router.receive octets interfaceName now).1 = router ∧
      Effect.transmissions (router.receive octets interfaceName now).2 = [] := by
  by_cases taken : ∃ interface frame, router.Accepts octets interfaceName interface frame
  · obtain ⟨interface, frame, accepted⟩ := taken
    obtain ⟨link, other, rfl, spoilt⟩ := unsound frame accepted.decoded
    rw [receive_of_spoilt router octets interfaceName now interface link other accepted spoilt]
    exact ⟨rfl, rfl⟩
  · exact router.receive_refused octets interfaceName now fun interface frame accepted =>
      taken ⟨interface, frame, accepted⟩

end Router

/-! ### One bit inverted -/

namespace Octets

/-- The octets with one bit of one octet inverted; the lowest bit of an octet is bit zero. -/
def invert (octets : Octets) (index : Nat) (bit : Fin 8) : Octets :=
  octets.set index (octetAt octets index ^^^ UInt8.ofNat (2 ^ bit.val))

theorem xor_bit_ne (octet : UInt8) (bit : Fin 8) : octet ^^^ UInt8.ofNat (2 ^ bit.val) ≠ octet := by
  have marked : UInt8.ofNat (2 ^ bit.val) ≠ 0 := by
    revert bit
    decide
  intro same
  rw [← UInt8.xor_zero (a := octet), UInt8.xor_assoc, UInt8.zero_xor, UInt8.xor_right_inj] at same
  exact marked same

/-- Inverting a bit of the upper half of an octet leaves the lower half as it was. -/
theorem xor_bit_mod (octet : UInt8) (bit : Fin 8) (upper : 4 ≤ bit.val) :
    (octet ^^^ UInt8.ofNat (2 ^ bit.val)).toNat % 16 = octet.toNat % 16 := by
  have blank : (UInt8.ofNat (2 ^ bit.val)).toNat % 2 ^ 4 = 0 := by
    revert bit
    decide
  rw [show 16 = 2 ^ 4 from rfl, UInt8.toNat_xor, Nat.xor_mod_two_pow, blank, Nat.xor_zero]

end Octets

namespace Router

/-- A sound datagram of which one bit of the header is inverted, but for the bits of the header
length, is not acted on: nothing is sent, and the router stays as it was. If the frame is still
read, then as a datagram whose checksum does not hold. -/
theorem receive_corrupted (router : Router) (octets : Octets) (interfaceName : String) (now : Nat)
    (link : LinkHeader) (datagram : Datagram)
    (decoded : Frame.read octets = .ok ⟨link, .ipv4 datagram⟩)
    (sound : datagram.checksumHolds = true) (index : Nat) (bit : Fin 8)
    (inside : index < datagram.header.length) (notLength : ¬ (index = 0 ∧ bit.val < 4)) :
    let corrupted := octets.invert (LinkHeader.size + index) bit
    (∀ frame, Frame.read corrupted = .ok frame →
        ∃ other, frame = ⟨link, .ipv4 other⟩ ∧ other.checksumHolds = false) ∧
      (router.receive corrupted interfaceName now).1 = router ∧
      Effect.transmissions (router.receive corrupted interfaceName now).2 = [] := by
  intro corrupted
  have unsound := Frame.read_set octets datagram sound index inside _ link decoded
    (Octets.xor_bit_ne _ bit) fun first => Octets.xor_bit_mod _ bit (by omega)
  exact ⟨unsound, router.receive_of_unsound corrupted interfaceName now
    fun frame decodedToo => ⟨link, unsound frame decodedToo⟩⟩

namespace Lengthened

/-- The transit frame with its total length two too great, so that the padding seems to be the
payload. -/
def frame : Octets := Transit.frame.invert (LinkHeader.size + 3) 1

/-- The datagram with the padding. -/
def datagram : Datagram where
  octets := [0x45, 0, 0, 22, 0, 0, 0, 0, 2, 0, 0xa3, 0xdb, 10, 0, 0, 9, 10, 0, 1, 7, 0, 0]
  payload := .other 0

end Lengthened

/-- The datagram with the padding is read, and dropped. -/
theorem receive_corrupted_lengthened :
    Frame.read Lengthened.frame = .ok ⟨Transit.link, .ipv4 Lengthened.datagram⟩ ∧
      Lengthened.datagram.checksumHolds = false ∧
      (Transit.router.receive Lengthened.frame "eth0" 7).1 = Transit.router ∧
      Effect.transmissions (Transit.router.receive Lengthened.frame "eth0" 7).2 = [] := by
  have decoded : Frame.read Transit.frame = .ok ⟨Transit.link, .ipv4 Transit.datagram⟩ := rfl
  have decodedToo : Frame.read Lengthened.frame =
      .ok ⟨Transit.link, .ipv4 Lengthened.datagram⟩ := by decide +kernel
  obtain ⟨unsound, unchanged, silent⟩ := receive_corrupted Transit.router Transit.frame "eth0" 7
    Transit.link Transit.datagram decoded (by decide) 3 1 (by decide) (by decide)
  obtain ⟨other, same, spoilt⟩ := unsound _ decodedToo
  cases same
  exact ⟨decodedToo, spoilt, unchanged, silent⟩

end Router

end Ipv4Router
