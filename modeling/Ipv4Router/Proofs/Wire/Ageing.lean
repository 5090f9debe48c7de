/-
This file says what ageing a frame does to its octets. A call takes one from the time to live of
the datagram behind the link header and computes the checksum of its header anew. It asks nothing
else of the header, so that the checksum holds afterwards whatever stood there, and calls can
follow one another until no time is left. A frame that has no room for a header, or no time left,
stays as it is.
-/

import Ipv4Router.Proofs.Wire.Built

namespace Ipv4Router

/-! ### Headers -/

namespace Ipv4Header

/-- The octets with another time to live and the checksum for it. -/
def withTtl (octets : Octets) (ttl : UInt8) : Octets :=
  withChecksum (Octets.overwrite octets 8 [ttl])

section Rewriting

variable (octets : Octets) (ttl : UInt8) (whole : size ≤ octets.length)

include whole

theorem length_overwrite_ttl : (Octets.overwrite octets 8 [ttl]).length = octets.length :=
  Octets.length_overwrite octets 8 [ttl] (by
    unfold size at whole
    rw [List.length_singleton]
    omega)

theorem length_withTtl : (withTtl octets ttl).length = octets.length := by
  have kept := length_overwrite_ttl octets ttl whole
  rw [withTtl, length_withChecksum _ (by rwa [kept]), kept]

/-- The checksum for the new time to live holds. -/
theorem computedChecksum_withTtl :
    computedChecksum (withTtl octets ttl) = checksum (withTtl octets ttl) :=
  computedChecksum_withChecksum _ (by rwa [length_overwrite_ttl octets ttl whole])

theorem getElem?_withTtl (index : Nat) (notTtl : index ≠ 8) (notHigh : index ≠ 10)
    (notLow : index ≠ 11) : (withTtl octets ttl)[index]? = octets[index]? := by
  have kept := length_overwrite_ttl octets ttl whole
  unfold size at whole
  rw [withTtl, withChecksum, Octets.getElem?_overwrite _ 10 _ (by
      rw [Octets.length_ofWord16, kept]; omega), Octets.length_ofWord16,
    Octets.getElem?_overwrite _ 8 _ (by rw [List.length_singleton]; omega),
    List.length_singleton]
  split
  · split
    · rfl
    · rw [if_neg (by omega)]
  · rw [if_neg (by omega), if_neg (by omega), if_neg (by omega)]

theorem ttl_withTtl : Ipv4Header.ttl (withTtl octets ttl) = ttl := by
  have kept := length_overwrite_ttl octets ttl whole
  unfold size at whole
  rw [Ipv4Header.ttl, withTtl, withChecksum, Octets.octetAt_overwrite_of_lt _ 10 _ (by
      rw [Octets.length_ofWord16, kept]; omega) 8 (by decide), Octets.octetAt,
    List.getD_eq_getElem?_getD, Octets.getElem?_overwrite _ 8 _ (by
      rw [List.length_singleton]; omega)]
  rfl

end Rewriting

end Ipv4Header

namespace Frame

/-! ### Frames -/

/-- The time to live of the datagram in a frame, in hops. -/
def life (frame : Octets) : Nat := (Octets.octetAt frame 22).toNat

/-- The octets of the header that its checksum covers: as many as the header says that it has, but
no fewer than one without options has, and no more than there are. -/
def coveredHeader (frame : Octets) : Octets :=
  (frame.drop 14).take
    (max 20 (min (4 * ((Octets.octetAt frame 14).toNat % 16)) (frame.length - 14)))

/-- The checksum in the header is the one that is computed over the header, with its own place
taken as zero. -/
def ChecksumHolds (frame : Octets) : Prop :=
  Octets.word16At frame 24 =
    Checksum.compute (Octets.overwrite (coveredHeader frame) 10 [0, 0])

instance (frame : Octets) : Decidable (ChecksumHolds frame) :=
  inferInstanceAs (Decidable (_ = _))

/-- What is left of a frame after some hops: another time to live, another checksum, and all else
as it was. -/
structure Spent (hops : Nat) (before after : Octets) : Prop where
  length_eq : after.length = before.length
  life_eq : life after = life before - hops
  kept : ∀ index, index ≠ 22 → index ≠ 24 → index ≠ 25 → after[index]? = before[index]?

theorem Spent.trans {first second : Nat} {before middle after : Octets}
    (spentFirst : Spent first before middle) (spentSecond : Spent second middle after) :
    Spent (first + second) before after where
  length_eq := spentSecond.length_eq.trans spentFirst.length_eq
  life_eq := by rw [spentSecond.life_eq, spentFirst.life_eq, Nat.sub_sub]
  kept index notTtl notHigh notLow :=
    (spentSecond.kept index notTtl notHigh notLow).trans
      (spentFirst.kept index notTtl notHigh notLow)

theorem checksumHolds_iff (frame : Octets) :
    ChecksumHolds frame ↔
      Ipv4Header.computedChecksum (frame.drop 14) = Ipv4Header.checksum (frame.drop 14) := by
  have word : Ipv4Header.checksum (frame.drop 14) = Octets.word16At frame 24 := by
    rw [Ipv4Header.checksum, Octets.word16At, Octets.field, List.drop_drop, Octets.word16At,
      Octets.field]
  have covered : coveredHeader frame =
      (frame.drop 14).take (Ipv4Header.coverage (frame.drop 14)) := by
    rw [coveredHeader, Ipv4Header.coverage, Ipv4Header.length, Octets.octetAt_drop,
      List.length_drop]
    rfl
  rw [ChecksumHolds, covered, word, Ipv4Header.computedChecksum, eq_comm]

/-- A call on a frame that is changed in place: the new time to live, if there is one, and the
frame after the call. -/
def age (frame : Octets) : Option UInt8 × Octets :=
  match decrementTtl? frame with
  | some (ttl, aged) => (some ttl, aged)
  | none => (none, frame)

section Calls

variable (frame : Octets)

theorem age_of_refused (refused : frame.length < 34 ∨ Octets.octetAt frame 22 = 0) :
    age frame = (none, frame) := by
  have none : decrementTtl? frame = none := by
    refine if_pos (refused.imp (fun short => ?_) fun dead => ?_)
    · rw [List.length_drop]
      unfold LinkHeader.size Ipv4Header.size
      omega
    · rw [Ipv4Header.ttl, Octets.octetAt_drop]
      exact dead
  rw [age, none]

/-- A new time to live and the checksum for it are all that a call changes. -/
theorem spent_withTtl (whole : 34 ≤ frame.length) (hops : Nat) (ttl : UInt8)
    (left : ttl.toNat = life frame - hops) :
    Spent hops frame (frame.take 14 ++ Ipv4Header.withTtl (frame.drop 14) ttl) ∧
      ChecksumHolds (frame.take 14 ++ Ipv4Header.withTtl (frame.drop 14) ttl) := by
  have front : (frame.take 14).length = 14 := by
    rw [List.length_take]
    omega
  have wholeHeader : Ipv4Header.size ≤ (frame.drop 14).length := by
    rw [List.length_drop]
    unfold Ipv4Header.size
    omega
  have rest : (frame.take 14 ++ Ipv4Header.withTtl (frame.drop 14) ttl).drop 14 =
      Ipv4Header.withTtl (frame.drop 14) ttl := List.drop_left' front
  refine ⟨⟨?_, ?_, fun index notTtl notHigh notLow => ?_⟩, ?_⟩
  · rw [List.length_append, front, Ipv4Header.length_withTtl _ _ wholeHeader, List.length_drop]
    omega
  · have written := Ipv4Header.ttl_withTtl (frame.drop 14) ttl wholeHeader
    rw [Ipv4Header.ttl, ← rest, Octets.octetAt_drop] at written
    rw [life, written, left]
  · by_cases inLink : index < 14
    · rw [List.getElem?_append_left (by omega), List.getElem?_take_of_lt inLink]
    · rw [List.getElem?_append_right (by omega), front,
        Ipv4Header.getElem?_withTtl _ _ wholeHeader _ (by omega) (by omega) (by omega),
        List.getElem?_drop, Nat.add_sub_cancel' (Nat.not_lt.mp inLink)]
  · rw [checksumHolds_iff, rest]
    exact Ipv4Header.computedChecksum_withTtl _ _ wholeHeader

/-- A call on a frame that has a header and time left takes one hop. -/
theorem age_of_alive (whole : 34 ≤ frame.length) (alive : Octets.octetAt frame 22 ≠ 0) :
    ∃ aged, age frame = (some (Octets.octetAt frame 22 - 1), aged) ∧
      Octets.octetAt aged 22 = Octets.octetAt frame 22 - 1 ∧ Spent 1 frame aged ∧
      ChecksumHolds aged := by
  have ttl : Ipv4Header.ttl (frame.drop LinkHeader.size) = Octets.octetAt frame 22 :=
    Octets.octetAt_drop frame 14 8
  have inTime : ¬ ((frame.drop LinkHeader.size).length < Ipv4Header.size ∨
      Ipv4Header.ttl (frame.drop LinkHeader.size) = 0) := by
    rw [ttl, List.length_drop]
    unfold LinkHeader.size Ipv4Header.size
    rintro (short | dead)
    · omega
    · exact alive dead
  have left : (Octets.octetAt frame 22 - 1).toNat = life frame - 1 :=
    UInt8.toNat_sub_of_le _ _ (UInt8.le_iff_toNat_le.mpr (Nat.pos_of_ne_zero fun none =>
      alive (UInt8.toNat_inj.mp none)))
  obtain ⟨spent, holds⟩ := spent_withTtl frame whole 1 _ left
  refine ⟨_, ?_, UInt8.toNat_inj.mp (spent.life_eq.trans left.symm), spent, holds⟩
  rw [age, decrementTtl?, if_neg inTime, ttl]
  rfl

end Calls

/-! ### Calls in a row -/

/-- What each of a number of calls in a row gives, and the frame after them. -/
def ageTimes : (count : Nat) → (frame : Octets) → List (Option UInt8) × Octets
  | 0, frame => ([], frame)
  | count + 1, frame =>
    let (ttl, aged) := age frame
    let (ttls, last) := ageTimes count aged
    (ttl :: ttls, last)

/-- What a call in a row gives that comes after a number of others: one less than what is left of
the life, if anything is. -/
def ttlAfter (life earlier : Nat) : Option UInt8 :=
  if earlier < life then some (UInt8.ofNat (life - (earlier + 1))) else none

theorem ttlAfter_succ (life earlier : Nat) :
    ttlAfter life (earlier + 1) = ttlAfter (life - 1) earlier := by
  simp only [ttlAfter, Nat.lt_sub_iff_add_lt, Nat.sub_sub, Nat.add_comm 1]

theorem age_spent (frame : Octets) (whole : 34 ≤ frame.length) :
    (age frame).1 = ttlAfter (life frame) 0 ∧ Spent 1 frame (age frame).2 ∧
      (ChecksumHolds frame ∨ 0 < life frame → ChecksumHolds (age frame).2) := by
  by_cases dead : Octets.octetAt frame 22 = 0
  · have none : life frame = 0 := congrArg UInt8.toNat dead
    rw [age_of_refused frame (.inr dead), none]
    exact ⟨rfl, ⟨rfl, by rw [none], fun _ _ _ _ => rfl⟩,
      fun holds => holds.resolve_right (Nat.lt_irrefl 0)⟩
  · have some : 0 < life frame :=
      Nat.pos_of_ne_zero fun none => dead (UInt8.toNat_inj.mp none)
    obtain ⟨aged, called, written, spent, holds⟩ := age_of_alive frame whole dead
    rw [called]
    refine ⟨?_, spent, fun _ => holds⟩
    rw [ttlAfter, if_pos some, ← spent.life_eq, life, UInt8.ofNat_toNat, written]

/-- Calls in a row take one hop each, until there is none left. -/
theorem ageTimes_spent (count : Nat) (frame : Octets) (whole : 34 ≤ frame.length) :
    (ageTimes count frame).1 = (List.range count).map (ttlAfter (life frame)) ∧
      Spent count frame (ageTimes count frame).2 ∧
      (ChecksumHolds frame ∨ 0 < count ∧ 0 < life frame →
        ChecksumHolds (ageTimes count frame).2) := by
  induction count generalizing frame with
  | zero =>
    exact ⟨rfl, ⟨rfl, rfl, fun _ _ _ _ => rfl⟩,
      fun holds => holds.resolve_right fun some => Nat.lt_irrefl 0 some.1⟩
  | succ count inductionHypothesis =>
    obtain ⟨first, spent, sound⟩ := age_spent frame whole
    obtain ⟨others, spentLater, soundLater⟩ :=
      inductionHypothesis (age frame).2 (by rw [spent.length_eq]; exact whole)
    have together := spent.trans spentLater
    rw [Nat.add_comm 1 count] at together
    refine ⟨?_, together, fun holds => soundLater (.inl (sound (holds.imp_right And.right)))⟩
    show (age frame).1 :: (ageTimes count (age frame).2).1 = _
    rw [first, others, List.range_succ_eq_map, List.map_cons, List.map_map, spent.life_eq]
    refine congrArg _ (List.map_congr_left fun earlier _ => ?_)
    exact (ttlAfter_succ (life frame) earlier).symm

/-- A frame that has no room for a header behind the link header, or no time left, is refused and
stays as it is. A call on any other gives one less than its time to live, which is written into the
frame; the checksum is computed anew and holds, whatever stood there before and whatever length the
header says that it has; and no other octet changes. So each of a number of calls in a row gives one
less than the one before, as long as there is time left, and the checksum holds after all. -/
theorem decrementTtl?_exact (frame : Octets) :
    (frame.length < 34 ∨ Octets.octetAt frame 22 = 0 → age frame = (none, frame)) ∧
      (34 ≤ frame.length → Octets.octetAt frame 22 ≠ 0 → ∃ aged,
        age frame = (some (Octets.octetAt frame 22 - 1), aged) ∧
        Octets.octetAt aged 22 = Octets.octetAt frame 22 - 1 ∧
        aged.length = frame.length ∧
        (∀ index, index ≠ 22 → index ≠ 24 → index ≠ 25 → aged[index]? = frame[index]?) ∧
        ChecksumHolds aged) ∧
      (34 ≤ frame.length → ∀ count,
        (ageTimes count frame).1 = (List.range count).map (ttlAfter (life frame)) ∧
        life (ageTimes count frame).2 = life frame - count ∧
        (ageTimes count frame).2.length = frame.length ∧
        (∀ index, index ≠ 22 → index ≠ 24 → index ≠ 25 →
          (ageTimes count frame).2[index]? = frame[index]?) ∧
        (ChecksumHolds frame ∨ 0 < count ∧ 0 < life frame →
          ChecksumHolds (ageTimes count frame).2)) := by
  refine ⟨age_of_refused frame, fun whole alive => ?_, fun whole count => ?_⟩
  · obtain ⟨aged, called, written, spent, holds⟩ := age_of_alive frame whole alive
    exact ⟨aged, called, written, spent.length_eq, spent.kept, holds⟩
  · obtain ⟨ttls, spent, sound⟩ := ageTimes_spent count frame whole
    exact ⟨ttls, spent.life_eq, spent.length_eq, spent.kept, sound⟩

/-- A frame whose datagram has two hops left, a header that says that it has no length, and a
checksum that does not hold. -/
def headless : Octets :=
  List.replicate 14 0 ++ [0x40, 0, 0, 22, 0, 0, 0, 0, 2, 253, 0xbe, 0xef] ++
    [10, 0, 0, 9, 10, 0, 1, 7, 0xaa, 0xbb]

/-- The third of three calls is refused, and the checksum holds after them. -/
theorem decrementTtl?_exact_headless :
    34 ≤ headless.length ∧ Octets.octetAt headless 22 ≠ 0 ∧ ¬ ChecksumHolds headless ∧
      (∃ aged, age headless = (some 1, aged) ∧ ChecksumHolds aged) ∧
      (ageTimes 3 headless).1 = [some 1, some 0, none] ∧
      ChecksumHolds (ageTimes 3 headless).2 ∧
      age (ageTimes 3 headless).2 = (none, (ageTimes 3 headless).2) := by
  have whole : 34 ≤ headless.length := by decide
  have alive : Octets.octetAt headless 22 ≠ 0 := by decide
  obtain ⟨-, once, often⟩ := decrementTtl?_exact headless
  obtain ⟨aged, called, -, -, -, holds⟩ := once whole alive
  obtain ⟨ttls, left, -, -, sound⟩ := often whole 3
  have dead : Octets.octetAt (ageTimes 3 headless).2 22 = 0 := UInt8.toNat_inj.mp left
  exact ⟨whole, alive, by decide, ⟨aged, called, holds⟩, ttls, sound (.inr (by decide)),
    (decrementTtl?_exact _).1 (.inr dead)⟩

end Frame

end Ipv4Router
