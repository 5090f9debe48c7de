/-
This file defines the ledger of an address: the frames that its queue accepted in the
course of a run, each with its one fate. A frame still waits, a binding released it, or
a sweep dropped it. A ledger changes in two ways: new frames enter at its end, and all
frames that wait are settled at once. So what was accepted earlier is never settled
later.
-/

import Mathlib
import Ipv4Router.Octets

namespace Ipv4Router.Neighbor

/-! ### Fates -/

/-- What became of an accepted frame; a moment is named by its place in the history. -/
inductive Fate
  | waiting
  | released (moment : Nat)
  | dropped (moment : Nat)
deriving DecidableEq

/-- The moment that settled the fate of a frame. -/
def Fate.settled? : Fate → Option Nat
  | waiting => none
  | released moment => some moment
  | dropped moment => some moment

theorem Fate.released_ne_waiting (moment : Nat) : released moment ≠ waiting := nofun

theorem Fate.dropped_ne_waiting (moment : Nat) : dropped moment ≠ waiting := nofun

theorem Fate.released_ne_dropped (moment other : Nat) : released moment ≠ dropped other := nofun

/-- The accepted frames, in order, each with its fate. -/
abbrev Ledger := List (Octets × Fate)

namespace Ledger

/-- The frames with a given fate, in the order in which they were accepted. -/
def frames (ledger : Ledger) (fate : Fate) : List Octets :=
  (ledger.filter fun entry => entry.2 = fate).map Prod.fst

/-- The ledger after more frames were accepted. -/
def enter (ledger : Ledger) (fresh : List Octets) : Ledger :=
  ledger ++ fresh.map fun frame => (frame, .waiting)

/-- The ledger after all that waited met a fate. -/
def settle (ledger : Ledger) (fate : Fate) : Ledger :=
  ledger.map fun entry => if entry.2 = .waiting then (entry.1, fate) else entry

/-- All settled frames were settled before a place in the history. -/
def SettledBefore (ledger : Ledger) (place : Nat) : Prop :=
  ∀ entry ∈ ledger, ∀ moment, entry.2.settled? = some moment → moment < place

/-- No frame was settled before one that was accepted earlier. -/
def Ordered (ledger : Ledger) : Prop :=
  ledger.Pairwise fun earlier later => ∀ moment, later.2.settled? = some moment →
    ∃ sooner ≤ moment, earlier.2.settled? = some sooner

theorem map_fst_enter (ledger : Ledger) (fresh : List Octets) :
    (ledger.enter fresh).map Prod.fst = ledger.map Prod.fst ++ fresh := by
  rw [enter, List.map_append, List.map_map]
  exact congrArg _ (List.map_id fresh)

theorem map_fst_settle (ledger : Ledger) (fate : Fate) :
    (ledger.settle fate).map Prod.fst = ledger.map Prod.fst := by
  rw [settle, List.map_map]
  refine List.map_congr_left fun entry _ => ?_
  show (if entry.2 = .waiting then (entry.1, fate) else entry).1 = entry.1
  split <;> rfl

theorem frames_cons (entry : Octets × Fate) (rest : Ledger) (fate : Fate) :
    frames (entry :: rest) fate =
      if entry.2 = fate then entry.1 :: frames rest fate else frames rest fate := by
  unfold frames
  rw [List.filter_cons]
  by_cases same : entry.2 = fate
  · rw [if_pos (decide_eq_true same), if_pos same, List.map_cons]
  · rw [if_neg fun equal => same (of_decide_eq_true equal), if_neg same]

theorem settle_cons (entry : Octets × Fate) (rest : Ledger) (fate : Fate) :
    settle (entry :: rest) fate =
      (if entry.2 = .waiting then (entry.1, fate) else entry) :: settle rest fate := rfl

theorem frames_append (front rest : Ledger) (fate : Fate) :
    frames (front ++ rest) fate = frames front fate ++ frames rest fate := by
  rw [frames, List.filter_append, List.map_append, frames, frames]

theorem frames_fresh (fresh : List Octets) (fate : Fate) :
    frames (fresh.map fun frame => (frame, .waiting)) fate =
      if fate = .waiting then fresh else [] := by
  induction fresh with
  | nil => split <;> rfl
  | cons frame fresh inductionHypothesis =>
    rw [List.map_cons, frames_cons, inductionHypothesis]
    by_cases waiting : fate = .waiting
    · rw [if_pos waiting.symm, if_pos waiting, if_pos waiting]
    · rw [if_neg (Ne.symm waiting), if_neg waiting, if_neg waiting]

theorem frames_enter (ledger : Ledger) (fresh : List Octets) (fate : Fate) :
    (ledger.enter fresh).frames fate =
      ledger.frames fate ++ if fate = .waiting then fresh else [] := by
  rw [enter, frames_append, frames_fresh]

/-- Settling leaves no frame waiting, adds what waited to the new fate, and keeps all others. -/
theorem frames_settle_waiting (ledger : Ledger) (fate : Fate) (settled : fate ≠ .waiting) :
    (ledger.settle fate).frames .waiting = [] := by
  induction ledger with
  | nil => rfl
  | cons entry rest inductionHypothesis =>
    rw [settle_cons, frames_cons, inductionHypothesis]
    by_cases waiting : entry.2 = .waiting
    · rw [if_pos waiting, if_neg settled]
    · rw [if_neg waiting, if_neg waiting]

theorem frames_settle_self (ledger : Ledger) (fate : Fate)
    (fresh : ∀ entry ∈ ledger, entry.2 ≠ fate) :
    (ledger.settle fate).frames fate = ledger.frames .waiting := by
  induction ledger with
  | nil => rfl
  | cons entry rest inductionHypothesis =>
    rw [settle_cons, frames_cons, frames_cons,
      inductionHypothesis fun other member => fresh other (List.mem_cons_of_mem _ member)]
    by_cases waiting : entry.2 = .waiting
    · rw [if_pos waiting, if_pos rfl, if_pos waiting]
    · rw [if_neg waiting, if_neg (fresh entry List.mem_cons_self), if_neg waiting]

theorem frames_settle_other (ledger : Ledger) (fate other : Fate) (different : fate ≠ other)
    (settled : .waiting ≠ other) : (ledger.settle fate).frames other = ledger.frames other := by
  induction ledger with
  | nil => rfl
  | cons entry rest inductionHypothesis =>
    rw [settle_cons, frames_cons, frames_cons, inductionHypothesis]
    by_cases waiting : entry.2 = .waiting
    · rw [if_pos waiting, if_neg different, waiting, if_neg settled]
    · rw [if_neg waiting]

theorem unsettled_at (ledger : Ledger) (fate : Fate) (place : Nat)
    (settledBefore : ledger.SettledBefore place) (atPlace : fate.settled? = some place) :
    ∀ entry ∈ ledger, entry.2 ≠ fate := by
  rintro entry member rfl
  exact absurd (settledBefore entry member place atPlace) (lt_irrefl place)

theorem frames_eq_nil (ledger : Ledger) (fate : Fate) (place : Nat)
    (settledBefore : ledger.SettledBefore place) (atPlace : fate.settled? = some place) :
    ledger.frames fate = [] :=
  List.map_eq_nil_iff.mpr (List.filter_eq_nil_iff.mpr fun entry member same =>
    ledger.unsettled_at fate place settledBefore atPlace entry member (of_decide_eq_true same))

/-! ### The order of the moments -/

theorem mem_settle (ledger : Ledger) (fate : Fate) (entry : Octets × Fate)
    (member : entry ∈ ledger.settle fate) : entry ∈ ledger ∨ entry.2 = fate := by
  obtain ⟨old, oldMember, rfl⟩ := List.mem_map.mp member
  split
  · exact Or.inr rfl
  · exact Or.inl oldMember

theorem mem_enter (ledger : Ledger) (fresh : List Octets) (entry : Octets × Fate)
    (member : entry ∈ ledger.enter fresh) : entry ∈ ledger ∨ entry.2 = .waiting := by
  rcases List.mem_append.mp member with old | new
  · exact Or.inl old
  · obtain ⟨frame, -, rfl⟩ := List.mem_map.mp new
    exact Or.inr rfl

theorem settledBefore_enter (ledger : Ledger) (fresh : List Octets) (place : Nat)
    (settledBefore : ledger.SettledBefore place) :
    (ledger.enter fresh).SettledBefore (place + 1) := by
  intro entry member moment settled
  rcases mem_enter ledger fresh entry member with old | waiting
  · exact Nat.lt_succ_of_lt (settledBefore entry old moment settled)
  · rw [waiting] at settled
    cases settled

theorem settledBefore_settle (ledger : Ledger) (fate : Fate) (place : Nat)
    (atPlace : fate.settled? = some place) (settledBefore : ledger.SettledBefore place) :
    (ledger.settle fate).SettledBefore (place + 1) := by
  intro entry member moment settled
  rcases mem_settle ledger fate entry member with old | new
  · exact Nat.lt_succ_of_lt (settledBefore entry old moment settled)
  · rw [new, atPlace, Option.some_inj] at settled
    rw [← settled]
    exact Nat.lt_succ_self place

theorem ordered_enter (ledger : Ledger) (fresh : List Octets) (ordered : ledger.Ordered) :
    (ledger.enter fresh).Ordered := by
  have unsettled : ∀ entry ∈ fresh.map fun frame => (frame, Fate.waiting),
      entry.2.settled? = none := by
    intro entry member
    obtain ⟨frame, -, rfl⟩ := List.mem_map.mp member
    rfl
  refine List.pairwise_append.mpr ⟨ordered, ?_, ?_⟩
  · refine List.pairwise_of_forall_mem_list ?_
    intro _ _ later member moment settled
    rw [unsettled later member] at settled
    cases settled
  · intro _ _ later member moment settled
    rw [unsettled later member] at settled
    cases settled

theorem ordered_settle (ledger : Ledger) (fate : Fate) (place : Nat)
    (atPlace : fate.settled? = some place) (settledBefore : ledger.SettledBefore place)
    (ordered : ledger.Ordered) : (ledger.settle fate).Ordered := by
  refine List.pairwise_map.mpr (List.Pairwise.imp_of_mem ?_ ordered)
  intro earlier later earlierMember _ sooner moment settled
  -- What waited is settled last of all; what was settled before keeps its place.
  by_cases laterWaits : later.2 = .waiting
  · rw [if_pos laterWaits, atPlace, Option.some_inj] at settled
    by_cases earlierWaits : earlier.2 = .waiting
    · exact ⟨place, le_of_eq settled, by rw [if_pos earlierWaits, atPlace]⟩
    · rw [if_neg earlierWaits]
      cases earlierIs : earlier.2 with
      | waiting => exact absurd earlierIs earlierWaits
      | released before | dropped before =>
        have bound := settledBefore earlier earlierMember before (by rw [earlierIs]; rfl)
        exact ⟨before, by omega, rfl⟩
  · rw [if_neg laterWaits] at settled
    obtain ⟨before, notAfter, earlierSettled⟩ := sooner moment settled
    refine ⟨before, notAfter, ?_⟩
    rw [if_neg fun waits => by rw [waits] at earlierSettled; cases earlierSettled]
    exact earlierSettled

end Ledger

end Ipv4Router.Neighbor
