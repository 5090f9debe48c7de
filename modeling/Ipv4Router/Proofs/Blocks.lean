/-
This file says how long the blocks of a list are. No block is longer than the size, and all
but the last have it; so items that were written with one length each are cut apart again.
-/

import Ipv4Router.Blocks

namespace Ipv4Router.Blocks

section Lengths

variable {Item : Type} (size : Nat)

theorem length_le_of_mem_take (count : Nat) (items block : List Item)
    (member : block ∈ take size count items) : block.length ≤ size := by
  induction count generalizing items with
  | zero => cases member
  | succ count inductionHypothesis =>
    rcases List.mem_cons.mp member with rfl | inRest
    · exact List.length_take_le size items
    · exact inductionHypothesis (items.drop size) inRest

theorem length_of_mem_take (count : Nat) (items block : List Item)
    (enough : size * count ≤ items.length) (member : block ∈ take size count items) :
    block.length = size := by
  induction count generalizing items with
  | zero => cases member
  | succ count inductionHypothesis =>
    rw [Nat.mul_succ] at enough
    rcases List.mem_cons.mp member with rfl | inRest
    · rw [List.length_take]
      omega
    · refine inductionHypothesis (items.drop size) ?_ inRest
      rw [List.length_drop]
      omega

theorem dropLast_take (count : Nat) (items : List Item) :
    (take size (count + 1) items).dropLast = take size count items := by
  induction count generalizing items with
  | zero => rfl
  | succ count inductionHypothesis =>
    have more : take size (count + 1) (items.drop size) ≠ [] := List.cons_ne_nil _ _
    rw [take, List.dropLast_cons_of_ne_nil more, inductionHypothesis, take]

theorem length_le_of_mem_split (items block : List Item) (member : block ∈ split size items) :
    block.length ≤ size :=
  length_le_of_mem_take size _ items block member

/-- All blocks but the last are full. -/
theorem length_of_mem_dropLast_split (positive : 0 < size) (items block : List Item)
    (member : block ∈ (split size items).dropLast) : block.length = size := by
  have enough := Nat.mul_div_le (items.length + size - 1) size
  rw [split] at member
  cases count : (items.length + size - 1) / size with
  | zero =>
    rw [count] at member
    cases member
  | succ full =>
    rw [count, dropLast_take] at member
    rw [count, Nat.mul_succ] at enough
    exact length_of_mem_take size full items block (by omega) member

theorem split_ne_nil (positive : 0 < size) (items : List Item) (nonempty : items ≠ []) :
    split size items ≠ [] := by
  intro none
  have whole := flatten_split size positive items
  rw [none] at whole
  exact nonempty whole.symm

/-- Items that fill some blocks are cut into as many. -/
theorem split_eq_take (positive : 0 < size) (count : Nat) (items : List Item)
    (filled : items.length = size * count) : split size items = take size count items := by
  rw [split, filled, Nat.add_sub_assoc positive, Nat.mul_add_div positive,
    Nat.div_eq_of_lt (Nat.sub_lt positive Nat.one_pos), Nat.add_zero]

end Lengths

/-- Items written with one length each are cut apart again. -/
theorem split_flatMap {Item Symbol : Type} (size : Nat) (positive : 0 < size)
    (write : Item → List Symbol) (width : ∀ item, (write item).length = size)
    (items : List Item) : split size (items.flatMap write) = items.map write := by
  have total : (items.flatMap write).length = size * items.length := by
    rw [List.length_flatMap, List.map_congr_left fun item _ => width item, List.map_const',
      List.sum_replicate_nat, Nat.mul_comm]
  rw [split_eq_take size positive items.length _ total]
  clear total
  induction items with
  | nil => rfl
  | cons item rest inductionHypothesis =>
    rw [List.length_cons, take, List.flatMap_cons, List.take_left' (width item),
      List.drop_left' (width item), inductionHypothesis, List.map_cons]

end Ipv4Router.Blocks
