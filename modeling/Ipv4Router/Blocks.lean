/-
This file cuts a list into consecutive blocks of one size. Message bodies are cut
into records and long advertisements into messages with it. As many blocks as the
size needs give the whole list back, in order.
-/

namespace Ipv4Router.Blocks

/-- The first `count` blocks of `size` items each; the last may be shorter. -/
def take {Item : Type} (size : Nat) : (count : Nat) → List Item → List (List Item)
  | 0, _ => []
  | count + 1, items => items.take size :: take size count (items.drop size)

/-- All blocks of `size` items each; only the last may be shorter. -/
def split {Item : Type} (size : Nat) (items : List Item) : List (List Item) :=
  take size ((items.length + size - 1) / size) items

theorem flatten_take {Item : Type} (size count : Nat) (items : List Item) :
    (take size count items).flatten = items.take (size * count) := by
  induction count generalizing items with
  | zero => simp [take]
  | succ count inductionHypothesis =>
    rw [take, List.flatten_cons, inductionHypothesis, Nat.mul_succ, Nat.add_comm, List.take_add]

/-- The blocks of a list, one after the other, are the list. -/
theorem flatten_split {Item : Type} (size : Nat) (positive : 0 < size) (items : List Item) :
    (split size items).flatten = items := by
  rw [split, flatten_take, List.take_of_length_le]
  have := Nat.div_add_mod (items.length + size - 1) size
  have := Nat.mod_lt (items.length + size - 1) positive
  omega

end Ipv4Router.Blocks
