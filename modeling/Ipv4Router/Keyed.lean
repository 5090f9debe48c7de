/-
This file holds finite maps kept as lists of items, each item carrying its own
key, in the order in which the keys were first added. Adding an item under a known
key replaces the old item where it stands, and no operation makes a key occur twice.
The route table, the registry of interfaces and the neighbour cache are such lists.
-/

namespace Ipv4Router.Keyed

variable {Key Item : Type} [DecidableEq Key]

/-- The item under a key. -/
def find? (keyOf : Item → Key) (key : Key) (items : List Item) : Option Item :=
  items.find? fun item => keyOf item == key

/-- Puts an item in the place of the one under the same key, or at the end. -/
def put (keyOf : Item → Key) (fresh : Item) : List Item → List Item
  | [] => [fresh]
  | item :: rest =>
    if keyOf item = keyOf fresh then fresh :: rest else item :: put keyOf fresh rest

/-- Changes the item under a key, if there is one. -/
def adjust (keyOf : Item → Key) (key : Key) (change : Item → Item) : List Item → List Item
  | [] => []
  | item :: rest =>
    if keyOf item = key then change item :: rest else item :: adjust keyOf key change rest

/-- Takes out the item under a key, if there is one. -/
def erase (keyOf : Item → Key) (key : Key) (items : List Item) : List Item :=
  items.eraseP fun item => keyOf item == key

/-- Adding an item adds its key at the end exactly when the key is new. -/
theorem map_put (keyOf : Item → Key) (fresh : Item) (items : List Item) :
    (put keyOf fresh items).map keyOf =
      if keyOf fresh ∈ items.map keyOf then items.map keyOf
      else items.map keyOf ++ [keyOf fresh] := by
  induction items with
  | nil => simp [put]
  | cons item rest inductionHypothesis =>
    by_cases same : keyOf item = keyOf fresh
    · simp [put, same]
    · rw [put, if_neg same, List.map_cons, inductionHypothesis]
      by_cases known : keyOf fresh ∈ rest.map keyOf <;>
        simp [known, Ne.symm same]

/-- Changing an item keeps all keys. -/
theorem map_adjust (keyOf : Item → Key) (key : Key) (change : Item → Item)
    (kept : ∀ item, keyOf (change item) = keyOf item) (items : List Item) :
    (adjust keyOf key change items).map keyOf = items.map keyOf := by
  induction items with
  | nil => rfl
  | cons item rest inductionHypothesis =>
    rw [adjust]
    split
    · rw [List.map_cons, List.map_cons, kept]
    · rw [List.map_cons, List.map_cons, inductionHypothesis]

theorem find?_put_self (keyOf : Item → Key) (fresh : Item) (items : List Item) :
    find? keyOf (keyOf fresh) (put keyOf fresh items) = some fresh := by
  induction items with
  | nil => simp [put, find?]
  | cons item rest inductionHypothesis =>
    unfold find? at inductionHypothesis ⊢
    by_cases same : keyOf item = keyOf fresh
    · simp [put, same]
    · simp only [put, if_neg same, List.find?_cons, beq_eq_false_iff_ne.mpr same,
        inductionHypothesis]

theorem find?_put_other (keyOf : Item → Key) (fresh : Item) (items : List Item) (key : Key)
    (other : keyOf fresh ≠ key) :
    find? keyOf key (put keyOf fresh items) = find? keyOf key items := by
  induction items with
  | nil => simp [put, find?, other]
  | cons item rest inductionHypothesis =>
    unfold find? at inductionHypothesis ⊢
    by_cases same : keyOf item = keyOf fresh
    · simp [put, same, other]
    · simp only [put, if_neg same, List.find?_cons, inductionHypothesis]

/-! ### Unique keys -/

/-- No key occurs twice. -/
def Unique (keyOf : Item → Key) (items : List Item) : Prop := (items.map keyOf).Nodup

instance (keyOf : Item → Key) (items : List Item) : Decidable (Unique keyOf items) :=
  inferInstanceAs (Decidable (items.map keyOf).Nodup)

section Unique

variable (keyOf : Item → Key) (items : List Item) (unique : Unique keyOf items)

include unique

theorem unique_put (fresh : Item) : Unique keyOf (put keyOf fresh items) := by
  unfold Unique at unique ⊢
  rw [map_put]
  split
  · exact unique
  · rename_i absent
    refine List.nodup_append.mpr ⟨unique, by simp, fun key member last same => ?_⟩
    rw [List.mem_singleton.mp same]
    rintro rfl
    exact absent member

theorem unique_adjust (key : Key) (change : Item → Item)
    (kept : ∀ item, keyOf (change item) = keyOf item) :
    Unique keyOf (adjust keyOf key change items) := by
  unfold Unique
  rw [map_adjust keyOf key change kept]
  exact unique

theorem unique_erase (key : Key) : Unique keyOf (erase keyOf key items) :=
  List.Pairwise.sublist (List.eraseP_sublist.map keyOf) unique

omit [DecidableEq Key] in
theorem unique_filter (select : Item → Bool) : Unique keyOf (items.filter select) :=
  List.Pairwise.sublist (List.filter_sublist.map keyOf) unique

omit [DecidableEq Key] in
theorem unique_map (change : Item → Item) (kept : ∀ item, keyOf (change item) = keyOf item) :
    Unique keyOf (items.map change) := by
  unfold Unique
  rw [List.map_map, show keyOf ∘ change = keyOf from funext kept]
  exact unique

end Unique

end Ipv4Router.Keyed
