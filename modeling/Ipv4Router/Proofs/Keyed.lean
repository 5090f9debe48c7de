/-
This file describes finite maps kept as lists through what is found under each key.
Every operation has one equation for the key that it names and leaves what is found
under all other keys as it was. Removing and selecting items act key by key only because
no key occurs twice.
-/

import Mathlib.Data.List.Induction
import Ipv4Router.Keyed

namespace Ipv4Router.Keyed

variable {Key Item : Type} [DecidableEq Key]

/-! ### Finding -/

theorem find?_cons (keyOf : Item → Key) (key : Key) (item : Item) (rest : List Item) :
    find? keyOf key (item :: rest) =
      if keyOf item = key then some item else find? keyOf key rest := by
  unfold find?
  rw [List.find?_cons]
  by_cases same : keyOf item = key
  · simp only [same, beq_self_eq_true, if_true]
  · simp only [beq_eq_false_iff_ne.mpr same, if_neg same]

theorem mem_of_find? (keyOf : Item → Key) (key : Key) (items : List Item) (item : Item)
    (found : find? keyOf key items = some item) : item ∈ items ∧ keyOf item = key :=
  ⟨List.mem_of_find?_eq_some found, by simpa using List.find?_some found⟩

theorem find?_eq_none (keyOf : Item → Key) (key : Key) (items : List Item) :
    find? keyOf key items = none ↔ key ∉ items.map keyOf := by
  simp [find?]

/-- The item found under a key is the first one with it. -/
theorem split_of_find? (keyOf : Item → Key) (key : Key) (items : List Item) (item : Item)
    (found : find? keyOf key items = some item) :
    keyOf item = key ∧ ∃ earlier later, items = earlier ++ item :: later ∧
      ∀ other ∈ earlier, keyOf other ≠ key := by
  obtain ⟨same, earlier, later, place, others⟩ := List.find?_eq_some_iff_append.mp found
  refine ⟨beq_iff_eq.mp same, earlier, later, place, fun other member equal => ?_⟩
  have differs := others other member
  rw [beq_iff_eq.mpr equal] at differs
  cases differs

/-- Under unique keys, every item is the one found under its key. -/
theorem find?_of_mem (keyOf : Item → Key) (items : List Item) (unique : Unique keyOf items)
    (item : Item) (member : item ∈ items) : find? keyOf (keyOf item) items = some item := by
  induction items with
  | nil => cases member
  | cons head rest inductionHypothesis =>
    obtain ⟨fresh, restUnique⟩ := List.nodup_cons.mp unique
    rw [find?_cons]
    rcases List.mem_cons.mp member with rfl | inRest
    · rw [if_pos rfl]
    · have different : keyOf head ≠ keyOf item := fun same =>
        fresh (by rw [same]; exact List.mem_map_of_mem inRest)
      rw [if_neg different]
      exact inductionHypothesis restUnique inRest

theorem mem_iff_find? (keyOf : Item → Key) (items : List Item) (unique : Unique keyOf items)
    (item : Item) : item ∈ items ↔ find? keyOf (keyOf item) items = some item :=
  ⟨find?_of_mem keyOf items unique item, fun found => (mem_of_find? keyOf _ _ _ found).1⟩

omit [DecidableEq Key] in
/-- Under unique keys, what only the items under one key contribute is what one item does. -/
theorem flatMap_of_mem {Result : Type} (keyOf : Item → Key) (items : List Item)
    (unique : Unique keyOf items) (item : Item) (member : item ∈ items)
    (results : Item → List Result)
    (others : ∀ other, keyOf other ≠ keyOf item → results other = []) :
    items.flatMap results = results item := by
  induction items with
  | nil => cases member
  | cons head rest inductionHypothesis =>
    obtain ⟨fresh, restUnique⟩ := List.nodup_cons.mp unique
    rw [List.flatMap_cons]
    rcases List.mem_cons.mp member with rfl | inRest
    · have none : rest.flatMap results = [] :=
        List.flatMap_eq_nil_iff.mpr fun other inRest => others other fun same =>
          fresh (same ▸ List.mem_map_of_mem inRest)
      rw [none, List.append_nil]
    · have different : keyOf head ≠ keyOf item := fun same =>
        fresh (same ▸ List.mem_map_of_mem inRest)
      rw [others head different, List.nil_append, inductionHypothesis restUnique inRest]

/-- Under unique keys, the items under a key are the one that is found. -/
theorem filter_key (keyOf : Item → Key) (key : Key) (items : List Item)
    (unique : Unique keyOf items) :
    items.filter (fun item => keyOf item == key) = (find? keyOf key items).toList := by
  induction items with
  | nil => rfl
  | cons item rest inductionHypothesis =>
    obtain ⟨fresh, restUnique⟩ := List.nodup_cons.mp unique
    rw [List.filter_cons, find?_cons, inductionHypothesis restUnique]
    by_cases same : keyOf item = key
    · rw [if_pos (beq_iff_eq.mpr same), if_pos same,
        (find?_eq_none keyOf key rest).mpr (same ▸ fresh)]
      rfl
    · rw [if_neg fun equal => same (beq_iff_eq.mp equal), if_neg same]

/-- Where the first keys are those of some items, and what is found under each of them is known, so
are the first items. -/
theorem take_eq_map (keyOf : Item → Key) (items after : List Item) (added : List Key)
    (change : Item → Item) (unique : Unique keyOf items)
    (keys : after.map keyOf = items.map keyOf ++ added)
    (changed : ∀ item ∈ items, find? keyOf (keyOf item) after = some (change item)) :
    after.take items.length = items.map change := by
  induction items generalizing after with
  | nil => rfl
  | cons item rest inductionHypothesis =>
    obtain ⟨fresh, restUnique⟩ := List.nodup_cons.mp unique
    cases after with
    | nil => cases keys
    | cons head tail =>
      obtain ⟨same, restKeys⟩ := List.cons.inj keys
      have here := changed item List.mem_cons_self
      rw [find?_cons, if_pos same, Option.some_inj] at here
      rw [List.length_cons, List.take_succ_cons, List.map_cons, here,
        inductionHypothesis tail restUnique restKeys fun later member => ?_]
      have different : keyOf head ≠ keyOf later := fun equal =>
        fresh (same ▸ equal ▸ List.mem_map_of_mem member)
      have there := changed later (List.mem_cons_of_mem _ member)
      rwa [find?_cons, if_neg different] at there

/-! ### Adding -/

theorem put_of_absent (keyOf : Item → Key) (fresh : Item) (items : List Item)
    (absent : find? keyOf (keyOf fresh) items = none) :
    put keyOf fresh items = items ++ [fresh] := by
  induction items with
  | nil => rfl
  | cons item rest inductionHypothesis =>
    rw [find?_cons] at absent
    by_cases same : keyOf item = keyOf fresh
    · rw [if_pos same] at absent
      cases absent
    · rw [if_neg same] at absent
      rw [put, if_neg same, inductionHypothesis absent, List.cons_append]

/-- Adding an item under a known key replaces the first item with it. -/
theorem put_append (keyOf : Item → Key) (fresh old : Item) (earlier later : List Item)
    (same : keyOf old = keyOf fresh) (others : ∀ other ∈ earlier, keyOf other ≠ keyOf fresh) :
    put keyOf fresh (earlier ++ old :: later) = earlier ++ fresh :: later := by
  induction earlier with
  | nil => exact if_pos same
  | cons head rest inductionHypothesis =>
    obtain ⟨different, restDifferent⟩ := List.forall_mem_cons.mp others
    rw [List.cons_append, put, if_neg different, inductionHypothesis restDifferent,
      List.cons_append]

/-- Adding an item replaces what stands under its key and leaves every other item in its place. -/
theorem getElem?_put (keyOf : Item → Key) (fresh : Item) (items : List Item)
    (unique : Unique keyOf items) (position : Nat) (item : Item)
    (there : items[position]? = some item) :
    (put keyOf fresh items)[position]? =
      some (if keyOf item = keyOf fresh then fresh else item) := by
  induction items generalizing position with
  | nil => cases there
  | cons head rest inductionHypothesis =>
    obtain ⟨new, restUnique⟩ := List.nodup_cons.mp unique
    rw [put]
    cases position with
    | zero =>
      obtain rfl : head = item := Option.some_inj.mp there
      by_cases same : keyOf head = keyOf fresh
      · rw [if_pos same, if_pos same]
        rfl
      · rw [if_neg same, if_neg same]
        rfl
    | succ position =>
      by_cases same : keyOf head = keyOf fresh
      · have different : keyOf item ≠ keyOf fresh := fun equal =>
          new (by
            rw [same, ← equal]
            exact List.mem_map_of_mem (List.mem_of_getElem? there))
        rw [if_pos same, if_neg different]
        exact there
      · rw [if_neg same]
        exact inductionHypothesis restUnique position there

/-- After adding an item, the items are it and the old ones under other keys. -/
theorem mem_put (keyOf : Item → Key) (fresh : Item) (items : List Item) (item : Item)
    (member : item ∈ put keyOf fresh items) : item = fresh ∨ item ∈ items := by
  induction items with
  | nil => exact Or.inl (List.mem_singleton.mp member)
  | cons head rest inductionHypothesis =>
    rw [put] at member
    split at member
    · rcases List.mem_cons.mp member with same | inRest
      · exact Or.inl same
      · exact Or.inr (List.mem_cons_of_mem _ inRest)
    · rcases List.mem_cons.mp member with rfl | inRest
      · exact Or.inr List.mem_cons_self
      · exact (inductionHypothesis inRest).imp_right (List.mem_cons_of_mem _)

/-- Under unique keys, the old items that stay are those under other keys. -/
theorem mem_put_iff (keyOf : Item → Key) (fresh : Item) (items : List Item)
    (unique : Unique keyOf items) (item : Item) :
    item ∈ put keyOf fresh items ↔ item = fresh ∨ item ∈ items ∧ keyOf item ≠ keyOf fresh := by
  rw [mem_iff_find? keyOf _ (unique_put keyOf items unique fresh),
    mem_iff_find? keyOf items unique]
  by_cases same : keyOf fresh = keyOf item
  · rw [← same, find?_put_self, Option.some_inj, eq_comm]
    exact ⟨Or.inl, fun choice => choice.resolve_right fun old => old.2 rfl⟩
  · rw [find?_put_other keyOf fresh items _ same]
    constructor
    · exact fun found => Or.inr ⟨found, Ne.symm same⟩
    · rintro (rfl | old)
      · exact absurd rfl same
      · exact old.1

/-! ### Adding one after the other -/

/-- The map to which items were added one after the other, the first one first. -/
def putAll (keyOf : Item → Key) (items : List Item) : List Item :=
  items.foldl (fun known item => put keyOf item known) []

/-- The item stands last among those with its key. -/
def Last (keyOf : Item → Key) (items : List Item) (item : Item) : Prop :=
  ∃ earlier later, items = earlier ++ item :: later ∧
    ∀ other ∈ later, keyOf other ≠ keyOf item

section Adding

variable (keyOf : Item → Key) (items : List Item)

theorem putAll_append (last : Item) :
    putAll keyOf (items ++ [last]) = put keyOf last (putAll keyOf items) :=
  List.foldl_append

theorem unique_putAll : Unique keyOf (putAll keyOf items) :=
  List.foldlRecOn items _ List.nodup_nil
    fun known unique item _ => unique_put keyOf known unique item

theorem eraseDups_append_singleton (keys : List Key) (last : Key) :
    (keys ++ [last]).eraseDups =
      if last ∈ keys then keys.eraseDups else keys.eraseDups ++ [last] := by
  rw [List.eraseDups_append]
  by_cases known : last ∈ keys
  · rw [if_pos known]
    simp [List.removeAll, known]
  · rw [if_neg known]
    simp [List.removeAll, known, List.eraseDups_cons]

/-- The keys keep the order in which they were first added. -/
theorem map_putAll : (putAll keyOf items).map keyOf = (items.map keyOf).eraseDups := by
  induction items using List.reverseRecOn with
  | nil => rfl
  | append_singleton items last inductionHypothesis =>
    rw [putAll_append, map_put, inductionHypothesis, List.map_append, List.map_singleton,
      eraseDups_append_singleton]
    simp only [List.mem_eraseDups]

/-- What is found under a key is what was last added under it. -/
theorem find?_putAll (key : Key) :
    find? keyOf key (putAll keyOf items) = find? keyOf key items.reverse := by
  induction items using List.reverseRecOn with
  | nil => rfl
  | append_singleton items last inductionHypothesis =>
    rw [putAll_append, List.reverse_append, List.reverse_singleton, List.singleton_append,
      find?_cons]
    by_cases same : keyOf last = key
    · subst same
      rw [if_pos rfl, find?_put_self]
    · rw [if_neg same, find?_put_other keyOf last _ key same, inductionHypothesis]

theorem find?_putAll_eq_none (key : Key) :
    find? keyOf key (putAll keyOf items) = none ↔ key ∉ items.map keyOf := by
  rw [find?_putAll, find?_eq_none, List.map_reverse, List.mem_reverse]

theorem find?_putAll_eq_some (key : Key) (item : Item) :
    find? keyOf key (putAll keyOf items) = some item ↔
      keyOf item = key ∧ Last keyOf items item := by
  rw [find?_putAll]
  constructor
  · intro found
    obtain ⟨rfl, later, earlier, place, others⟩ := split_of_find? keyOf key _ item found
    refine ⟨rfl, earlier.reverse, later.reverse, ?_, fun other member =>
      others other (List.mem_reverse.mp member)⟩
    rw [← List.reverse_reverse items, place, List.reverse_append, List.reverse_cons,
      List.append_assoc, List.singleton_append]
  · rintro ⟨rfl, earlier, later, rfl, others⟩
    refine List.find?_eq_some_iff_append.mpr
      ⟨beq_self_eq_true _, later.reverse, earlier.reverse, ?_, fun other member => ?_⟩
    · rw [List.reverse_append, List.reverse_cons, List.append_assoc, List.singleton_append]
    · have differs := others other (List.mem_reverse.mp member)
      rw [beq_eq_false_iff_ne.mpr differs]
      rfl

/-- The items of the map are those that no later one has replaced. -/
theorem mem_putAll (item : Item) : item ∈ putAll keyOf items ↔ Last keyOf items item := by
  rw [mem_iff_find? keyOf _ (unique_putAll keyOf items), find?_putAll_eq_some]
  exact and_iff_right rfl

/-- Items of different keys are all kept, in their order. -/
theorem putAll_of_unique (unique : Unique keyOf items) : putAll keyOf items = items := by
  induction items using List.reverseRecOn with
  | nil => rfl
  | append_singleton items last inductionHypothesis =>
    unfold Unique at unique
    rw [List.map_append] at unique
    obtain ⟨itemsUnique, -, apart⟩ := List.nodup_append.mp unique
    have absent : find? keyOf (keyOf last) items = none :=
      (find?_eq_none keyOf _ items).mpr fun member =>
        apart _ member _ (List.mem_map_of_mem (List.mem_singleton_self last)) rfl
    rw [putAll_append, inductionHypothesis itemsUnique, put_of_absent keyOf last items absent]

end Adding

/-! ### Changing -/

section Changing

variable (keyOf : Item → Key) (key : Key) (change : Item → Item)

theorem find?_adjust_self (kept : ∀ item, keyOf (change item) = keyOf item) (items : List Item) :
    find? keyOf key (adjust keyOf key change items) = (find? keyOf key items).map change := by
  induction items with
  | nil => rfl
  | cons item rest inductionHypothesis =>
    rw [adjust, find?_cons]
    by_cases same : keyOf item = key
    · rw [if_pos same, find?_cons, kept, if_pos same, if_pos same, Option.map_some]
    · rw [if_neg same, find?_cons, if_neg same, if_neg same, inductionHypothesis]

theorem find?_adjust_other (kept : ∀ item, keyOf (change item) = keyOf item) (items : List Item)
    (other : Key) (different : key ≠ other) :
    find? keyOf other (adjust keyOf key change items) = find? keyOf other items := by
  induction items with
  | nil => rfl
  | cons item rest inductionHypothesis =>
    rw [adjust]
    by_cases same : keyOf item = key
    · rw [if_pos same, find?_cons, find?_cons, kept, same, if_neg different, if_neg different]
    · rw [if_neg same, find?_cons, find?_cons, inductionHypothesis]

theorem adjust_append (old : Item) (earlier later : List Item) (same : keyOf old = key)
    (others : ∀ other ∈ earlier, keyOf other ≠ key) :
    adjust keyOf key change (earlier ++ old :: later) = earlier ++ change old :: later := by
  induction earlier with
  | nil => exact if_pos same
  | cons head rest inductionHypothesis =>
    obtain ⟨different, restDifferent⟩ := List.forall_mem_cons.mp others
    rw [List.cons_append, adjust, if_neg different, inductionHypothesis restDifferent,
      List.cons_append]

theorem adjust_of_absent (items : List Item) (absent : find? keyOf key items = none) :
    adjust keyOf key change items = items := by
  induction items with
  | nil => rfl
  | cons item rest inductionHypothesis =>
    rw [find?_cons] at absent
    split at absent
    · cases absent
    · rename_i different
      rw [adjust, if_neg different, inductionHypothesis absent]

/-- After changing an item, every item is an old one, as it was or changed. -/
theorem mem_adjust (items : List Item) (item : Item)
    (member : item ∈ adjust keyOf key change items) :
    item ∈ items ∨ ∃ old ∈ items, item = change old := by
  induction items with
  | nil => cases member
  | cons head rest inductionHypothesis =>
    rw [adjust] at member
    split at member
    · rcases List.mem_cons.mp member with rfl | inRest
      · exact Or.inr ⟨head, List.mem_cons_self, rfl⟩
      · exact Or.inl (List.mem_cons_of_mem _ inRest)
    · rcases List.mem_cons.mp member with rfl | inRest
      · exact Or.inl List.mem_cons_self
      · rcases inductionHypothesis inRest with inItems | ⟨old, inItems, rfl⟩
        · exact Or.inl (List.mem_cons_of_mem _ inItems)
        · exact Or.inr ⟨old, List.mem_cons_of_mem _ inItems, rfl⟩

/-- Changing an item that a selection leaves out, before and after, does not touch the selection. -/
theorem filter_adjust (select : Item → Bool) (items : List Item)
    (left : ∀ item, find? keyOf key items = some item →
      select item = false ∧ select (change item) = false) :
    (adjust keyOf key change items).filter select = items.filter select := by
  induction items with
  | nil => rfl
  | cons item rest inductionHypothesis =>
    simp only [find?_cons] at left
    rw [adjust]
    by_cases same : keyOf item = key
    · obtain ⟨before, after⟩ := left item (if_pos same)
      rw [if_pos same, List.filter_cons_of_neg (Bool.eq_false_iff.mp after),
        List.filter_cons_of_neg (Bool.eq_false_iff.mp before)]
    · simp only [if_neg same] at left
      rw [if_neg same, List.filter_cons, List.filter_cons, inductionHypothesis left]

end Changing

/-! ### Taking out -/

theorem erase_cons (keyOf : Item → Key) (key : Key) (item : Item) (rest : List Item) :
    erase keyOf key (item :: rest) =
      if keyOf item = key then rest else item :: erase keyOf key rest := by
  unfold erase
  rw [List.eraseP_cons]
  by_cases same : keyOf item = key
  · simp only [same, beq_self_eq_true, if_true, cond_true]
  · simp only [beq_eq_false_iff_ne.mpr same, if_neg same, cond_false]

/-- Taking out what is under a key takes out the first item with it. -/
theorem erase_append (keyOf : Item → Key) (key : Key) (old : Item) (earlier later : List Item)
    (same : keyOf old = key) (others : ∀ other ∈ earlier, keyOf other ≠ key) :
    erase keyOf key (earlier ++ old :: later) = earlier ++ later := by
  induction earlier with
  | nil => rw [List.nil_append, erase_cons, if_pos same, List.nil_append]
  | cons head rest inductionHypothesis =>
    obtain ⟨different, restDifferent⟩ := List.forall_mem_cons.mp others
    rw [List.cons_append, erase_cons, if_neg different, inductionHypothesis restDifferent,
      List.cons_append]

theorem erase_of_absent (keyOf : Item → Key) (key : Key) (items : List Item)
    (absent : find? keyOf key items = none) : erase keyOf key items = items :=
  List.eraseP_of_forall_not (List.find?_eq_none.mp absent)

theorem find?_erase_self (keyOf : Item → Key) (key : Key) (items : List Item)
    (unique : Unique keyOf items) : find? keyOf key (erase keyOf key items) = none := by
  induction items with
  | nil => rfl
  | cons item rest inductionHypothesis =>
    obtain ⟨fresh, restUnique⟩ := List.nodup_cons.mp unique
    rw [erase_cons]
    by_cases same : keyOf item = key
    · rw [if_pos same, find?_eq_none, ← same]
      exact fresh
    · rw [if_neg same, find?_cons, if_neg same]
      exact inductionHypothesis restUnique

theorem find?_erase_other (keyOf : Item → Key) (key other : Key) (items : List Item)
    (different : key ≠ other) :
    find? keyOf other (erase keyOf key items) = find? keyOf other items := by
  induction items with
  | nil => rfl
  | cons item rest inductionHypothesis =>
    rw [erase_cons]
    by_cases same : keyOf item = key
    · rw [if_pos same, find?_cons, same, if_neg different]
    · rw [if_neg same, find?_cons, find?_cons, inductionHypothesis]

/-- Selecting items selects under each key, as no item hides another. -/
theorem find?_filter (keyOf : Item → Key) (select : Item → Bool) (key : Key) (items : List Item)
    (unique : Unique keyOf items) :
    find? keyOf key (items.filter select) = (find? keyOf key items).filter select := by
  induction items with
  | nil => rfl
  | cons item rest inductionHypothesis =>
    obtain ⟨fresh, restUnique⟩ := List.nodup_cons.mp unique
    have inRest := inductionHypothesis restUnique
    rw [List.filter_cons, find?_cons]
    by_cases same : keyOf item = key
    · have absent : find? keyOf key rest = none := (find?_eq_none keyOf key rest).mpr (same ▸ fresh)
      rw [if_pos same]
      by_cases chosen : select item = true
      · rw [if_pos chosen, find?_cons, if_pos same, Option.filter_some_pos chosen]
      · rw [if_neg chosen, inRest, absent,
          Option.filter_some_neg (Bool.eq_false_iff.mpr chosen), Option.filter_none]
    · rw [if_neg same, ← inRest]
      split
      · rw [find?_cons, if_neg same]
      · rfl

theorem find?_map (keyOf : Item → Key) (change : Item → Item)
    (kept : ∀ item, keyOf (change item) = keyOf item) (key : Key) (items : List Item) :
    find? keyOf key (items.map change) = (find? keyOf key items).map change := by
  induction items with
  | nil => rfl
  | cons item rest inductionHypothesis =>
    rw [List.map_cons, find?_cons, find?_cons, kept]
    split
    · rfl
    · exact inductionHypothesis

end Ipv4Router.Keyed
