/-
This file describes the route table as a map that keeps the order in which its keys were first
added. The table after any operations, from the empty one on, has under each destination and
mask the route that was last put in there, as later updates left it, unless it was removed or
expired since. Each further operation touches the one route that it names, or those that have
expired, and leaves the others as they are and in their order.
-/

import Mathlib.Data.List.Induction
import Ipv4Router.Proofs.Route.Table

namespace Ipv4Router

/-! ### Expiry -/

/-- The route has a gateway, was not configured, and was not refreshed for the time given. -/
def Route.HasExpired (route : Route) (now timeout : Nat) : Prop :=
  route.gateway ≠ .unspecified ∧ route.origin ≠ .static ∧ timeout ≤ now - route.updatedAt

instance (route : Route) (now timeout : Nat) : Decidable (route.HasExpired now timeout) :=
  inferInstanceAs (Decidable (_ ∧ _ ∧ _))

theorem Route.isStale_iff (route : Route) (now timeout : Nat) :
    route.isStale now timeout = true ↔ route.HasExpired now timeout := by
  rw [isStale, canExpire, isAttached, Bool.and_eq_true, Bool.and_eq_true, Bool.not_eq_true',
    beq_eq_false_iff_ne, bne_iff_ne, decide_eq_true_eq, and_assoc]
  rfl

namespace RouteTable

/-! ### Operations -/

/-- One way to change a table. -/
inductive Operation
  | insert (route : Route)
  | update (destination mask gateway : Ipv4Address) (interface : String) (now : Nat)
    (cost : Option UInt32)
  | remove (destination mask : Ipv4Address)
  | expire (now timeout : Nat)
deriving DecidableEq

/-- What an operation tells about the table that it met. -/
inductive Answer
  | inserted (isNew : Bool)
  | updated (isKnown : Bool)
  | removed (route : Option Route)
  | expired (routes : List Route)
deriving DecidableEq

/-- The table after an operation, and what that tells. -/
def perform (table : RouteTable) : Operation → RouteTable × Answer
  | .insert route => ((table.insert route).1, .inserted (table.insert route).2)
  | .update destination mask gateway interface now cost =>
    ((table.update destination mask gateway interface now cost).1,
      .updated (table.update destination mask gateway interface now cost).2)
  | .remove destination mask =>
    ((table.remove destination mask).1, .removed (table.remove destination mask).2)
  | .expire now timeout => ((table.expire now timeout).1, .expired (table.expire now timeout).2)

/-- The table after operations, the first one first. -/
def performAll (table : RouteTable) (operations : List Operation) : RouteTable :=
  operations.foldl (fun table operation => (table.perform operation).1) table

theorem performAll_append (table : RouteTable) (operations : List Operation)
    (last : Operation) :
    table.performAll (operations ++ [last]) = ((table.performAll operations).perform last).1 :=
  List.foldl_append

/-! ### One operation -/

/-- What an operation does to an ordered map. What is put in under a new key comes last, and under a
known key it takes the place of what was there. An update changes a route where it stands, in
everything but its key and its origin. What is taken out leaves the others in their order. -/
inductive Turn (table : RouteTable) : Operation → List Route → Answer → Prop
  | appended (route : Route) (absent : route.key ∉ table.keys) :
    Turn table (.insert route) (table.routes ++ [route]) (.inserted true)
  | replaced (route old : Route) (earlier later : List Route)
    (place : table.routes = earlier ++ old :: later) (same : old.key = route.key) :
    Turn table (.insert route) (earlier ++ route :: later) (.inserted false)
  | updated (destination mask gateway : Ipv4Address) (interface : String) (now : Nat)
    (cost : Option UInt32) (old : Route) (earlier later : List Route)
    (place : table.routes = earlier ++ old :: later) (same : old.key = (destination, mask)) :
    Turn table (.update destination mask gateway interface now cost)
      (earlier ++ { old with gateway, interface, updatedAt := now, cost := cost.getD old.cost } ::
        later) (.updated true)
  | unknown (destination mask gateway : Ipv4Address) (interface : String) (now : Nat)
    (cost : Option UInt32) (absent : (destination, mask) ∉ table.keys) :
    Turn table (.update destination mask gateway interface now cost) table.routes (.updated false)
  | removed (destination mask : Ipv4Address) (old : Route) (earlier later : List Route)
    (place : table.routes = earlier ++ old :: later) (same : old.key = (destination, mask)) :
    Turn table (.remove destination mask) (earlier ++ later) (.removed (some old))
  | missing (destination mask : Ipv4Address) (absent : (destination, mask) ∉ table.keys) :
    Turn table (.remove destination mask) table.routes (.removed none)
  | expired (now timeout : Nat) :
    Turn table (.expire now timeout)
      (table.routes.filter fun route => ¬ route.HasExpired now timeout)
      (.expired (table.routes.filter fun route => route.HasExpired now timeout))

section Turns

variable (table : RouteTable)

theorem turn_insert (route : Route) :
    Turn table (.insert route) (table.insert route).1.routes
      (.inserted (table.insert route).2) := by
  show Turn table _ (Keyed.put Route.key route table.routes)
    (.inserted (table.find? route.destination route.mask).isNone)
  cases found : table.find? route.destination route.mask with
  | none =>
    rw [Keyed.put_of_absent Route.key route table.routes found]
    exact .appended route ((table.find?_eq_none route.key).mp found)
  | some old =>
    obtain ⟨same, earlier, later, place, others⟩ := Keyed.split_of_find? _ _ _ _ found
    rw [place, Keyed.put_append Route.key route old earlier later same others]
    exact .replaced route old earlier later place same

theorem turn_update (destination mask gateway : Ipv4Address) (interface : String) (now : Nat)
    (cost : Option UInt32) :
    Turn table (.update destination mask gateway interface now cost)
      (table.update destination mask gateway interface now cost).1.routes
      (.updated (table.update destination mask gateway interface now cost).2) := by
  show Turn table _ (Keyed.adjust Route.key (destination, mask)
      (·.redirected gateway interface now cost) table.routes)
    (.updated (table.find? destination mask).isSome)
  cases found : table.find? destination mask with
  | none =>
    rw [Keyed.adjust_of_absent Route.key _ _ table.routes found]
    exact .unknown _ _ _ _ _ _ ((table.find?_eq_none (destination, mask)).mp found)
  | some old =>
    obtain ⟨same, earlier, later, place, others⟩ := Keyed.split_of_find? _ _ _ _ found
    rw [place, Keyed.adjust_append Route.key _ _ old earlier later same others]
    exact .updated _ _ _ _ _ _ old earlier later place same

theorem turn_remove (destination mask : Ipv4Address) :
    Turn table (.remove destination mask) (table.remove destination mask).1.routes
      (.removed (table.remove destination mask).2) := by
  show Turn table _ (Keyed.erase Route.key (destination, mask) table.routes)
    (.removed (table.find? destination mask))
  cases found : table.find? destination mask with
  | none =>
    rw [Keyed.erase_of_absent Route.key _ table.routes found]
    exact .missing _ _ ((table.find?_eq_none (destination, mask)).mp found)
  | some old =>
    obtain ⟨same, earlier, later, place, others⟩ := Keyed.split_of_find? _ _ _ _ found
    rw [place, Keyed.erase_append Route.key _ old earlier later same others]
    exact .removed _ _ old earlier later place same

theorem turn_expire (now timeout : Nat) :
    Turn table (.expire now timeout) (table.expire now timeout).1.routes
      (.expired (table.expire now timeout).2) := by
  have decided (route : Route) :
      route.isStale now timeout = decide (route.HasExpired now timeout) :=
    Bool.eq_iff_iff.mpr ((route.isStale_iff now timeout).trans decide_eq_true_iff.symm)
  simp only [expire, decided, ← decide_not]
  exact .expired now timeout

/-- Every operation takes its turn on the ordered map. -/
theorem turn_perform (operation : Operation) :
    Turn table operation (table.perform operation).1.routes (table.perform operation).2 := by
  cases operation with
  | insert route => exact table.turn_insert route
  | update destination mask gateway interface now cost =>
    exact table.turn_update destination mask gateway interface now cost
  | remove destination mask => exact table.turn_remove destination mask
  | expire now timeout => exact table.turn_expire now timeout

end Turns

/-! ### What is remembered -/

section Remembering

variable (key : Ipv4Address × Ipv4Address)

/-- The operation does not take away a route that stands under the key. -/
def Operation.Spares (route : Route) : Operation → Prop
  | .insert other => other.key ≠ key
  | .update .. => True
  | .remove destination mask => (destination, mask) ≠ key
  | .expire now timeout => ¬ route.HasExpired now timeout

/-- What the operation makes of a route that stands under the key and is not taken away. -/
def Operation.revise : Operation → Route → Route
  | .update destination mask gateway interface now cost, route =>
    if (destination, mask) = key then
      { route with gateway, interface, updatedAt := now, cost := cost.getD route.cost }
    else route
  | _, route => route

/-- What operations make of a route that stands under the key, the first one first. -/
def revised (operations : List Operation) (route : Route) : Route :=
  operations.foldl (fun route operation => operation.revise key route) route

/-- None of the operations takes away the route that stands under the key when they begin. -/
def SparedBy (route : Route) : List Operation → Prop
  | [] => True
  | operation :: rest => operation.Spares key route ∧ SparedBy (operation.revise key route) rest

/-- The operations leave a route under the key: it is the last one that was put in there, as later
updates left it, and none of the later operations took it away. -/
inductive Remembers : List Operation → Route → Prop
  | intro (earlier later : List Operation) (inserted : Route) (key_eq : inserted.key = key)
    (spared : SparedBy key inserted later) :
    Remembers (earlier ++ .insert inserted :: later) (revised key later inserted)

theorem revised_append (operations : List Operation) (last : Operation) (route : Route) :
    revised key (operations ++ [last]) route = last.revise key (revised key operations route) :=
  List.foldl_append

theorem sparedBy_append (operations : List Operation) (last : Operation) (route : Route) :
    SparedBy key route (operations ++ [last]) ↔
      SparedBy key route operations ∧ last.Spares key (revised key operations route) := by
  induction operations generalizing route with
  | nil => exact and_comm
  | cons operation rest inductionHypothesis =>
    rw [List.cons_append, SparedBy, SparedBy, inductionHypothesis, and_assoc]
    rfl

/-- The last operation puts the route in under the key, or spares the one that is there. -/
theorem remembers_append (history : List Operation) (last : Operation) (route : Route) :
    Remembers key (history ++ [last]) route ↔
      (last = .insert route ∧ route.key = key) ∨
      ∃ before, Remembers key history before ∧ last.Spares key before ∧
        route = last.revise key before := by
  constructor
  · intro remembers
    generalize whole : history ++ [last] = operations at remembers
    obtain ⟨earlier, later, inserted, key_eq, spared⟩ := remembers
    rcases later.eq_nil_or_concat with rfl | ⟨rest, final, isConcat⟩
    · obtain ⟨-, rfl⟩ := List.append_singleton_inj.mp whole
      exact Or.inl ⟨rfl, key_eq⟩
    · rw [List.concat_eq_append] at isConcat
      subst isConcat
      rw [← List.cons_append, ← List.append_assoc] at whole
      obtain ⟨rfl, rfl⟩ := List.append_singleton_inj.mp whole
      obtain ⟨sparedBefore, spares⟩ := (sparedBy_append key rest last inserted).mp spared
      exact Or.inr ⟨_, .intro earlier rest inserted key_eq sparedBefore, spares,
        revised_append key rest last inserted⟩
  · rintro (⟨rfl, key_eq⟩ | ⟨_, ⟨earlier, rest, inserted, key_eq, spared⟩, spares, rfl⟩)
    · exact .intro history [] route key_eq trivial
    · rw [← revised_append, List.append_assoc, List.cons_append]
      exact .intro earlier (rest ++ [last]) inserted key_eq
        ((sparedBy_append key rest last inserted).mpr ⟨spared, spares⟩)

section Finding

variable (table : RouteTable)

theorem find?_insert_iff (inserted route : Route) :
    (table.insert inserted).1.find? key.1 key.2 = some route ↔
      (inserted = route ∧ route.key = key) ∨
        (table.find? key.1 key.2 = some route ∧ inserted.key ≠ key) := by
  by_cases same : inserted.key = key
  · subst same
    have found : (table.insert inserted).1.find? inserted.key.1 inserted.key.2 = some inserted :=
      table.find?_insert_self inserted
    rw [found, Option.some_inj]
    constructor
    · rintro rfl
      exact Or.inl ⟨rfl, rfl⟩
    · rintro (⟨isInserted, -⟩ | ⟨-, different⟩)
      · exact isInserted
      · exact absurd rfl different
  · rw [table.find?_insert_other inserted key.1 key.2 same]
    constructor
    · exact fun found => Or.inr ⟨found, same⟩
    · rintro (⟨rfl, key_eq⟩ | ⟨found, -⟩)
      · exact absurd key_eq same
      · exact found

theorem find?_update_iff (destination mask gateway : Ipv4Address) (interface : String) (now : Nat)
    (cost : Option UInt32) (route : Route) :
    (table.update destination mask gateway interface now cost).1.find? key.1 key.2 = some route ↔
      ∃ before, table.find? key.1 key.2 = some before ∧
        route = Operation.revise key
          (.update destination mask gateway interface now cost) before := by
  by_cases same : (destination, mask) = key
  · subst same
    rw [table.find?_update_self, Option.map_eq_some_iff]
    simp only [Operation.revise, if_true, eq_comm]
    rfl
  · rw [table.find?_update_other _ _ _ _ _ _ _ _ same]
    simp only [Operation.revise, if_neg same, exists_eq_right']

theorem find?_remove_iff (destination mask : Ipv4Address) (route : Route) :
    (table.remove destination mask).1.find? key.1 key.2 = some route ↔
      table.find? key.1 key.2 = some route ∧ (destination, mask) ≠ key := by
  unfold remove find?
  by_cases same : (destination, mask) = key
  · subst same
    rw [Keyed.find?_erase_self Route.key _ table.routes table.unique]
    exact ⟨nofun, fun found => absurd rfl found.2⟩
  · rw [Keyed.find?_erase_other Route.key _ _ table.routes same]
    exact (and_iff_left same).symm

theorem find?_expire_iff (now timeout : Nat) (route : Route) :
    (table.expire now timeout).1.find? key.1 key.2 = some route ↔
      table.find? key.1 key.2 = some route ∧ ¬ route.HasExpired now timeout := by
  rw [table.find?_expire key.1 key.2 now timeout, Option.filter_eq_some_iff, Bool.not_eq_true',
    ← Bool.not_eq_true, Route.isStale_iff]

end Finding

/-- An operation changes what is found under a key in the same way. -/
theorem find?_perform (table : RouteTable) (operation : Operation) (route : Route) :
    (table.perform operation).1.find? key.1 key.2 = some route ↔
      (operation = .insert route ∧ route.key = key) ∨
      ∃ before, table.find? key.1 key.2 = some before ∧ operation.Spares key before ∧
        route = operation.revise key before := by
  cases operation with
  | insert inserted =>
    refine (find?_insert_iff key table inserted route).trans (or_congr ?_ ?_)
    · rw [Operation.insert.injEq]
    · exact ⟨fun ⟨found, different⟩ => ⟨route, found, different, rfl⟩,
        fun ⟨_, found, different, equal⟩ => equal ▸ ⟨found, different⟩⟩
  | update destination mask gateway interface now cost =>
    refine (find?_update_iff key table _ _ _ _ _ _ route).trans ?_
    rw [or_iff_right fun isInserted => nomatch isInserted.1]
    exact exists_congr fun before => and_congr_right fun _ => (iff_of_eq (true_and _)).symm
  | remove destination mask =>
    refine (find?_remove_iff key table destination mask route).trans ?_
    rw [or_iff_right fun isInserted => nomatch isInserted.1]
    exact ⟨fun ⟨found, different⟩ => ⟨route, found, different, rfl⟩,
      fun ⟨_, found, different, equal⟩ => equal ▸ ⟨found, different⟩⟩
  | expire now timeout =>
    refine (find?_expire_iff key table now timeout route).trans ?_
    rw [or_iff_right fun isInserted => nomatch isInserted.1]
    exact ⟨fun ⟨found, spared⟩ => ⟨route, found, spared, rfl⟩,
      fun ⟨_, found, spared, equal⟩ => equal ▸ ⟨found, spared⟩⟩

/-- What is found under a key is what is remembered under it. -/
theorem find?_performAll (operations : List Operation) (route : Route) :
    (performAll .empty operations).find? key.1 key.2 = some route ↔
      Remembers key operations route := by
  induction operations using List.reverseRecOn generalizing route with
  | nil =>
    refine ⟨nofun, fun remembers => ?_⟩
    generalize noOperations : ([] : List Operation) = operations at remembers
    obtain ⟨earlier, later, inserted, -, -⟩ := remembers
    exact absurd noOperations.symm (List.append_ne_nil_of_right_ne_nil _ (List.cons_ne_nil _ _))
  | append_singleton history last inductionHypothesis =>
    rw [performAll_append, find?_perform key _ last route, remembers_append]
    simp only [inductionHypothesis]

end Remembering

/-- The table after any operations, from the empty one on, is a map that keeps the order of its
keys. No two routes have one destination and mask; what is found under these is what was last put in
there, as later updates left it, unless it was removed or has expired since; and any further
operation takes its turn. -/
theorem refines_ordered_map (operations : List Operation) :
    let table := performAll .empty operations
    table.keys.Nodup ∧
      (∀ (key : Ipv4Address × Ipv4Address) (route : Route),
        table.find? key.1 key.2 = some route ↔ Remembers key operations route) ∧
      ∀ operation,
        Turn table operation (table.perform operation).1.routes (table.perform operation).2 :=
  ⟨(performAll .empty operations).unique, fun key => find?_performAll key operations,
    (performAll .empty operations).turn_perform⟩

end RouteTable

end Ipv4Router
