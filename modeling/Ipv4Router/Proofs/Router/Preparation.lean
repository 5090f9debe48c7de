/-
This file says what preparing does to the route table. Afterwards there is exactly one
route to every attached subnet. Where routes are not exchanged, a route to it that is
there already stays, and nothing else in the table moves. Where they are, a direct route
takes the place of whatever was there, of a configured route too; so preparing respects
the configured routes exactly if it cannot meet one that leads to an attached subnet.
-/

import Ipv4Router.Proofs.Router.Run

namespace Ipv4Router

/-! ### One subnet -/

/-- The destination and the mask of a route to the attached subnet. -/
def Interface.subnet (interface : Interface) : Ipv4Address × Ipv4Address :=
  (interface.network, interface.mask)

namespace Router

section Entering

variable (router : Router) (now : Nat) (table : RouteTable) (interface : Interface)

/-- The table in which preparing has dealt with one interface. -/
def enter : RouteTable :=
  if router.settings.routingEnabled then (table.insert (.direct interface now)).1
  else
    match table.find? interface.network interface.mask with
    | some _ => table
    | none => (table.insert (.direct interface now)).1

/-- Preparing deals with one interface after the other. -/
theorem table_prepare :
    (router.prepare now).1.table =
      router.registry.interfaces.foldl (router.enter now) router.table := by
  unfold prepare enter
  cases router.settings.routingEnabled <;> rfl

theorem enter_of_enabled (enabled : router.settings.routingEnabled = true) :
    router.enter now table interface = (table.insert (.direct interface now)).1 :=
  if_pos enabled

/-- Where routes are not exchanged, a route may be added behind the others, and no more. -/
theorem enter_of_disabled (disabled : router.settings.routingEnabled = false) :
    (router.enter now table interface).routes = table.routes ∨
      (router.enter now table interface).routes = table.routes ++ [.direct interface now] := by
  unfold enter
  rw [if_neg (Bool.eq_false_iff.mp disabled)]
  split
  · exact Or.inl rfl
  · rename_i absent
    exact Or.inr (Keyed.put_of_absent Route.key (.direct interface now) table.routes absent)

theorem isSome_enter_self :
    ((router.enter now table interface).find? interface.network interface.mask).isSome = true := by
  have inserted := table.find?_insert_self (.direct interface now)
  unfold enter
  split
  · exact Option.isSome_of_eq_some inserted
  · split
    · rename_i route found
      exact Option.isSome_of_eq_some found
    · exact Option.isSome_of_eq_some inserted

/-- Dealing with an interface takes no destination out of the table. -/
theorem isSome_enter (destination mask : Ipv4Address)
    (present : (table.find? destination mask).isSome = true) :
    ((router.enter now table interface).find? destination mask).isSome = true := by
  by_cases same : interface.subnet = (destination, mask)
  · obtain ⟨rfl, rfl⟩ := Prod.mk.inj same
    exact router.isSome_enter_self now table interface
  · have inserted := table.find?_insert_other (.direct interface now) destination mask same
    unfold enter
    split
    · rw [inserted]
      exact present
    · split
      · exact present
      · rw [inserted]
        exact present

end Entering

/-! ### All subnets -/

section Preparing

variable (router : Router) (now : Nat) (interfaces : List Interface) (table : RouteTable)

/-- There is a route to every subnet that was dealt with, and to all that there was one to. -/
theorem isSome_foldl_enter (destination mask : Ipv4Address)
    (present : (∃ interface ∈ interfaces, interface.subnet = (destination, mask)) ∨
      (table.find? destination mask).isSome = true) :
    ((interfaces.foldl (router.enter now) table).find? destination mask).isSome = true := by
  induction interfaces generalizing table with
  | nil => exact present.resolve_left (by rintro ⟨_, ⟨⟩, _⟩)
  | cons head rest inductionHypothesis =>
    refine inductionHypothesis (router.enter now table head) ?_
    rcases present with ⟨interface, member, same⟩ | there
    · rcases List.mem_cons.mp member with rfl | inRest
      · obtain ⟨rfl, rfl⟩ := Prod.mk.inj same
        exact Or.inr (router.isSome_enter_self now table interface)
      · exact Or.inl ⟨interface, inRest, same⟩
    · exact Or.inr (router.isSome_enter now table head destination mask there)

/-- Where routes are not exchanged, preparing only adds routes behind the others. -/
theorem prefix_foldl_enter (disabled : router.settings.routingEnabled = false) :
    table.routes <+: (interfaces.foldl (router.enter now) table).routes :=
  List.foldlRecOn interfaces (router.enter now)
    (motive := fun after : RouteTable => table.routes <+: after.routes) (List.prefix_refl _)
    fun after holds interface _ => by
      rcases router.enter_of_disabled now after interface disabled with same | added
      · rwa [same]
      · rw [added]
        exact holds.trans (List.prefix_append _ _)

/-- Where routes are exchanged, a route keeps its place unless it leads to an attached subnet. Then
its place is taken by a direct route there. -/
theorem getElem?_foldl_enter (enabled : router.settings.routingEnabled = true)
    (position : Nat) (route : Route) (there : table.routes[position]? = some route) :
    ((∀ interface ∈ interfaces, route.key ≠ interface.subnet) ∧
        (interfaces.foldl (router.enter now) table).routes[position]? = some route) ∨
      ∃ interface ∈ interfaces, route.key = interface.subnet ∧
        (interfaces.foldl (router.enter now) table).routes[position]? =
          some (.direct interface now) := by
  induction interfaces generalizing table route with
  | nil => exact Or.inl ⟨nofun, there⟩
  | cons head rest inductionHypothesis =>
    have entered : (router.enter now table head).routes[position]? =
        some (if route.key = head.subnet then .direct head now else route) := by
      rw [router.enter_of_enabled now table head enabled]
      exact Keyed.getElem?_put Route.key (.direct head now) table.routes table.unique position
        route there
    have step := inductionHypothesis (router.enter now table head) _ entered
    by_cases own : route.key = head.subnet
    · rw [if_pos own] at step
      rcases step with ⟨-, kept⟩ | ⟨interface, member, same, taken⟩
      · exact Or.inr ⟨head, List.mem_cons_self, own, kept⟩
      · exact Or.inr ⟨interface, List.mem_cons_of_mem _ member, own.trans same, taken⟩
    · rw [if_neg own] at step
      rcases step with ⟨others, kept⟩ | ⟨interface, member, same, taken⟩
      · refine Or.inl ⟨fun interface member => ?_, kept⟩
        rcases List.mem_cons.mp member with rfl | inRest
        · exact own
        · exact others interface inRest
      · exact Or.inr ⟨interface, List.mem_cons_of_mem _ member, same, taken⟩

end Preparing

/-! ### Configured routes -/

/-- Every configured route of a table is in another one, unchanged and in its place, and where the
only route to an attached subnet was a configured one, it is one afterwards. -/
structure RespectsConfigured (registry : Registry) (before after : RouteTable) : Prop where
  kept : ∀ (position : Nat) (route : Route), before.routes[position]? = some route →
    route.origin = .static → after.routes[position]? = some route
  subnets : ∀ interface ∈ registry.interfaces, ∀ route,
    before.find? interface.network interface.mask = some route → route.origin = .static →
    ∃ later, after.find? interface.network interface.mask = some later ∧ later.origin = .static

section Configured

variable (router : Router) (now : Nat)

/-- Where configured routes are kept in their places, they are still found. -/
theorem respectsConfigured_of_kept
    (kept : ∀ (position : Nat) (route : Route), router.table.routes[position]? = some route →
      route.origin = .static → (router.prepare now).1.table.routes[position]? = some route) :
    RespectsConfigured router.registry router.table (router.prepare now).1.table := by
  refine ⟨kept, fun interface _ route found static => ?_⟩
  obtain ⟨inTable, destination, mask⟩ := router.table.mem_of_find? _ _ route found
  obtain ⟨position, there⟩ := List.mem_iff_getElem?.mp inTable
  have stays := List.mem_of_getElem? (kept position route there static)
  have stillFound := RouteTable.find?_of_mem _ route stays
  rw [destination, mask] at stillFound
  exact ⟨route, stillFound, static⟩

/-- What preparing does to the route table. Afterwards there is exactly one route to every attached
subnet. The configured routes stay as they are and where they are if routes are not exchanged or
none of them leads to an attached subnet, and only then; for with dynamic routing, a direct route
takes the place of any route to an attached subnet. -/
theorem prepare_respects_iff :
    let after := (router.prepare now).1.table
    (∀ interface ∈ router.registry.interfaces,
      ∃ only : Route, after.routes.filter (fun route => route.key = interface.subnet) = [only]) ∧
    (RespectsConfigured router.registry router.table after ↔
      router.settings.routingEnabled = false ∨
        ∀ route ∈ router.table.routes, route.origin = .static →
          ∀ interface ∈ router.registry.interfaces, route.key ≠ interface.subnet) ∧
    (router.settings.routingEnabled = true → ∀ (position : Nat) (route : Route),
      router.table.routes[position]? = some route →
      (∃ interface ∈ router.registry.interfaces, route.key = interface.subnet) →
      ∃ interface ∈ router.registry.interfaces, route.key = interface.subnet ∧
        after.routes[position]? = some (.direct interface now)) := by
  intro after
  have places (enabled : router.settings.routingEnabled = true) (position : Nat) (route : Route)
      (there : router.table.routes[position]? = some route) :=
    router.getElem?_foldl_enter now router.registry.interfaces router.table enabled position
      route there
  rw [← table_prepare] at places
  refine ⟨fun interface member => ?_, ⟨fun respects => ?_, fun either => ?_⟩,
    fun enabled position route there attached => ?_⟩
  · have present := router.isSome_foldl_enter now router.registry.interfaces router.table
      interface.network interface.mask (Or.inl ⟨interface, member, rfl⟩)
    rw [← table_prepare] at present
    obtain ⟨route, found⟩ := Option.isSome_iff_exists.mp present
    have selected := Keyed.filter_key Route.key interface.subnet after.routes after.unique
    exact ⟨route, selected.trans (congrArg Option.toList found)⟩
  · cases enabled : router.settings.routingEnabled with
    | false => exact Or.inl rfl
    | true =>
      refine Or.inr fun route inTable static interface member same => ?_
      obtain ⟨position, there⟩ := List.mem_iff_getElem?.mp inTable
      have kept := respects.kept position route there static
      rcases places enabled position route there with ⟨others, -⟩ | ⟨_, -, -, taken⟩
      · exact others interface member same
      · obtain rfl := Option.some_inj.mp (kept.symm.trans taken)
        cases static
  · refine router.respectsConfigured_of_kept now fun position route there static => ?_
    cases enabled : router.settings.routingEnabled with
    | false =>
      obtain ⟨added, whole⟩ :=
        router.prefix_foldl_enter now router.registry.interfaces router.table enabled
      rw [← table_prepare] at whole
      have inside := (List.getElem?_eq_some_iff.mp there).1
      rw [← whole, List.getElem?_append_left inside]
      exact there
    | true =>
      rcases places enabled position route there with ⟨-, kept⟩ | ⟨interface, member, same, -⟩
      · exact kept
      · rcases either with disabled | elsewhere
        · rw [enabled] at disabled
          cases disabled
        · exact absurd same
            (elsewhere route (List.mem_of_getElem? there) static interface member)
  · rcases places enabled position route there with ⟨others, -⟩ | taken
    · obtain ⟨interface, member, same⟩ := attached
      exact absurd same (others interface member)
    · exact taken

/-! ### A configured route to an attached subnet -/

namespace Overridden

/-- The inner subnet is to be reached through another router on it. -/
def route : Route where
  destination := Stations.inner.network
  mask := Stations.inner.mask
  gateway := .ofParts 10 0 0 9
  interface := "eth0"
  cost := 1
  updatedAt := 0
  origin := .static

/-- A router with the route, which exchanges routes or does not. -/
def origin (routingEnabled : Bool) : Router where
  registry := ⟨[Stations.inner], by decide⟩
  settings := { routingEnabled }
  table := (RouteTable.empty.insert route).1

end Overridden

/-- Where routes are not exchanged, the configured route stays the only one. -/
theorem prepare_respects_unexchanged :
    ((Overridden.origin false).prepare 0).1.table.routes = [Overridden.route] ∧
      RespectsConfigured (Overridden.origin false).registry (Overridden.origin false).table
        ((Overridden.origin false).prepare 0).1.table := by
  obtain ⟨-, respects, -⟩ := prepare_respects_iff (Overridden.origin false) 0
  exact ⟨by decide +kernel, respects.mpr (Or.inl rfl)⟩

/-- Where they are, the direct route takes its place. -/
theorem not_prepare_respects_exchanged :
    ((Overridden.origin true).prepare 0).1.table.routes = [.direct Stations.inner 0] ∧
      ¬ RespectsConfigured (Overridden.origin true).registry (Overridden.origin true).table
        ((Overridden.origin true).prepare 0).1.table := by
  refine ⟨by decide +kernel, fun respects => ?_⟩
  have kept := respects.kept 0 Overridden.route (by decide +kernel) rfl
  have taken : ((Overridden.origin true).prepare 0).1.table.routes[0]? ≠ some Overridden.route := by
    decide +kernel
  exact taken kept

end Configured

end Router

end Ipv4Router
