/-
This file says which route an address is forwarded by. A lookup scans the table once and
keeps the best route met so far. What it ends with covers the address and has a mask that
no other route that does exceeds and that none before it reaches; it ends with nothing
only if no route covers the address. Where no two routes that cover an address have one
mask, the order of the table plays no role.
-/

import Ipv4Router.Proofs.Route.Table

namespace Ipv4Router

theorem Route.covers_iff (route : Route) (address : Ipv4Address) :
    route.covers address = true ↔
      address.masked route.mask = route.destination.masked route.mask :=
  beq_iff_eq

namespace RouteTable

/-! ### Scanning -/

/-- The best route to an address among those scanned. None of them covers it; or one does, no
later one that does has a greater mask, and every earlier one that does has a smaller mask. -/
inductive Best (address : Ipv4Address) (scanned : List Route) : Option Route → Prop
  | none (uncovered : ∀ route ∈ scanned, route.covers address = false) :
    Best address scanned none
  | some (earlier later : List Route) (found : Route) (place : scanned = earlier ++ found :: later)
    (covers : found.covers address = true)
    (above : ∀ route ∈ earlier, route.covers address = true → route.mask.bits < found.mask.bits)
    (unsurpassed : ∀ route ∈ later, route.covers address = true →
      route.mask.bits ≤ found.mask.bits) :
    Best address scanned (some found)

section Scanning

variable {address : Ipv4Address} {scanned : List Route} {best : Option Route}

/-- A route that does not cover the address is passed over. -/
theorem Best.skip (isBest : Best address scanned best) (route : Route)
    (uncovering : route.covers address = false) : Best address (scanned ++ [route]) best := by
  cases isBest with
  | none uncovered =>
    exact .none (List.forall_mem_append.mpr ⟨uncovered, List.forall_mem_singleton.mpr uncovering⟩)
  | some earlier later found place covers above unsurpassed =>
    refine .some earlier (later ++ [route]) found ?_ covers above
      (List.forall_mem_append.mpr ⟨unsurpassed, List.forall_mem_singleton.mpr fun covering => ?_⟩)
    · rw [place, List.append_assoc, List.cons_append]
    · rw [uncovering] at covering
      cases covering

/-- A route that covers the address becomes the best if its mask is greater. -/
theorem Best.take (isBest : Best address scanned best) (route : Route)
    (covering : route.covers address = true) :
    Best address (scanned ++ [route]) (prefer best route) := by
  cases isBest with
  | none uncovered =>
    refine .some scanned [] route rfl covering (fun other member covers => ?_) nofun
    rw [uncovered other member] at covers
    cases covers
  | some earlier later found place covers above unsurpassed =>
    unfold prefer
    dsimp only
    split
    · rename_i notGreater
      refine .some earlier (later ++ [route]) found ?_ covers above
        (List.forall_mem_append.mpr
          ⟨unsurpassed, List.forall_mem_singleton.mpr fun _ => notGreater⟩)
      rw [place, List.append_assoc, List.cons_append]
    · rename_i greater
      have exceeds : found.mask.bits < route.mask.bits := BitVec.not_le.mp greater
      refine .some scanned [] route rfl covering (fun other member otherCovers => ?_) nofun
      rw [place] at member
      rcases List.mem_append.mp member with before | here
      · exact BitVec.lt_trans (above other before otherCovers) exceeds
      · rcases List.mem_cons.mp here with rfl | after
        · exact exceeds
        · exact Nat.lt_of_le_of_lt (unsurpassed other after otherCovers) exceeds

/-- What is best among the routes scanned so far makes the best of all when the rest is scanned. -/
theorem Best.scan (isBest : Best address scanned best) (rest : List Route) :
    Best address (scanned ++ rest) ((rest.filter (·.covers address)).foldl prefer best) := by
  induction rest generalizing scanned best with
  | nil =>
    rw [List.append_nil]
    exact isBest
  | cons route rest inductionHypothesis =>
    rw [List.append_cons]
    cases covers : route.covers address with
    | false =>
      rw [List.filter_cons, if_neg (Bool.eq_false_iff.mp covers)]
      exact inductionHypothesis (isBest.skip route covers)
    | true =>
      rw [List.filter_cons, if_pos covers, List.foldl_cons]
      exact inductionHypothesis (isBest.take route covers)

end Scanning

/-! ### Looking up -/

section Lookup

variable (table : RouteTable) (address : Ipv4Address) (route : Route)

theorem best_lookup? : Best address table.routes (table.lookup? address) :=
  Best.scan (.none fun _ none => absurd none List.not_mem_nil) table.routes

theorem lookup?_eq_none_iff :
    table.lookup? address = none ↔ ∀ route ∈ table.routes, route.covers address = false := by
  have isBest := table.best_lookup? address
  constructor
  · intro none
    rw [none] at isBest
    cases isBest with
    | none uncovered => exact uncovered
  · intro uncovered
    cases found : table.lookup? address with
    | none => rfl
    | some best =>
      rw [found] at isBest
      cases isBest with
      | some earlier later _ place covers =>
        have member : best ∈ table.routes := by
          rw [place]
          exact List.mem_append_right _ List.mem_cons_self
        rw [uncovered best member] at covers
        cases covers

/-- The route that an address is forwarded by covers it, with the greatest mask. -/
theorem lookup?_spec (found : table.lookup? address = some route) :
    route ∈ table.routes ∧ route.covers address = true ∧
      ∀ other ∈ table.routes, other.covers address = true → other.mask.bits ≤ route.mask.bits := by
  have isBest := table.best_lookup? address
  rw [found] at isBest
  cases isBest with
  | some earlier later _ place covers above unsurpassed =>
    rw [place]
    refine ⟨List.mem_append_right _ List.mem_cons_self, covers, fun other member otherCovers => ?_⟩
    rcases List.mem_append.mp member with before | here
    · exact BitVec.le_of_lt (above other before otherCovers)
    · rcases List.mem_cons.mp here with rfl | after
      · exact BitVec.le_refl _
      · exact unsurpassed other after otherCovers

theorem lookup?_isSome (member : route ∈ table.routes) (covers : route.covers address = true) :
    ∃ found, table.lookup? address = some found := by
  refine Option.ne_none_iff_exists'.mp fun none => ?_
  rw [(table.lookup?_eq_none_iff address).mp none route member] at covers
  cases covers

/-- Where no two routes that cover an address have one mask, the order of the table plays no role
for it. -/
theorem lookup?_perm (other : RouteTable) (perm : other.routes.Perm table.routes)
    (different : ∀ first ∈ table.routes, ∀ second ∈ table.routes,
      first.covers address = true → second.covers address = true →
        first.mask = second.mask → first = second) :
    other.lookup? address = table.lookup? address := by
  cases found : table.lookup? address with
  | none =>
    refine (other.lookup?_eq_none_iff address).mpr fun route member => ?_
    exact (table.lookup?_eq_none_iff address).mp found route (perm.mem_iff.mp member)
  | some route =>
    obtain ⟨member, covers, greatest⟩ := table.lookup?_spec address route found
    obtain ⟨best, isBest⟩ := other.lookup?_isSome address route (perm.mem_iff.mpr member) covers
    obtain ⟨bestMember, bestCovers, bestGreatest⟩ := other.lookup?_spec address best isBest
    have bestInTable := perm.mem_iff.mp bestMember
    have sameBits : best.mask.bits = route.mask.bits :=
      BitVec.le_antisymm (greatest best bestInTable bestCovers)
        (bestGreatest route (perm.mem_iff.mpr member) covers)
    rw [isBest, different best bestInTable route member bestCovers covers
      (congrArg Ipv4Address.mk sameBits)]

/-- An address is forwarded by no route exactly if no route agrees with it under its mask. Otherwise
it is forwarded by one that does, with a mask that no other such route exceeds and that none before
it reaches. -/
theorem lookup?_first_greatest :
    (table.lookup? address = none ↔ ∀ route ∈ table.routes,
      address.masked route.mask ≠ route.destination.masked route.mask) ∧
    ∀ found, table.lookup? address = some found →
      ∃ earlier later, table.routes = earlier ++ found :: later ∧
        address.masked found.mask = found.destination.masked found.mask ∧
        (∀ route ∈ table.routes,
          address.masked route.mask = route.destination.masked route.mask →
            route.mask.bits ≤ found.mask.bits) ∧
        ∀ route ∈ earlier,
          address.masked route.mask = route.destination.masked route.mask →
            route.mask.bits < found.mask.bits := by
  simp only [ne_eq, ← Route.covers_iff, Bool.not_eq_true]
  refine ⟨table.lookup?_eq_none_iff address, fun found isFound => ?_⟩
  obtain ⟨-, -, greatest⟩ := table.lookup?_spec address found isFound
  have isBest := table.best_lookup? address
  rw [isFound] at isBest
  cases isBest with
  | some earlier later _ place covers above =>
    exact ⟨earlier, later, place, covers, greatest, above⟩

end Lookup

/-! ### Routes that overlap -/

namespace Overlapping

/-- The greater network. -/
def outer : Route :=
  .learned (.ofParts 10 0 0 0) (.ofParts 255 0 0 0) (.ofParts 1 1 1 1) "eth0" 1 0

/-- The smaller network. -/
def inner : Route :=
  .learned (.ofParts 10 1 0 0) (.ofParts 255 255 0 0) (.ofParts 2 2 2 2) "eth1" 1 0

/-- The smaller network once more, written with bits outside the mask. -/
def again : Route :=
  .learned (.ofParts 10 1 9 9) (.ofParts 255 255 0 0) (.ofParts 3 3 3 3) "eth2" 1 0

def table : RouteTable := ⟨[outer, inner, again], by decide⟩

def address : Ipv4Address := .ofParts 10 1 2 3

end Overlapping

/-- All three routes cover the address; the first of the two with the greater mask is chosen. -/
theorem lookup?_first_greatest_overlapping :
    Overlapping.table.lookup? Overlapping.address = some Overlapping.inner ∧
      (∀ route ∈ Overlapping.table.routes, route.covers Overlapping.address = true) ∧
      ∃ earlier later, Overlapping.table.routes = earlier ++ Overlapping.inner :: later ∧
        ∀ route ∈ earlier, Overlapping.address.masked route.mask =
            route.destination.masked route.mask →
          route.mask.bits < Overlapping.inner.mask.bits := by
  have found : Overlapping.table.lookup? Overlapping.address = some Overlapping.inner := by decide
  obtain ⟨earlier, later, place, -, -, above⟩ :=
    (lookup?_first_greatest Overlapping.table Overlapping.address).2 Overlapping.inner found
  exact ⟨found, by decide, earlier, later, place, above⟩

end RouteTable

end Ipv4Router
