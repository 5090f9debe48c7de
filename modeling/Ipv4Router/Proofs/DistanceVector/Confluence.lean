/-
This file proves that it does not matter in which order neighbours are heard. As long as
no route expires, the destinations that a router knows and what they cost depend only on
what was said, and not on the order, the times or how often it was said: a learned route
costs the least of what it cost at first and what was ever offered for it. To say
something again makes routes young, and nothing else.
-/

import Mathlib.Order.Bounds.Defs
import Ipv4Router.Proofs.DistanceVector.BestOffers

namespace Ipv4Router

/-- The route without its time. -/
def Route.timeless (route : Route) : Route := { route with updatedAt := 0 }

/-- Where a route comes from and what it costs. -/
def Route.standing (route : Route) : Origin × UInt32 := (route.origin, route.cost)

/-- Two tables know the same destinations, from the same origins and at the same costs. -/
def RouteTable.SameStanding (table other : RouteTable) : Prop :=
  ∀ key : Ipv4Address × Ipv4Address,
    (table.find? key.1 key.2).map Route.standing = (other.find? key.1 key.2).map Route.standing

theorem RouteTable.SameStanding.mem_keys_iff {table other : RouteTable}
    (same : table.SameStanding other) (key : Ipv4Address × Ipv4Address) :
    key ∈ table.keys ↔ key ∈ other.keys := by
  rw [← Decidable.not_iff_not, ← table.find?_eq_none, ← other.find?_eq_none,
    ← Option.map_eq_none_iff, same key, Option.map_eq_none_iff]

namespace DistanceVector

/-! ### Hearing neighbours -/

/-- What a neighbour says on the link of an interface. -/
structure Announcement where
  advertiser : Ipv4Address
  interface : String
  entries : List RipEntry
deriving DecidableEq

def Announcement.hearing (announcement : Announcement) (now : Nat) : Hearing :=
  ⟨announcement.advertiser, announcement.interface, now⟩

/-- The table after announcements are heard one after the other, each at its time. -/
def hearAll (table : RouteTable) (heard : List (Announcement × Nat)) : RouteTable :=
  heard.foldl (fun table said => ((said.1.hearing said.2).absorb table said.1.entries).1) table

/-- Each of the announcements is heard once at least, and no other. -/
def Hears (heard : List (Announcement × Nat)) (announcements : List Announcement) : Prop :=
  ∀ announcement, announcement ∈ heard.map Prod.fst ↔ announcement ∈ announcements

/-- What is offered in announcements. -/
def entriesOf (announcements : List Announcement) : List RipEntry :=
  announcements.flatMap Announcement.entries

theorem mem_entriesOf {announcements : List Announcement} {entry : RipEntry} :
    entry ∈ entriesOf announcements ↔
      ∃ announcement ∈ announcements, entry ∈ announcement.entries :=
  List.mem_flatMap

/-- Somebody who says everything at once. -/
def chorus : Hearing := ⟨.unspecified, "", 0⟩

namespace Hearing

/-- What a route can cost: what it cost before, and one more than each metric that is offered. -/
def costs (existing : Option Route) (entries : List RipEntry) (key : Ipv4Address × Ipv4Address) :
    Set Nat :=
  {cost | (∃ route, existing = some route ∧ route.cost.toNat = cost) ∨
    ∃ entry ∈ entries, Offers entry ∧ entry.key = key ∧ entry.metric.toNat + 1 = cost}

/-! ### What a route costs -/

section Standing

variable (hearing : Hearing) (key : Ipv4Address × Ipv4Address)

theorem best?_congr (entries others : List RipEntry)
    (same : ∀ entry, entry ∈ entries ↔ entry ∈ others) : best? entries key = best? others key := by
  ext metric
  rw [best?_eq_some_iff, best?_eq_some_iff]
  simp only [same]

/-- What a route costs after an offer does not depend on who makes the offer, where and when. -/
theorem standing_settled (other : Hearing) (best : Option UInt32) (existing present : Option Route)
    (same : existing.map Route.standing = present.map Route.standing) :
    (hearing.settled best key existing).map Route.standing =
      (other.settled best key present).map Route.standing := by
  cases best with
  | none =>
    rw [settled_none, settled_none]
    exact same
  | some metric =>
    cases existing with
    | none =>
      cases present with
      | none => rfl
      | some route => cases same
    | some route =>
      cases present with
      | none => cases same
      | some rival =>
        obtain ⟨origin, cost⟩ := Prod.mk.inj (Option.some_inj.mp same)
        obtain ⟨-, originAfter, costAfter⟩ := hearing.standing_settle metric route
        obtain ⟨-, rivalOrigin, rivalCost⟩ := other.standing_settle metric rival
        show some (Route.standing _) = some (Route.standing _)
        rw [Route.standing, Route.standing, originAfter, costAfter, rivalOrigin, rivalCost, origin,
          cost]

/-- What is said decides what routes cost, and not who says it, where and when. -/
theorem sameStanding_absorb (other : Hearing) (table after : RouteTable) (entries : List RipEntry)
    (same : table.SameStanding after) :
    (hearing.absorb table entries).1.SameStanding (other.absorb after entries).1 := by
  intro key
  rw [find?_absorb_eq, find?_absorb_eq]
  exact hearing.standing_settled key other _ _ _ (same key)

/-- The best offer is one of the costs. -/
theorem mem_costs_of_best? (entries : List RipEntry) (existing : Option Route) (metric : UInt32)
    (best : best? entries key = some metric) :
    (metric + 1).toNat ∈ costs existing entries key := by
  obtain ⟨⟨entry, member, offers, about, rfl⟩, -⟩ :=
    (best?_eq_some_iff entries key metric).mp best
  exact Or.inr ⟨entry, member, offers, about, (toNat_add_one entry.metric offers.near).symm⟩

/-- What is below the cost before and below the best offer is below all costs. -/
theorem mem_lowerBounds_costs (entries : List RipEntry) (existing : Option Route) (bound : Nat)
    (before : ∀ route ∈ existing, bound ≤ route.cost.toNat)
    (best : ∀ metric ∈ best? entries key, bound ≤ (metric + 1).toNat) :
    bound ∈ lowerBounds (costs existing entries key) := by
  rintro cost (⟨route, same, rfl⟩ | ⟨entry, member, offers, about, rfl⟩)
  · exact before route same
  · cases isBest : best? entries key with
    | none => exact absurd about ((best?_eq_none_iff entries key).mp isBest entry member offers)
    | some metric =>
      have least := ((best?_eq_some_iff entries key metric).mp isBest).2 entry member offers about
      have enough := best metric isBest
      rw [toNat_add_one metric (near_of_best? entries key metric isBest)] at enough
      exact Nat.le_trans enough (Nat.succ_le_succ (UInt32.le_iff_toNat_le.mp least))

/-- A learned route costs the least of what it cost before and what is offered for it. -/
theorem isLeast_settled (entries : List RipEntry) (existing : Option Route) (route : Route)
    (found : hearing.settled (best? entries key) key existing = some route)
    (learned : route.origin = .learned) :
    IsLeast (costs existing entries key) route.cost.toNat := by
  have reached := mem_costs_of_best? key entries existing
  have least := mem_lowerBounds_costs key entries existing
  cases best : best? entries key with
  | none =>
    rw [best, settled_none] at found
    simp only [best, found, Option.mem_def, Option.some.injEq, forall_eq', reduceCtorEq] at least
    exact ⟨Or.inl ⟨route, found, rfl⟩, found ▸ least _ (Nat.le_refl _) nofun⟩
  | some metric =>
    rw [best] at found
    simp only [best, Option.mem_def, Option.some.injEq, forall_eq'] at reached least
    cases existing with
    | none =>
      obtain rfl := Option.some_inj.mp found
      exact ⟨reached, least _ nofun (Nat.le_refl _)⟩
    | some old =>
      obtain rfl := Option.some_inj.mp found
      obtain ⟨-, origin, cost⟩ := hearing.standing_settle metric old
      rw [origin] at learned
      rw [cost]
      simp only [Option.some.injEq, forall_eq'] at least
      split
      · rename_i cheaper
        exact ⟨reached, least _ (Nat.le_of_lt (UInt32.lt_iff_toNat_lt.mp cheaper.2))
          (Nat.le_refl _)⟩
      · rename_i notCheaper
        exact ⟨Or.inl ⟨old, rfl, rfl⟩, least _ (Nat.le_refl _) (UInt32.le_iff_toNat_le.mp
          (UInt32.not_lt.mp fun cheaper => notCheaper ⟨learned, cheaper⟩))⟩

end Standing

/-! ### Hearing again -/

section Again

variable (hearing : Hearing) (table : RouteTable) (entries : List RipEntry)

/-- After an advertisement the table has a route at least as good for everything that it offers. -/
theorem settled_absorb (entry : RipEntry) (member : entry ∈ entries) (offers : Offers entry) :
    Settled (hearing.absorb table entries).1 entry := by
  have found := hearing.find?_absorb_eq table entries entry.key
  cases after : hearing.settled (best? entries entry.key) entry.key
      (table.find? entry.key.1 entry.key.2) with
  | none =>
    cases existing : table.find? entry.key.1 entry.key.2 with
    | none =>
      rw [existing] at after
      have noOffer := (best?_eq_none_iff entries entry.key).mp (Option.map_eq_none_iff.mp after)
      exact absurd rfl (noOffer entry member offers)
    | some route =>
      rw [existing] at after
      cases after
  | some route =>
    refine ⟨route, found.trans after, fun learned => UInt32.le_iff_toNat_le.mpr ?_⟩
    rw [toNat_add_one entry.metric offers.near]
    exact (hearing.isLeast_settled entry.key entries _ route after learned).2
      (Or.inr ⟨entry, member, offers, rfl, rfl⟩)

/-- An offer that is not cheaper leaves a route as it is, but for the time. -/
theorem timeless_settle (best : Option UInt32) (route : Route)
    (notDearer : ∀ metric ∈ best, route.origin = .learned → route.cost ≤ metric + 1) :
    (hearing.settle best route).timeless = route.timeless := by
  cases best with
  | none => rfl
  | some metric =>
    by_cases learned : route.origin = .learned
    · rw [hearing.settle_of_not_lt metric route learned
        (UInt32.not_lt.mpr (notDearer metric rfl learned))]
      split <;> rfl
    · rw [hearing.settle_of_ne route _ learned]

/-- An advertisement that finds a route at least as good for everything that it offers makes routes
young and does nothing else. -/
theorem absorb_of_settled
    (settled : ∀ entry ∈ entries, Offers entry → Settled table entry) :
    (hearing.absorb table entries).2.1 = 0 ∧
      (hearing.absorb table entries).1.routes.map Route.timeless =
        table.routes.map Route.timeless := by
  constructor
  · rw [changes_absorb, List.countP_eq_zero]
    rintro ⟨entry, position⟩ member isNews
    have news : IsNews table (entries.take position) entry := of_decide_eq_true isNews
    obtain ⟨route, found, notDearer⟩ :=
      settled entry (List.fst_mem_of_mem_zipIdx member) news.offers
    obtain ⟨learned, cheaper⟩ := news.beatsTable route found
    exact UInt32.not_le.mpr cheaper (notDearer learned)
  · obtain ⟨added, routes, keys, -⟩ := hearing.routes_absorb table entries
    have noneNew : newKeys table.keys entries = [] := by
      refine List.eq_nil_iff_forall_not_mem.mpr fun key new => ?_
      obtain ⟨⟨entry, member, offers, rfl⟩, absent⟩ := (mem_newKeys _ _ _).mp new
      obtain ⟨route, found, -⟩ := settled entry member offers
      cases found.symm.trans ((table.find?_eq_none entry.key).mpr absent)
    rw [noneNew, List.map_eq_nil_iff] at keys
    rw [routes, keys, List.append_nil, List.map_map]
    refine List.map_congr_left fun route member => hearing.timeless_settle _ route ?_
    intro metric best
    obtain ⟨⟨entry, among, offers, about, rfl⟩, -⟩ :=
      (best?_eq_some_iff entries route.key metric).mp best
    obtain ⟨present, found, notDearer⟩ := settled entry among offers
    have same : table.find? entry.key.1 entry.key.2 = some route := by
      rw [about]
      exact table.find?_of_mem route member
    rwa [Option.some_inj.mp (found.symm.trans same)] at notDearer

end Again

end Hearing

/-! ### Hearing all -/

section All

variable (table : RouteTable) (heard : List (Announcement × Nat))

/-- Hearing announcements one after the other is as good as hearing everything at once. -/
theorem sameStanding_hearAll (hearing : Hearing) (other : RouteTable)
    (same : table.SameStanding other) :
    (hearAll table heard).SameStanding
      (hearing.absorb other (entriesOf (heard.map Prod.fst))).1 := by
  induction heard generalizing table other with
  | nil => exact same
  | cons said rest inductionHypothesis =>
    rw [List.map_cons, entriesOf, List.flatMap_cons, Hearing.absorb_append]
    exact inductionHypothesis _ _
      ((said.1.hearing said.2).sameStanding_absorb hearing table other said.1.entries same)

section Each

variable {announcements : List Announcement} (hears : Hears heard announcements)

include hears

/-- Every order is as good as one neighbour that says everything at once. -/
theorem sameStanding_chorus :
    (hearAll table heard).SameStanding (chorus.absorb table (entriesOf announcements)).1 := by
  intro key
  rw [sameStanding_hearAll table heard chorus table (fun _ => rfl) key, Hearing.find?_absorb_eq,
    Hearing.find?_absorb_eq, Hearing.best?_congr key _ _ fun entry => ?_]
  simp only [mem_entriesOf, hears _]

theorem mem_keys_hearAll (key : Ipv4Address × Ipv4Address) :
    key ∈ (hearAll table heard).keys ↔ key ∈ table.keys ∨
      ∃ entry ∈ entriesOf announcements, Hearing.Offers entry ∧ entry.key = key := by
  rw [(sameStanding_chorus table heard hears).mem_keys_iff, Hearing.keys_absorb, List.mem_append,
    Hearing.mem_newKeys]
  refine ⟨Or.imp_right And.left, fun either => ?_⟩
  by_cases known : key ∈ table.keys
  · exact Or.inl known
  · exact Or.inr ⟨either.resolve_left known, known⟩

theorem isLeast_hearAll (route : Route)
    (member : route ∈ (hearAll table heard).routes) (learned : route.origin = .learned) :
    IsLeast (Hearing.costs (table.find? route.destination route.mask) (entriesOf announcements)
      route.key) route.cost.toNat := by
  have found := RouteTable.find?_of_mem _ route member
  have same := sameStanding_chorus table heard hears route.key
  rw [Hearing.find?_absorb_eq, show (hearAll table heard).find? route.key.1 route.key.2 =
    some route from found] at same
  obtain ⟨settled, isSettled, standing⟩ := Option.map_eq_some_iff.mp same.symm
  obtain ⟨origin, cost⟩ := Prod.mk.inj standing
  rw [← cost]
  exact chorus.isLeast_settled route.key _ _ settled isSettled (origin.trans learned)

/-- Whatever was offered is at least matched in the end. -/
theorem settled_hearAll (entry : RipEntry) (member : entry ∈ entriesOf announcements)
    (offers : Hearing.Offers entry) : Hearing.Settled (hearAll table heard) entry :=
  Hearing.settled_congr (hearAll table heard) entry _
    (sameStanding_chorus table heard hears entry.key).symm
    (chorus.settled_absorb table _ entry member offers)

theorem absorb_hearAll (announcement : Announcement) (member : announcement ∈ announcements)
    (now : Nat) :
    let again := (announcement.hearing now).absorb (hearAll table heard) announcement.entries
    again.2.1 = 0 ∧ again.1.routes.map Route.timeless =
      (hearAll table heard).routes.map Route.timeless := by
  refine (announcement.hearing now).absorb_of_settled _ _ fun entry among => ?_
  exact settled_hearAll table heard hears entry
    (mem_entriesOf.mpr ⟨announcement, member, among⟩)

end Each

end All

/-- However often, when and in whichever order announcements are heard, the router knows the same
destinations in the end, those that it knew and those that were offered, and they cost the same: a
learned route costs the least of what it cost at first and what was offered for it. To hear an
announcement again changes no route but for its time. -/
theorem hearAll_any_order (table : RouteTable) (announcements : List Announcement) :
    (∀ first second, Hears first announcements → Hears second announcements → ∀ key,
      (key ∈ (hearAll table first).keys ↔ key ∈ (hearAll table second).keys) ∧
        ((hearAll table first).find? key.1 key.2).map Route.cost =
          ((hearAll table second).find? key.1 key.2).map Route.cost) ∧
    ∀ heard, Hears heard announcements →
      (∀ key, key ∈ (hearAll table heard).keys ↔ key ∈ table.keys ∨
        ∃ entry ∈ entriesOf announcements, Hearing.Offers entry ∧ entry.key = key) ∧
      (∀ route ∈ (hearAll table heard).routes, route.origin = .learned →
        IsLeast (Hearing.costs (table.find? route.destination route.mask) (entriesOf announcements)
          route.key) route.cost.toNat) ∧
      ∀ announcement ∈ announcements, ∀ now,
        let again := (announcement.hearing now).absorb (hearAll table heard) announcement.entries
        again.2.1 = 0 ∧ again.1.routes.map Route.timeless =
          (hearAll table heard).routes.map Route.timeless := by
  refine ⟨fun first second hearsFirst hearsSecond key => ?_, fun heard hears =>
    ⟨mem_keys_hearAll table heard hears, isLeast_hearAll table heard hears,
      absorb_hearAll table heard hears⟩⟩
  have same : (hearAll table first).SameStanding (hearAll table second) := fun key =>
    (sameStanding_chorus table first hearsFirst key).trans
      (sameStanding_chorus table second hearsSecond key).symm
  have costs := congrArg (Option.map Prod.snd) (same key)
  rw [Option.map_map, Option.map_map] at costs
  exact ⟨same.mem_keys_iff key, costs⟩

/-! ### Two neighbours -/

namespace TwoNeighbors

def mask : Ipv4Address := .ofParts 255 255 0 0

/-- One neighbour is three hops away from 10.9.0.0/16 and one from 10.8.0.0/16. -/
def near : Announcement := ⟨.ofParts 10 0 0 2, "eth0",
  [.inet (.ofParts 10 9 0 0) mask .unspecified 3, .inet (.ofParts 10 8 0 0) mask .unspecified 1]⟩

/-- The other neighbour is three hops away from 10.9.0.0/16 too. -/
def far : Announcement :=
  ⟨.ofParts 10 0 1 2, "eth1", [.inet (.ofParts 10 9 0 0) mask .unspecified 3]⟩

/-- A dearer route to 10.9.0.0/16 is known. -/
def table : RouteTable :=
  ⟨[.learned (.ofParts 10 9 0 0) mask (.ofParts 10 0 0 7) "eth0" 9 0], by decide⟩

/-- The one is heard first, and once more at the end. -/
def nearFirst : List (Announcement × Nat) := [(near, 1), (far, 2), (near, 3)]

/-- The other is heard first. -/
def farFirst : List (Announcement × Nat) := [(far, 5), (near, 4)]

end TwoNeighbors

/-- The gateways depend on who is heard first, but the costs do not. -/
theorem hearAll_any_order_two_neighbors :
    Hears TwoNeighbors.nearFirst [TwoNeighbors.near, TwoNeighbors.far] ∧
      Hears TwoNeighbors.farFirst [TwoNeighbors.near, TwoNeighbors.far] ∧
      hearAll TwoNeighbors.table TwoNeighbors.nearFirst ≠
        hearAll TwoNeighbors.table TwoNeighbors.farFirst ∧
      (∀ key : Ipv4Address × Ipv4Address,
        ((hearAll TwoNeighbors.table TwoNeighbors.nearFirst).find? key.1 key.2).map Route.cost =
          ((hearAll TwoNeighbors.table TwoNeighbors.farFirst).find? key.1 key.2).map Route.cost) ∧
      ((TwoNeighbors.far.hearing 9).absorb (hearAll TwoNeighbors.table TwoNeighbors.nearFirst)
        TwoNeighbors.far.entries).2.1 = 0 := by
  have nearFirst : Hears TwoNeighbors.nearFirst [TwoNeighbors.near, TwoNeighbors.far] := by
    intro announcement
    simp only [TwoNeighbors.nearFirst, List.map_cons, List.map_nil, List.mem_cons,
      List.not_mem_nil, or_false]
    exact ⟨fun heard => heard.elim Or.inl fun heard => heard.symm, Or.imp_right Or.inl⟩
  have farFirst : Hears TwoNeighbors.farFirst [TwoNeighbors.near, TwoNeighbors.far] := by
    intro announcement
    simp only [TwoNeighbors.farFirst, List.map_cons, List.map_nil, List.mem_cons,
      List.not_mem_nil, or_false]
    exact or_comm
  obtain ⟨anyOrder, inTheEnd⟩ := hearAll_any_order TwoNeighbors.table
    [TwoNeighbors.near, TwoNeighbors.far]
  obtain ⟨-, -, again⟩ := inTheEnd TwoNeighbors.nearFirst nearFirst
  exact ⟨nearFirst, farFirst, by decide,
    fun key => (anyOrder _ _ nearFirst farFirst key).2,
    (again TwoNeighbors.far (List.mem_cons_of_mem _ List.mem_cons_self) 9).1⟩

end DistanceVector

end Ipv4Router
