/-
This file describes what an advertisement does to a route table. An entry changes the
table in one way only: the route that was heard takes the place of one that is not
cheaper, or of none. An advertisement that changes nothing finds a route at least as
good for everything that it offers. A route that is offered again is as young as the
advertisement.
-/

import Ipv4Router.DistanceVector.Exchange
import Ipv4Router.Proofs.Route.Table

namespace Ipv4Router.DistanceVector

/-! ### One entry -/

namespace Hearing

/-- The route that an entry offers. -/
def heard (hearing : Hearing) (entry : RipEntry) : Route :=
  .learned entry.address entry.mask hearing.advertiser hearing.interface (entry.metric + 1)
    hearing.now

/-- An entry that is about a network, at a distance that can still be counted. -/
structure Offers (entry : RipEntry) : Prop where
  isInet : entry.isInet = true
  isNetwork : entry.isNetwork = true
  near : entry.metric < 15

instance (entry : RipEntry) : Decidable (Offers entry) :=
  decidable_of_iff (entry.isInet = true ∧ entry.isNetwork = true ∧ entry.metric < 15)
    ⟨fun ⟨isInet, isNetwork, near⟩ => ⟨isInet, isNetwork, near⟩,
      fun offers => ⟨offers.isInet, offers.isNetwork, offers.near⟩⟩

theorem toNat_add_one (metric : UInt32) (near : metric < 15) :
    (metric + 1).toNat = metric.toNat + 1 := by
  have bound : metric.toNat < 15 := UInt32.lt_iff_toNat_lt.mp near
  have small : metric.toNat + 1 < 2 ^ 32 := by omega
  exact (UInt32.toNat_add metric 1).trans (Nat.mod_eq_of_lt small)

/-- What an entry does to a table. If the route that was heard is taken, the one before it was
learned too and was not cheaper. -/
inductive Relaxed (hearing : Hearing) (table : RouteTable) (entry : RipEntry)
    (after : RouteTable) : Prop
  | kept (same : after = table)
  | taken (offers : Offers entry)
    (worse : ∀ previous, table.find? entry.address entry.mask = some previous →
      previous.origin = .learned ∧ entry.metric + 1 ≤ previous.cost)
    (self : after.find? entry.address entry.mask = some (hearing.heard entry))
    (others : ∀ destination mask, (entry.address, entry.mask) ≠ (destination, mask) →
      after.find? destination mask = table.find? destination mask)

variable (hearing : Hearing) (table : RouteTable) (entry : RipEntry)

/-- An entry that offers a route is judged by the route that there is. -/
theorem judge_of_offers (existing : Option Route) (offers : Offers entry) :
    hearing.judge existing entry =
      match existing with
      | none => .install (entry.metric + 1)
      | some route =>
        if route.origin ≠ .learned then .keep
        else if entry.metric + 1 < route.cost then .improve (entry.metric + 1) route
        else if route.gateway = hearing.advertiser ∧ route.interface = hearing.interface ∧
            entry.metric + 1 = route.cost then .refresh
        else .keep := by
  have wellFormed : ¬ (!entry.isInet || !entry.isNetwork) = true := by
    rw [offers.isInet, offers.isNetwork]
    exact Bool.false_ne_true
  have reachable : ¬ RipEntry.infinity - 1 ≤ entry.metric := UInt32.not_le.mpr offers.near
  refine (if_neg wellFormed).trans ((if_neg reachable).trans ?_)
  cases existing <;> rfl

/-- An entry that offers no route is judged by itself. -/
theorem judge_of_not_offers (existing : Option Route) (offersNone : ¬ Offers entry) :
    hearing.judge existing entry = .malformed ∨ hearing.judge existing entry = .unreachable := by
  unfold judge
  split
  · exact Or.inl rfl
  · rename_i wellFormed
    split
    · exact Or.inr rfl
    · rename_i notFar
      rw [Bool.or_eq_true, Bool.not_eq_true', Bool.not_eq_true', not_or,
        Bool.not_eq_false, Bool.not_eq_false] at wellFormed
      exact absurd ⟨wellFormed.1, wellFormed.2, UInt32.not_le.mp notFar⟩ offersNone

/-- The three verdicts that change the table put in the same route. -/
theorem redirected_eq_heard (route : Route) (cost : Option UInt32)
    (found : table.find? entry.address entry.mask = some route)
    (learned : route.origin = .learned) (costs : cost.getD route.cost = entry.metric + 1) :
    route.redirected hearing.advertiser hearing.interface hearing.now cost =
      hearing.heard entry := by
  obtain ⟨-, destination, mask⟩ := table.mem_of_find? _ _ _ found
  rw [Route.redirected, heard, Route.learned, costs, destination, mask, learned]

/-- What relaxing by an entry makes of a table: the same table, one with the route that was heard
put in where there was none, or one with a learned route redirected to it. -/
inductive Relaxes (hearing : Hearing) (table : RouteTable) (entry : RipEntry) : RouteTable → Prop
  | kept : Relaxes hearing table entry table
  | added (offers : Offers entry) (absent : table.find? entry.address entry.mask = none) :
    Relaxes hearing table entry (table.insert (hearing.heard entry)).1
  | redirected (route : Route) (cost : Option UInt32) (offers : Offers entry)
    (found : table.find? entry.address entry.mask = some route)
    (learned : route.origin = .learned) (costs : cost.getD route.cost = entry.metric + 1)
    (notCheaper : entry.metric + 1 ≤ route.cost) :
    Relaxes hearing table entry (table.update entry.address entry.mask hearing.advertiser
      hearing.interface hearing.now cost).1

theorem relaxes_relax : hearing.Relaxes table entry (hearing.relax table entry).1 := by
  show hearing.Relaxes table entry
    (hearing.apply table entry (hearing.judge (table.find? entry.address entry.mask) entry))
  by_cases offers : Offers entry
  · rw [hearing.judge_of_offers entry _ offers]
    cases found : table.find? entry.address entry.mask with
    | none => exact .added offers found
    | some route =>
      dsimp only
      split
      · exact .kept
      · rename_i learned
        rw [Decidable.not_not] at learned
        split
        · rename_i cheaper
          exact .redirected route (some (entry.metric + 1)) offers found learned rfl
            (UInt32.le_of_lt cheaper)
        · split
          · rename_i same
            exact .redirected route none offers found learned same.2.2.symm
              (by rw [same.2.2]; exact UInt32.le_refl _)
          · exact .kept
  · rcases hearing.judge_of_not_offers entry (table.find? entry.address entry.mask) offers with
      malformed | unreachable
    · rw [malformed]
      exact .kept
    · rw [unreachable]
      exact .kept

/-- Seen from what is found under each destination and mask, putting in and redirecting are one. -/
theorem relaxed_of_relaxes (after : RouteTable) (relaxes : hearing.Relaxes table entry after) :
    hearing.Relaxed table entry after := by
  cases relaxes with
  | kept => exact .kept rfl
  | added offers absent =>
    refine .taken offers (fun previous found => ?_) (table.find?_insert_self (hearing.heard entry))
      fun destination mask => table.find?_insert_other (hearing.heard entry) destination mask
    cases absent.symm.trans found
  | redirected route cost offers found learned costs notCheaper =>
    refine .taken offers (fun previous foundPrevious => ?_) ?_
      fun _ _ different => table.find?_update_other _ _ _ _ _ _ _ _ different
    · rw [found, Option.some_inj] at foundPrevious
      rw [← foundPrevious]
      exact ⟨learned, notCheaper⟩
    · rw [RouteTable.find?_update_self, found, Option.map_some,
        hearing.redirected_eq_heard table entry route cost found learned costs]

theorem relaxed_relax : hearing.Relaxed table entry (hearing.relax table entry).1 :=
  hearing.relaxed_of_relaxes table entry _ (hearing.relaxes_relax table entry)

/-! ### Nothing changed -/

/-- The table has a route at least as good as the one that an entry offers. -/
def Settled (table : RouteTable) (entry : RipEntry) : Prop :=
  ∃ route, table.find? entry.address entry.mask = some route ∧
    (route.origin = .learned → route.cost ≤ entry.metric + 1)

theorem settled_of_unchanged (unchanged : (hearing.relax table entry).2.isChange = false)
    (offers : Offers entry) : Settled table entry := by
  change (hearing.judge (table.find? entry.address entry.mask) entry).isChange = false at unchanged
  rw [hearing.judge_of_offers entry _ offers] at unchanged
  cases found : table.find? entry.address entry.mask with
  | none =>
    rw [found] at unchanged
    cases unchanged
  | some route =>
    refine ⟨route, found, fun learned => ?_⟩
    rw [found] at unchanged
    dsimp only at unchanged
    rw [if_neg (not_not_intro learned)] at unchanged
    split at unchanged
    · cases unchanged
    · rename_i notCheaper
      exact UInt32.not_lt.mp notCheaper

/-- An entry that changes nothing keeps where every route comes from and what it costs; at most it
makes one younger. -/
theorem standing_of_unchanged (unchanged : (hearing.relax table entry).2.isChange = false)
    (destination mask : Ipv4Address) :
    ((hearing.relax table entry).1.find? destination mask).map
        (fun route => (route.origin, route.cost)) =
      (table.find? destination mask).map fun route => (route.origin, route.cost) := by
  rcases hearing.relaxed_relax table entry with same | ⟨offers, worse, self, others⟩
  · rw [same]
  · by_cases about : (entry.address, entry.mask) = (destination, mask)
    · obtain ⟨rfl, rfl⟩ := Prod.mk.inj about
      obtain ⟨previous, found, notDearer⟩ :=
        settled_of_unchanged hearing table entry unchanged offers
      obtain ⟨learned, notCheaper⟩ := worse previous found
      rw [self, found, Option.map_some, Option.map_some, learned,
        UInt32.le_antisymm (notDearer learned) notCheaper]
      rfl
    · rw [others destination mask about]

theorem settled_congr (after : RouteTable)
    (standing : (after.find? entry.address entry.mask).map
        (fun route => (route.origin, route.cost)) =
      (table.find? entry.address entry.mask).map fun route => (route.origin, route.cost))
    (settled : Settled after entry) : Settled table entry := by
  obtain ⟨route, found, notDearer⟩ := settled
  rw [found, Option.map_some] at standing
  obtain ⟨previous, foundPrevious, same⟩ := Option.map_eq_some_iff.mp standing.symm
  obtain ⟨origin, cost⟩ := Prod.mk.inj same
  exact ⟨previous, foundPrevious, fun learned => cost ▸ notDearer (origin ▸ learned)⟩

/-! ### A whole advertisement -/

theorem relaxAll_cons (rest : List RipEntry) :
    hearing.relaxAll table (entry :: rest) =
      ((hearing.relaxAll (hearing.relax table entry).1 rest).1,
        (hearing.relax table entry).2 :: (hearing.relaxAll (hearing.relax table entry).1 rest).2) :=
  rfl

/-- An advertisement in two parts is absorbed one part after the other. -/
theorem absorb_append (first second : List RipEntry) :
    (hearing.absorb table (first ++ second)).1 =
      (hearing.absorb (hearing.absorb table first).1 second).1 := by
  show (hearing.relaxAll table (first ++ second)).1 =
    (hearing.relaxAll (hearing.relaxAll table first).1 second).1
  induction first generalizing table with
  | nil => rfl
  | cons entry rest inductionHypothesis =>
    rw [List.cons_append, relaxAll_cons, relaxAll_cons, inductionHypothesis]

/-- What every entry keeps, the advertisement keeps. -/
theorem absorb_keeps (invariant : RouteTable → Prop) (entries : List RipEntry)
    (step : ∀ table, ∀ entry ∈ entries, invariant table → invariant (hearing.relax table entry).1)
    (start : invariant table) : invariant (hearing.absorb table entries).1 := by
  show invariant (hearing.relaxAll table entries).1
  induction entries generalizing table with
  | nil => exact start
  | cons entry rest inductionHypothesis =>
    rw [relaxAll_cons]
    exact inductionHypothesis _ (fun table later member => step table later
      (List.mem_cons_of_mem _ member)) (step table entry List.mem_cons_self start)

/-- No route goes away or gets dearer. -/
theorem cheaper_relax (destination mask : Ipv4Address) (cost : UInt32)
    (before : ∃ route, table.find? destination mask = some route ∧ route.cost ≤ cost) :
    ∃ route, (hearing.relax table entry).1.find? destination mask = some route ∧
      route.cost ≤ cost := by
  obtain ⟨route, found, cheap⟩ := before
  rcases hearing.relaxed_relax table entry with same | ⟨-, worse, self, others⟩
  · rw [same]
    exact ⟨route, found, cheap⟩
  · by_cases about : (entry.address, entry.mask) = (destination, mask)
    · obtain ⟨rfl, rfl⟩ := Prod.mk.inj about
      exact ⟨_, self, UInt32.le_trans (worse route found).2 cheap⟩
    · exact ⟨route, (others destination mask about).trans found, cheap⟩

theorem cheaper_absorb (entries : List RipEntry) (destination mask : Ipv4Address) (cost : UInt32)
    (before : ∃ route, table.find? destination mask = some route ∧ route.cost ≤ cost) :
    ∃ route, (hearing.absorb table entries).1.find? destination mask = some route ∧
      route.cost ≤ cost :=
  hearing.absorb_keeps table
    (fun table => ∃ route, table.find? destination mask = some route ∧ route.cost ≤ cost) entries
    (fun table entry _ => hearing.cheaper_relax table entry destination mask cost) before

/-- An advertisement that changes nothing finds everything settled. -/
theorem settled_of_absorb (entries : List RipEntry)
    (unchanged : (hearing.absorb table entries).2.1 = 0) (member : entry ∈ entries)
    (offers : Offers entry) : Settled table entry := by
  change changes (hearing.relaxAll table entries).2 = 0 at unchanged
  induction entries generalizing table with
  | nil => cases member
  | cons head rest inductionHypothesis =>
    rw [relaxAll_cons, changes, List.countP_cons, Nat.add_eq_zero_iff] at unchanged
    have headUnchanged : (hearing.relax table head).2.isChange = false := by
      cases change : (hearing.relax table head).2.isChange with
      | false => rfl
      | true => rw [change] at unchanged; cases unchanged.2
    rcases List.mem_cons.mp member with rfl | inRest
    · exact settled_of_unchanged hearing table entry headUnchanged offers
    · exact settled_congr table entry _
        (standing_of_unchanged hearing table head headUnchanged _ _)
        (inductionHypothesis _ inRest unchanged.1)

/-! ### Where a route comes from -/

/-- An entry offers a route just as the table has it, but for the time. -/
structure Repeats (hearing : Hearing) (entry : RipEntry) (route : Route) : Prop where
  offers : Offers entry
  destination_eq : entry.address = route.destination
  mask_eq : entry.mask = route.mask
  gateway_eq : route.gateway = hearing.advertiser
  interface_eq : route.interface = hearing.interface
  cost_eq : entry.metric + 1 = route.cost

/-- A route that is offered again is as young as the advertisement. -/
theorem find?_relax_of_repeats (route : Route)
    (found : table.find? entry.address entry.mask = some route)
    (learned : route.origin = .learned) (repeats : hearing.Repeats entry route) :
    (hearing.relax table entry).1.find? entry.address entry.mask =
      some (hearing.heard entry) := by
  have notCheaper : ¬ entry.metric + 1 < route.cost := by
    rw [repeats.cost_eq]
    exact UInt32.lt_irrefl _
  have refreshes : hearing.judge (table.find? entry.address entry.mask) entry = .refresh := by
    rw [hearing.judge_of_offers entry _ repeats.offers, found]
    dsimp only
    rw [if_neg (not_not_intro learned), if_neg notCheaper,
      if_pos ⟨repeats.gateway_eq, repeats.interface_eq, repeats.cost_eq⟩]
  have relaxed : (hearing.relax table entry).1 =
      (table.update entry.address entry.mask hearing.advertiser hearing.interface hearing.now
        none).1 :=
    congrArg (hearing.apply table entry) refreshes
  rw [relaxed, RouteTable.find?_update_self, found, Option.map_some,
    hearing.redirected_eq_heard table entry route none found learned repeats.cost_eq.symm]

/-- Every route after an advertisement was there before or is one that it offers. -/
theorem find?_absorb (entries : List RipEntry) (destination mask : Ipv4Address) (route : Route)
    (found : (hearing.absorb table entries).1.find? destination mask = some route) :
    table.find? destination mask = some route ∨
      ∃ entry ∈ entries, Offers entry ∧ route = hearing.heard entry := by
  refine hearing.absorb_keeps table
    (fun after => after.find? destination mask = some route →
      table.find? destination mask = some route ∨
        ∃ entry ∈ entries, Offers entry ∧ route = hearing.heard entry)
    entries (fun before entry member holds relaxed => ?_) Or.inl found
  rcases hearing.relaxed_relax before entry with same | ⟨offers, -, self, others⟩
  · rw [same] at relaxed
    exact holds relaxed
  · by_cases about : (entry.address, entry.mask) = (destination, mask)
    · obtain ⟨rfl, rfl⟩ := Prod.mk.inj about
      rw [self, Option.some_inj] at relaxed
      exact Or.inr ⟨entry, member, offers, relaxed.symm⟩
    · rw [others destination mask about] at relaxed
      exact holds relaxed

/-- A learned route that an advertisement repeats is as young as the advertisement. -/
theorem updatedAt_of_repeats (entries : List RipEntry) (route : Route)
    (found : (hearing.absorb table entries).1.find? route.destination route.mask = some route)
    (learned : route.origin = .learned) (member : entry ∈ entries)
    (repeats : hearing.Repeats entry route) : route.updatedAt = hearing.now := by
  refine Decidable.byContradiction fun older => ?_
  -- An older route was there all along, so the entry met it and made it young.
  suffices untouched : table.find? route.destination route.mask = some route ∧
      ∀ entry ∈ entries, ¬ hearing.Repeats entry route from untouched.2 entry member repeats
  clear member repeats
  change (hearing.relaxAll table entries).1.find? route.destination route.mask = some route at found
  induction entries generalizing table with
  | nil => exact ⟨found, fun _ none => absurd none List.not_mem_nil⟩
  | cons head rest inductionHypothesis =>
    rw [relaxAll_cons] at found
    obtain ⟨foundAfter, unrepeated⟩ := inductionHypothesis _ found
    have young : (hearing.relax table head).1.find? route.destination route.mask ≠
        some (hearing.heard head) := fun taken => by
      rw [foundAfter, Option.some_inj] at taken
      exact older (congrArg Route.updatedAt taken)
    have foundBefore : table.find? route.destination route.mask = some route := by
      rcases hearing.relaxed_relax table head with same | ⟨-, -, self, others⟩
      · rwa [same] at foundAfter
      · by_cases about : (head.address, head.mask) = (route.destination, route.mask)
        · obtain ⟨destination, mask⟩ := Prod.mk.inj about
          rw [destination, mask] at self
          exact absurd self young
        · rwa [others _ _ about] at foundAfter
    refine ⟨foundBefore, fun entry among repeats => ?_⟩
    rcases List.mem_cons.mp among with rfl | inRest
    · have refreshed := hearing.find?_relax_of_repeats table entry route
        (by rwa [repeats.destination_eq, repeats.mask_eq]) learned repeats
      rw [repeats.destination_eq, repeats.mask_eq] at refreshed
      exact young refreshed
    · exact unrepeated entry inRest repeats

end Hearing

end Ipv4Router.DistanceVector
