/-
This file says what an advertisement does to a route table as a whole. Two offers for one
destination and mask do what the better of them does alone, so all that counts for a
route is the least metric that is offered for it. Destinations that are new to the table
are added in the order in which they are first offered. An entry counts as a change if it
offers something better than the table had and than every entry before it.
-/

import Ipv4Router.Proofs.DistanceVector.Relaxation

namespace Ipv4Router

/-- The destination and the mask that an entry is about. -/
def RipEntry.key (entry : RipEntry) : Ipv4Address × Ipv4Address := (entry.address, entry.mask)

namespace DistanceVector.Hearing

/-! ### The best offer -/

/-- The least metric that entries offer for a destination and mask. -/
def best? (entries : List RipEntry) (key : Ipv4Address × Ipv4Address) : Option UInt32 :=
  ((entries.filter fun entry => Offers entry ∧ entry.key = key).map RipEntry.metric).min?

section Best

variable (entries : List RipEntry) (key : Ipv4Address × Ipv4Address)

theorem best?_eq_some_iff (metric : UInt32) :
    best? entries key = some metric ↔
      (∃ entry ∈ entries, Offers entry ∧ entry.key = key ∧ entry.metric = metric) ∧
        ∀ entry ∈ entries, Offers entry → entry.key = key → metric ≤ entry.metric := by
  rw [best?, List.min?_eq_some_iff]
  simp only [List.mem_map, List.mem_filter, decide_eq_true_eq, forall_exists_index, and_imp,
    and_assoc]
  refine and_congr_right fun _ => ⟨fun least entry member offers about => ?_,
    fun least _ entry member offers about same => ?_⟩
  · exact least entry.metric entry member offers about rfl
  · rw [← same]
    exact least entry member offers about

theorem best?_eq_none_iff :
    best? entries key = none ↔ ∀ entry ∈ entries, Offers entry → entry.key ≠ key := by
  rw [best?, List.min?_eq_none_iff, List.map_eq_nil_iff, List.filter_eq_nil_iff]
  simp only [decide_eq_true_eq, not_and, ne_eq]

theorem best?_cons (entry : RipEntry) :
    best? (entry :: entries) key =
      if Offers entry ∧ entry.key = key then
        some ((best? entries key).elim entry.metric (min entry.metric))
      else best? entries key := by
  unfold best?
  rw [List.filter_cons]
  by_cases offered : Offers entry ∧ entry.key = key
  · rw [if_pos (decide_eq_true offered), if_pos offered, List.map_cons, List.min?_cons]
  · rw [if_neg (fun holds => offered (of_decide_eq_true holds)), if_neg offered]

/-- What is offered can be counted. -/
theorem near_of_best? (metric : UInt32) (best : best? entries key = some metric) :
    metric < 15 := by
  obtain ⟨⟨entry, -, offers, -, rfl⟩, -⟩ := (best?_eq_some_iff entries key metric).mp best
  exact offers.near

end Best

/-! ### One route -/

section Offering

variable (hearing : Hearing) (table : RouteTable) (entry : RipEntry)

/-- The route that an offer for a destination and mask promises. -/
def offered (key : Ipv4Address × Ipv4Address) (metric : UInt32) : Route :=
  .learned key.1 key.2 hearing.advertiser hearing.interface (metric + 1) hearing.now

/-- What becomes of a route when this is the best offer for its destination and mask. Only a learned
route gives way to a cheaper one. One that the same neighbour offers again on the same interface,
at the same cost, is made young. -/
def settle (best : Option UInt32) (route : Route) : Route :=
  match best with
  | none => route
  | some metric =>
    if route.origin ≠ .learned then route
    else if metric + 1 < route.cost then hearing.offered route.key metric
    else if metric + 1 = route.cost ∧ route.gateway = hearing.advertiser ∧
        route.interface = hearing.interface then { route with updatedAt := hearing.now }
    else route

/-- What the table has for a destination and mask after the best offer for them. -/
def settled (best : Option UInt32) (key : Ipv4Address × Ipv4Address) (existing : Option Route) :
    Option Route :=
  match existing with
  | none => best.map (hearing.offered key)
  | some route => some (hearing.settle best route)

theorem settled_none (key : Ipv4Address × Ipv4Address) (existing : Option Route) :
    hearing.settled none key existing = existing := by
  cases existing <;> rfl

theorem add_one_lt_iff (first second : UInt32) (firstNear : first < 15) (secondNear : second < 15) :
    first + 1 < second + 1 ↔ first < second := by
  rw [UInt32.lt_iff_toNat_lt, UInt32.lt_iff_toNat_lt, toNat_add_one first firstNear,
    toNat_add_one second secondNear, Nat.add_lt_add_iff_right]

theorem add_one_le_iff (first second : UInt32) (firstNear : first < 15) (secondNear : second < 15) :
    first + 1 ≤ second + 1 ↔ first ≤ second := by
  rw [← UInt32.not_lt, ← UInt32.not_lt, add_one_lt_iff second first secondNear firstNear]

section Settle

variable (metric : UInt32) (route : Route)

theorem settle_of_ne (best : Option UInt32) (configured : route.origin ≠ .learned) :
    hearing.settle best route = route := by
  cases best with
  | none => rfl
  | some metric => exact if_pos configured

theorem settle_of_lt (learned : route.origin = .learned) (cheaper : metric + 1 < route.cost) :
    hearing.settle (some metric) route = hearing.offered route.key metric := by
  rw [settle, if_neg (not_not_intro learned), if_pos cheaper]

/-- An offer that is not cheaper makes the route young at most. -/
theorem settle_of_not_lt (learned : route.origin = .learned)
    (notCheaper : ¬ metric + 1 < route.cost) :
    hearing.settle (some metric) route =
      if metric + 1 = route.cost ∧ route.gateway = hearing.advertiser ∧
          route.interface = hearing.interface then { route with updatedAt := hearing.now }
      else route := by
  rw [settle, if_neg (not_not_intro learned), if_neg notCheaper]

/-- Settling a route keeps where it comes from, and it costs what the best offer promises if that
is less. -/
theorem standing_settle :
    (hearing.settle (some metric) route).key = route.key ∧
      (hearing.settle (some metric) route).origin = route.origin ∧
      (hearing.settle (some metric) route).cost =
        if route.origin = .learned ∧ metric + 1 < route.cost then metric + 1 else route.cost := by
  by_cases learned : route.origin = .learned
  · by_cases cheaper : metric + 1 < route.cost
    · rw [hearing.settle_of_lt metric route learned cheaper, if_pos ⟨learned, cheaper⟩]
      exact ⟨rfl, learned.symm, rfl⟩
    · have dear : ¬ (route.origin = .learned ∧ metric + 1 < route.cost) :=
        fun both => cheaper both.2
      rw [if_neg dear, hearing.settle_of_not_lt metric route learned cheaper]
      split <;> exact ⟨rfl, rfl, rfl⟩
  · rw [hearing.settle_of_ne route _ learned, if_neg fun both => learned both.1]
    exact ⟨rfl, rfl, rfl⟩

/-- After a better offer, the one before it plays no role. -/
theorem settle_settle_of_lt (first second : UInt32) (firstNear : first < 15)
    (better : second < first) :
    hearing.settle (some second) (hearing.settle (some first) route) =
      hearing.settle (some second) route := by
  have less : second + 1 < first + 1 :=
    (add_one_lt_iff second first (UInt32.lt_trans better firstNear) firstNear).mpr better
  by_cases learned : route.origin = .learned
  · by_cases cheaper : second + 1 < route.cost
    · obtain ⟨key, origin, cost⟩ := hearing.standing_settle first route
      have cheaperAgain : second + 1 < (hearing.settle (some first) route).cost := by
        rw [cost]
        split
        · exact less
        · exact cheaper
      rw [hearing.settle_of_lt second route learned cheaper,
        hearing.settle_of_lt second _ (origin.trans learned) cheaperAgain, key]
    · -- The first offer is dearer than the route then, so that it does not even make it young.
      have dearer : route.cost < first + 1 := UInt32.lt_of_le_of_lt (UInt32.not_lt.mp cheaper) less
      rw [hearing.settle_of_not_lt first route learned (UInt32.lt_asymm dearer),
        if_neg fun again => UInt32.lt_irrefl _ (again.1 ▸ dearer)]
  · rw [hearing.settle_of_ne route (some first) learned]

/-- After an offer that is as good, an offer plays no role. -/
theorem settle_settle_of_le (first second : UInt32) (secondNear : second < 15)
    (notBetter : first ≤ second) :
    hearing.settle (some second) (hearing.settle (some first) route) =
      hearing.settle (some first) route := by
  have notLess : first + 1 ≤ second + 1 :=
    (add_one_le_iff first second (UInt32.lt_of_le_of_lt notBetter secondNear) secondNear).mpr
      notBetter
  by_cases learned : route.origin = .learned
  · by_cases cheaper : first + 1 < route.cost
    · rw [hearing.settle_of_lt first route learned cheaper,
        hearing.settle_of_not_lt second (hearing.offered route.key first) rfl
          (UInt32.not_lt.mpr notLess)]
      split <;> rfl
    · have costLe : route.cost ≤ first + 1 := UInt32.not_lt.mp cheaper
      have dear : ¬ second + 1 < route.cost := UInt32.not_lt.mpr (UInt32.le_trans costLe notLess)
      rw [hearing.settle_of_not_lt first route learned cheaper]
      by_cases again : first + 1 = route.cost ∧ route.gateway = hearing.advertiser ∧
          route.interface = hearing.interface
      · rw [if_pos again, hearing.settle_of_not_lt second { route with updatedAt := hearing.now }
          learned dear]
        split <;> rfl
      · rw [if_neg again, hearing.settle_of_not_lt second route learned dear, if_neg]
        -- An offer at the same cost after this one is as good, so that this one repeats it too.
        rintro ⟨same, repeats⟩
        exact again ⟨UInt32.le_antisymm (same ▸ notLess) costLe, repeats⟩
  · rw [hearing.settle_of_ne route (some first) learned, hearing.settle_of_ne route _ learned]

/-- An offer for what was offered before replaces it if it is better. -/
theorem settle_offered (key : Ipv4Address × Ipv4Address) (first second : UInt32)
    (firstNear : first < 15) (secondNear : second < 15) :
    hearing.settle (some second) (hearing.offered key first) =
      hearing.offered key (min first second) := by
  by_cases better : second < first
  · rw [hearing.settle_of_lt second (hearing.offered key first) rfl
      ((add_one_lt_iff second first secondNear firstNear).mpr better),
      Std.LawfulOrderLeftLeaningMin.min_eq_right _ _ (UInt32.not_le.mpr better)]
    rfl
  · rw [hearing.settle_of_not_lt second (hearing.offered key first) rfl
      (fun less => better ((add_one_lt_iff second first secondNear firstNear).mp less)),
      Std.LawfulOrderLeftLeaningMin.min_eq_left _ _ (UInt32.not_lt.mp better)]
    split <;> rfl

/-- Two offers for a destination and mask do what the better one does alone. -/
theorem settled_settled (key : Ipv4Address × Ipv4Address) (existing : Option Route)
    (first second : UInt32) (firstNear : first < 15) (secondNear : second < 15) :
    hearing.settled (some second) key (hearing.settled (some first) key existing) =
      hearing.settled (some (min first second)) key existing := by
  cases existing with
  | none => exact congrArg some (hearing.settle_offered key first second firstNear secondNear)
  | some route =>
    by_cases better : second < first
    · rw [Std.LawfulOrderLeftLeaningMin.min_eq_right _ _ (UInt32.not_le.mpr better)]
      exact congrArg some (hearing.settle_settle_of_lt route first second firstNear better)
    · have notBetter := UInt32.not_lt.mp better
      rw [Std.LawfulOrderLeftLeaningMin.min_eq_left _ _ notBetter]
      exact congrArg some (hearing.settle_settle_of_le route first second secondNear notBetter)

end Settle

/-! ### All entries -/

/-- An entry that offers a route settles what the table has for its destination and mask. -/
theorem find?_relax_self (offers : Offers entry) :
    (hearing.relax table entry).1.find? entry.address entry.mask =
      hearing.settled (some entry.metric) entry.key (table.find? entry.address entry.mask) := by
  show (hearing.apply table entry (hearing.judge _ entry)).find? entry.address entry.mask = _
  rw [hearing.judge_of_offers entry _ offers]
  cases found : table.find? entry.address entry.mask with
  | none => exact table.find?_insert_self (hearing.heard entry)
  | some route =>
    obtain ⟨-, destination, mask⟩ := table.mem_of_find? _ _ _ found
    have about : route.key = entry.key := by
      rw [Route.key, destination, mask]
      rfl
    dsimp only
    by_cases learned : route.origin = .learned
    · rw [if_neg (not_not_intro learned)]
      by_cases cheaper : entry.metric + 1 < route.cost
      · rw [if_pos cheaper, settled, hearing.settle_of_lt entry.metric route learned cheaper, about]
        show (table.update _ _ _ _ _ _).1.find? _ _ = _
        rw [RouteTable.find?_update_self, found, Option.map_some,
          hearing.redirected_eq_heard table entry route _ found learned rfl]
        rfl
      · rw [if_neg cheaper, settled, hearing.settle_of_not_lt entry.metric route learned cheaper]
        by_cases again : entry.metric + 1 = route.cost ∧ route.gateway = hearing.advertiser ∧
            route.interface = hearing.interface
        · rw [if_pos ⟨again.2.1, again.2.2, again.1⟩, if_pos again]
          show (table.update _ _ _ _ _ _).1.find? _ _ = _
          rw [RouteTable.find?_update_self, found, Option.map_some, Route.redirected,
            ← again.2.1, ← again.2.2]
          rfl
        · rw [if_neg fun same => again ⟨same.2.2, same.1, same.2.1⟩, if_neg again]
          exact found
    · rw [if_pos learned, settled, hearing.settle_of_ne route _ learned]
      exact found

/-- What an entry does, seen from any destination and mask. -/
theorem find?_relax (key : Ipv4Address × Ipv4Address) :
    (hearing.relax table entry).1.find? key.1 key.2 =
      if Offers entry ∧ entry.key = key then
        hearing.settled (some entry.metric) key (table.find? key.1 key.2)
      else table.find? key.1 key.2 := by
  split
  · rename_i offered
    obtain ⟨offers, rfl⟩ := offered
    exact hearing.find?_relax_self table entry offers
  · rename_i notOffered
    rcases hearing.relaxed_relax table entry with same | ⟨offers, -, -, others⟩
    · rw [same]
    · exact others key.1 key.2 fun about => notOffered ⟨offers, about⟩

/-- What the table has for a destination and mask after an advertisement depends on what it had and
on the best offer for them only. -/
theorem find?_absorb_eq (entries : List RipEntry) (key : Ipv4Address × Ipv4Address) :
    (hearing.absorb table entries).1.find? key.1 key.2 =
      hearing.settled (best? entries key) key (table.find? key.1 key.2) := by
  show (hearing.relaxAll table entries).1.find? key.1 key.2 = _
  induction entries generalizing table with
  | nil => exact (hearing.settled_none key _).symm
  | cons entry rest inductionHypothesis =>
    rw [relaxAll_cons, inductionHypothesis, find?_relax, best?_cons]
    by_cases offered : Offers entry ∧ entry.key = key
    · rw [if_pos offered, if_pos offered]
      cases best : best? rest key with
      | none => exact hearing.settled_none key _
      | some metric =>
        exact hearing.settled_settled key _ entry.metric metric offered.1.near
          (near_of_best? rest key metric best)
    · rw [if_neg offered, if_neg offered]

/-! ### The order of the table -/

/-- The destinations and masks that entries offer and a table does not have, in the order in which
each is first offered. -/
def newKeys (known : List (Ipv4Address × Ipv4Address)) (entries : List RipEntry) :
    List (Ipv4Address × Ipv4Address) :=
  (((entries.filter fun entry => Offers entry).map RipEntry.key).filter (· ∉ known)).eraseDups

theorem newKeys_cons (known : List (Ipv4Address × Ipv4Address)) (rest : List RipEntry) :
    newKeys known (entry :: rest) =
      if Offers entry ∧ entry.key ∉ known then entry.key :: newKeys (known ++ [entry.key]) rest
      else newKeys known rest := by
  unfold newKeys
  by_cases offers : Offers entry
  · rw [List.filter_cons, if_pos (decide_eq_true offers), List.map_cons, List.filter_cons]
    by_cases old : entry.key ∈ known
    · rw [if_neg (not_not_intro old ∘ of_decide_eq_true), if_neg fun new => new.2 old]
    · rw [if_pos (decide_eq_true old), if_pos ⟨offers, old⟩, List.eraseDups_cons,
        List.filter_filter]
      refine congrArg (fun keys => entry.key :: keys.eraseDups) (List.filter_congr fun key _ => ?_)
      rw [Bool.eq_iff_iff]
      simp only [Bool.and_eq_true, Bool.not_eq_true', beq_eq_false_iff_ne, decide_eq_true_eq,
        List.mem_append, List.mem_singleton, not_or, ne_eq, and_comm]
  · rw [List.filter_cons, if_neg fun holds => offers (of_decide_eq_true holds),
      if_neg fun new => offers new.1]

theorem mem_newKeys (known : List (Ipv4Address × Ipv4Address)) (entries : List RipEntry)
    (key : Ipv4Address × Ipv4Address) :
    key ∈ newKeys known entries ↔
      (∃ entry ∈ entries, Offers entry ∧ entry.key = key) ∧ key ∉ known := by
  rw [newKeys, List.mem_eraseDups, List.mem_filter, List.mem_map]
  simp only [List.mem_filter, decide_eq_true_eq, and_assoc]

/-- An entry adds the destination and mask for which it offers a route where there is none. -/
theorem keys_relax :
    (hearing.relax table entry).1.keys =
      if Offers entry ∧ entry.key ∉ table.keys then table.keys ++ [entry.key] else table.keys := by
  by_cases added : Offers entry ∧ entry.key ∉ table.keys
  · have absent := (table.find?_eq_none entry.key).mpr added.2
    rw [if_pos added]
    show (hearing.apply table entry
      (hearing.judge (table.find? entry.key.1 entry.key.2) entry)).keys = table.keys ++ [entry.key]
    rw [absent, hearing.judge_of_offers entry none added.1]
    exact table.keys_insert_of_absent (hearing.heard entry) absent
  · rw [if_neg added]
    have relaxes := hearing.relaxes_relax table entry
    generalize (hearing.relax table entry).1 = after at relaxes ⊢
    cases relaxes with
    | kept => rfl
    | added offers absent => exact absurd ⟨offers, (table.find?_eq_none entry.key).mp absent⟩ added
    | redirected => exact table.keys_update _ _ _ _ _ _

/-- Known destinations keep their places, and new ones follow them. -/
theorem keys_absorb (entries : List RipEntry) :
    (hearing.absorb table entries).1.keys = table.keys ++ newKeys table.keys entries := by
  show (hearing.relaxAll table entries).1.keys = table.keys ++ newKeys table.keys entries
  induction entries generalizing table with
  | nil => exact (List.append_nil _).symm
  | cons entry rest inductionHypothesis =>
    rw [relaxAll_cons, inductionHypothesis, keys_relax, newKeys_cons]
    split
    · rw [List.append_assoc, List.singleton_append]
    · rfl

/-- Every route is settled by the best offer for it where it stands, and the best offers for
destinations and masks without a route are added behind. -/
theorem routes_absorb (entries : List RipEntry) :
    ∃ added : List Route,
      (hearing.absorb table entries).1.routes =
        table.routes.map (fun route => hearing.settle (best? entries route.key) route) ++ added ∧
      added.map Route.key = newKeys table.keys entries ∧
      ∀ route ∈ added, ∃ metric, best? entries route.key = some metric ∧
        route = hearing.offered route.key metric := by
  have keys := hearing.keys_absorb table entries
  have found := hearing.find?_absorb_eq table entries
  generalize (hearing.absorb table entries).1 = after at keys found ⊢
  -- The keys say how far the old routes reach, and each key says what its route is.
  have addedKeys : (after.routes.drop table.routes.length).map Route.key =
      newKeys table.keys entries := by
    rw [List.map_drop]
    exact (congrArg _ keys).trans (List.drop_left' (List.length_map _))
  refine ⟨after.routes.drop table.routes.length, ?_, addedKeys, fun route member => ?_⟩
  · have settledFirst : after.routes.take table.routes.length = table.routes.map
        fun route => hearing.settle (best? entries route.key) route := by
      refine Keyed.take_eq_map Route.key table.routes after.routes (newKeys table.keys entries) _
        table.unique keys fun route member => ?_
      have settles := found route.key
      rwa [show table.find? route.key.1 route.key.2 = some route from
        table.find?_of_mem route member] at settles
    rw [← settledFirst, List.take_append_drop]
  · have new : route.key ∈ newKeys table.keys entries :=
      addedKeys ▸ List.mem_map_of_mem member
    have absent := (table.find?_eq_none route.key).mpr ((mem_newKeys _ _ _).mp new).2
    have promised := found route.key
    rw [absent, show after.find? route.key.1 route.key.2 = some route from
      after.find?_of_mem route (List.mem_of_mem_drop member)] at promised
    obtain ⟨metric, best, same⟩ := Option.map_eq_some_iff.mp promised.symm
    exact ⟨metric, best, same.symm⟩

/-! ### Changes -/

/-- An entry is news after earlier ones: it offers a route that beats the learned one in the table,
or for which there is none, and it beats whatever was offered earlier. -/
structure IsNews (table : RouteTable) (earlier : List RipEntry) (entry : RipEntry) : Prop where
  offers : Offers entry
  beatsTable : ∀ route ∈ table.find? entry.address entry.mask,
    route.origin = .learned ∧ entry.metric + 1 < route.cost
  beatsEarlier : ∀ metric ∈ best? earlier entry.key, entry.metric < metric

instance (earlier : List RipEntry) : Decidable (IsNews table earlier entry) :=
  -- There is one best metric at most, so that the others are not tried.
  letI : Decidable (∀ metric ∈ best? earlier entry.key, entry.metric < metric) :=
    Option.decidableForallMem _
  decidable_of_iff (Offers entry ∧
      (∀ route ∈ table.find? entry.address entry.mask,
        route.origin = .learned ∧ entry.metric + 1 < route.cost) ∧
      ∀ metric ∈ best? earlier entry.key, entry.metric < metric)
    ⟨fun ⟨offers, beatsTable, beatsEarlier⟩ => ⟨offers, beatsTable, beatsEarlier⟩,
      fun news => ⟨news.offers, news.beatsTable, news.beatsEarlier⟩⟩

theorem isChange_judge (existing : Option Route) :
    (hearing.judge existing entry).isChange = true ↔
      Offers entry ∧ ∀ route ∈ existing,
        route.origin = .learned ∧ entry.metric + 1 < route.cost := by
  by_cases offers : Offers entry
  · rw [hearing.judge_of_offers entry existing offers]
    cases existing with
    | none => exact ⟨fun _ => ⟨offers, nofun⟩, fun _ => rfl⟩
    | some route =>
      dsimp only
      by_cases learned : route.origin = .learned
      · rw [if_neg (not_not_intro learned)]
        by_cases cheaper : entry.metric + 1 < route.cost
        · rw [if_pos cheaper]
          exact ⟨fun _ => ⟨offers, fun _ same => Option.some_inj.mp same ▸ ⟨learned, cheaper⟩⟩,
            fun _ => rfl⟩
        · rw [if_neg cheaper]
          refine ⟨fun change => ?_, fun beats => absurd (beats.2 route rfl).2 cheaper⟩
          split at change <;> cases change
      · rw [if_pos learned]
        exact ⟨nofun, fun beats => absurd (beats.2 route rfl).1 learned⟩
  · refine ⟨fun change => ?_, fun beats => absurd beats.1 offers⟩
    rcases hearing.judge_of_not_offers entry existing offers with malformed | unreachable
    · rw [malformed] at change
      cases change
    · rw [unreachable] at change
      cases change

/-- An entry beats the outcome of earlier offers if it beats the table and the best of them. -/
theorem beats_settled_iff (offers : Offers entry) (best : Option UInt32)
    (near : ∀ metric ∈ best, metric < 15) (key : Ipv4Address × Ipv4Address)
    (existing : Option Route) :
    (∀ route ∈ hearing.settled best key existing,
        route.origin = .learned ∧ entry.metric + 1 < route.cost) ↔
      (∀ route ∈ existing, route.origin = .learned ∧ entry.metric + 1 < route.cost) ∧
        ∀ metric ∈ best, entry.metric < metric := by
  cases best with
  | none =>
    rw [settled_none]
    exact ⟨fun beats => ⟨beats, nofun⟩, fun beats => beats.1⟩
  | some metric =>
    have less := add_one_lt_iff entry.metric metric offers.near (near metric rfl)
    cases existing with
    | none =>
      simp only [settled, Option.map_some, Option.mem_def, Option.some.injEq, forall_eq',
        reduceCtorEq, false_implies, implies_true, true_and, ← less]
      exact ⟨fun beats => beats.2, fun beats => ⟨rfl, beats⟩⟩
    | some route =>
      obtain ⟨-, origin, cost⟩ := hearing.standing_settle metric route
      simp only [settled, Option.mem_def, Option.some.injEq, forall_eq', origin, cost, ← less]
      split
      · rename_i replaced
        exact ⟨fun beats => ⟨⟨beats.1, UInt32.lt_trans beats.2 replaced.2⟩, beats.2⟩,
          fun beats => ⟨beats.1.1, beats.2⟩⟩
      · rename_i kept
        refine ⟨fun beats => ⟨beats, ?_⟩, fun beats => beats.1⟩
        exact UInt32.lt_of_lt_of_le beats.2
          (UInt32.not_lt.mp fun cheaper => kept ⟨beats.1, cheaper⟩)

/-- An entry changes the table that earlier ones left exactly if it is news after them. -/
theorem isChange_relax (earlier : List RipEntry) :
    (hearing.relax (hearing.absorb table earlier).1 entry).2.isChange = true ↔
      IsNews table earlier entry := by
  have found := hearing.find?_absorb_eq table earlier entry.key
  show (hearing.judge ((hearing.absorb table earlier).1.find? entry.key.1 entry.key.2)
    entry).isChange = true ↔ _
  rw [isChange_judge, found]
  constructor
  · rintro ⟨offers, beats⟩
    obtain ⟨beatsTable, beatsEarlier⟩ := (hearing.beats_settled_iff entry offers _
      (near_of_best? earlier entry.key) entry.key _).mp beats
    exact ⟨offers, beatsTable, beatsEarlier⟩
  · rintro ⟨offers, beatsTable, beatsEarlier⟩
    exact ⟨offers, (hearing.beats_settled_iff entry offers _
      (near_of_best? earlier entry.key) entry.key _).mpr ⟨beatsTable, beatsEarlier⟩⟩

/-- The changes of an advertisement are its entries that are news after those before them. -/
theorem changes_absorb (entries : List RipEntry) :
    (hearing.absorb table entries).2.1 = entries.zipIdx.countP fun numbered =>
      IsNews table (entries.take numbered.2) numbered.1 := by
  -- What was heard before is carried along, since every entry is compared with all before it.
  suffices counted : ∀ earlier rest : List RipEntry,
      changes (hearing.relaxAll (hearing.absorb table earlier).1 rest).2 =
        (rest.zipIdx earlier.length).countP fun numbered =>
          IsNews table ((earlier ++ rest).take numbered.2) numbered.1 from counted [] entries
  intro earlier rest
  induction rest generalizing earlier with
  | nil => rfl
  | cons entry rest inductionHypothesis =>
    have later := inductionHypothesis (earlier ++ [entry])
    rw [absorb_append, List.length_append, List.append_assoc] at later
    rw [relaxAll_cons, changes, List.countP_cons, List.zipIdx_cons, List.countP_cons,
      List.take_left' rfl]
    simp only [isChange_relax, decide_eq_true_eq]
    exact congrArg (· + _) later

/-! ### The whole advertisement -/

/-- What an advertisement does to a table. Every route is settled by the best offer for it and stays
where it is. The best offers for destinations and masks without a route become routes, behind the
others and in the order in which each is first offered. What is counted are the entries that beat
the table and all entries before them. -/
theorem absorb_best_offers (entries : List RipEntry) :
    (∃ added : List Route,
      (hearing.absorb table entries).1.routes =
        table.routes.map (fun route => hearing.settle (best? entries route.key) route) ++ added ∧
      added.map Route.key = newKeys table.keys entries ∧
      ∀ route ∈ added, ∃ metric, best? entries route.key = some metric ∧
        route = hearing.offered route.key metric) ∧
    (hearing.absorb table entries).2.1 = entries.zipIdx.countP fun numbered =>
      IsNews table (entries.take numbered.2) numbered.1 :=
  ⟨hearing.routes_absorb table entries, hearing.changes_absorb table entries⟩

end Offering

/-! ### An advertisement that repeats itself -/

namespace Repeating

/-- The neighbour at 10.0.0.2, at time 9. -/
def hearing : Hearing := ⟨.ofParts 10 0 0 2, "eth0", 9⟩

def mask : Ipv4Address := .ofParts 255 255 0 0

/-- An attached subnet, a route of another neighbour, and one of this neighbour. -/
def table : RouteTable := ⟨[
  .direct ⟨"eth0", .ofParts 10 0 0 1, mask, .zero⟩ 0,
  .learned (.ofParts 10 8 0 0) mask (.ofParts 10 0 0 7) "eth0" 5 1,
  .learned (.ofParts 10 9 0 0) mask (.ofParts 10 0 0 2) "eth0" 3 1], by decide⟩

/-- All of that is offered, and twice a destination that is new: first at 6 hops, then at 4. The
last entry is too far away. -/
def entries : List RipEntry := [
  .inet (.ofParts 10 7 0 0) mask .unspecified 6,
  .inet (.ofParts 10 8 0 0) mask .unspecified 3,
  .inet (.ofParts 10 9 0 0) mask .unspecified 2,
  .inet (.ofParts 10 7 0 0) mask .unspecified 4,
  .inet (.ofParts 10 0 0 0) mask .unspecified 0,
  .inet (.ofParts 10 6 0 0) mask .unspecified 15]

end Repeating

/-- The new destination is added once, at the better cost, but it counts twice. -/
theorem absorb_best_offers_repeating :
    (Repeating.hearing.absorb Repeating.table Repeating.entries).2.1 = 3 ∧
      ∃ added : List Route,
        (Repeating.hearing.absorb Repeating.table Repeating.entries).1.routes =
          [.direct ⟨"eth0", .ofParts 10 0 0 1, Repeating.mask, .zero⟩ 0,
            .learned (.ofParts 10 8 0 0) Repeating.mask (.ofParts 10 0 0 2) "eth0" 4 9,
            .learned (.ofParts 10 9 0 0) Repeating.mask (.ofParts 10 0 0 2) "eth0" 3 9] ++ added ∧
        added.map Route.key = [(.ofParts 10 7 0 0, Repeating.mask)] := by
  obtain ⟨⟨added, routes, keys, -⟩, changes⟩ :=
    Repeating.hearing.absorb_best_offers Repeating.table Repeating.entries
  refine ⟨changes.trans (by decide), added, routes.trans ?_, keys.trans (by decide)⟩
  exact congrArg (· ++ added) (by decide)

end DistanceVector.Hearing

end Ipv4Router
