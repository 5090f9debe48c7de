/-
This file counts how often the neighbour cache asks for an address. Whatever is called
on the cache, in any order, every request knows how often it was sent since it was
started and when it was sent last; it is sent no oftener than once in an interval, and
not more often than the settings allow. A sweep leaves a request alone, sends it once
more or gives it up; so an address that nobody answers for is asked for exactly as often
as allowed before its frames are dropped.
-/

import Mathlib.Data.List.Chain
import Ipv4Router.Proofs.Neighbor.Cache

namespace Ipv4Router.Neighbor

/-! ### What a sweep does to a request -/

/-- What a sweep repeats for an address. -/
def Sweep.repeatedFor (sweep : Sweep) (address : Ipv4Address) : List (Ipv4Address × String) :=
  sweep.repeated.filter fun asked => asked.1 == address

/-- What a sweep gives up for an address. -/
def Sweep.abandonedFor (sweep : Sweep) (address : Ipv4Address) : List Request :=
  sweep.abandoned.filter fun request => request.target == address

/-- The three things that a sweep may do to a request: what is left of it, what is repeated for
it, and what is given up of it. -/
inductive Treatment (settings : Settings) (now : Nat) (request : Request) :
    Option Request → List (Ipv4Address × String) → List Request → Prop
  | untouched (young : now - request.sentAt < settings.retryInterval) :
    Treatment settings now request (some request) [] []
  | repeated (due : settings.retryInterval ≤ now - request.sentAt)
    (left : request.sent < settings.maxRequests) :
    Treatment settings now request
      (some { request with sentAt := now, sent := request.sent + 1 })
      [(request.target, request.interface)] []
  | abandoned (due : settings.retryInterval ≤ now - request.sentAt)
    (spent : request.sent = settings.maxRequests) :
    Treatment settings now request none [] [request]

section Sweeping

variable (cache : Cache) (settings : Settings) (now : Nat) (address : Ipv4Address)
variable (request : Request)

/-- What a sweep repeats for an address is the request that was found under it, if that is one to
repeat. -/
theorem repeatedFor_sweep :
    (cache.sweep settings now).2.repeatedFor address =
      ((cache.request? address).filter fun request => request.isRepeated settings now).toList.map
        fun request => (request.target, request.interface) := by
  have unique := Keyed.unique_filter Request.target _ cache.single (·.isRepeated settings now)
  rw [Cache.request?, ← Keyed.find?_filter _ _ _ _ cache.single, ← Keyed.filter_key _ _ _ unique,
    Sweep.repeatedFor, Cache.sweep, List.filter_map]
  rfl

/-- A sweep does one of three things to a request that was not sent too often. -/
theorem treatment_of_found (found : cache.request? address = some request)
    (within : request.sent ≤ settings.maxRequests) :
    Treatment settings now request ((cache.sweep settings now).1.request? address)
      ((cache.sweep settings now).2.repeatedFor address)
      ((cache.sweep settings now).2.abandonedFor address) := by
  rw [Cache.request?_sweep, repeatedFor_sweep, Sweep.abandonedFor, Cache.filter_abandoned, found]
  cases due : request.isDue settings now with
  | false =>
    simp only [Option.filter_some, Request.swept, Request.isAbandoned, Request.isRepeated, due,
      Bool.false_and, Bool.not_false, Bool.false_eq_true, if_true, if_false, Option.map_some]
    exact .untouched (Nat.not_le.mp (of_decide_eq_false due))
  | true =>
    cases spent : request.isSpent settings with
    | false =>
      simp only [Option.filter_some, Request.swept, Request.isAbandoned, Request.isRepeated, due,
        spent, Bool.and_false, Bool.true_and, Bool.not_false, Bool.false_eq_true, if_true,
        if_false, Option.map_some]
      exact .repeated (of_decide_eq_true due) (Nat.not_le.mp (of_decide_eq_false spent))
    | true =>
      simp only [Option.filter_some, Request.swept, Request.isAbandoned, Request.isRepeated, due,
        spent, Bool.and_self, Bool.true_and, Bool.not_true, Bool.false_eq_true, if_true, if_false,
        Option.map_none]
      exact .abandoned (of_decide_eq_true due) (Nat.le_antisymm within (of_decide_eq_true spent))

/-- A sweep decides nothing for an address that nobody asks for. -/
theorem sweep_of_absent (absent : cache.request? address = none) :
    (cache.sweep settings now).1.request? address = none ∧
      (cache.sweep settings now).2.repeatedFor address = [] ∧
      (cache.sweep settings now).2.abandonedFor address = [] := by
  rw [Cache.request?_sweep, repeatedFor_sweep, Sweep.abandonedFor, Cache.filter_abandoned, absent]
  exact ⟨rfl, rfl, rfl⟩

/-- A sweep keeps the bindings that are younger than the timeout. -/
theorem mem_bindings_sweep (binding : Binding) :
    binding ∈ (cache.sweep settings now).1.bindings ↔
      binding ∈ cache.bindings ∧ now - binding.learnedAt < settings.bindingTimeout := by
  rw [Cache.sweep, List.mem_filter, Binding.isOld, Bool.not_eq_true', decide_eq_false_iff_not,
    Nat.not_le]

/-- A sweep counts the bindings that it forgets. -/
theorem forgotten_sweep :
    (cache.sweep settings now).2.forgotten + (cache.sweep settings now).1.bindings.length =
      cache.bindings.length := by
  simpa only [Cache.sweep, List.countP_eq_length_filter, Bool.not_eq_true, Bool.decide_eq_false]
    using (List.length_eq_countP_add_countP (l := cache.bindings) (·.isOld settings now)).symm

/-- What a sweep does to a cache in which no request was sent too often. -/
structure Cache.SweptAt : Prop where
  outstanding : ∀ address request, cache.request? address = some request →
    Treatment settings now request ((cache.sweep settings now).1.request? address)
      ((cache.sweep settings now).2.repeatedFor address)
      ((cache.sweep settings now).2.abandonedFor address)
  absent : ∀ address, cache.request? address = none →
    (cache.sweep settings now).1.request? address = none ∧
      (cache.sweep settings now).2.repeatedFor address = [] ∧
      (cache.sweep settings now).2.abandonedFor address = []
  givenUp : ∀ request, request ∈ (cache.sweep settings now).2.abandoned ↔
    request ∈ cache.requests ∧ settings.retryInterval ≤ now - request.sentAt ∧
      request.sent = settings.maxRequests
  remembered : ∀ binding, binding ∈ (cache.sweep settings now).1.bindings ↔
    binding ∈ cache.bindings ∧ now - binding.learnedAt < settings.bindingTimeout
  forgotten : (cache.sweep settings now).2.forgotten +
    (cache.sweep settings now).1.bindings.length = cache.bindings.length

theorem sweptAt_of_within
    (within : ∀ request ∈ cache.requests, request.sent ≤ settings.maxRequests) :
    cache.SweptAt settings now where
  outstanding address request found :=
    treatment_of_found cache settings now address request found
      (within request (Keyed.mem_of_find? _ _ _ _ found).1)
  absent address absent := sweep_of_absent cache settings now address absent
  givenUp request := by
    rw [Cache.sweep, List.mem_filter, Request.isAbandoned, Bool.and_eq_true, Request.isDue,
      Request.isSpent, decide_eq_true_iff, decide_eq_true_iff]
    refine and_congr_right fun member => and_congr_right fun _ => ?_
    exact ⟨Nat.le_antisymm (within request member), Nat.le_of_eq ∘ Eq.symm⟩
  remembered binding := mem_bindings_sweep cache settings now binding
  forgotten := forgotten_sweep cache settings now

end Sweeping

/-! ### Calls -/

/-- A call of one of the cache's operations. -/
inductive Call
  | startRequest (address : Ipv4Address) (interface : String) (now : Nat)
  | enqueue (address : Ipv4Address) (frame : Octets)
  | learn (address : Ipv4Address) (mac : MacAddress) (now : Nat)
  | sweep (now : Nat)

/-- The cache after a call; a frame that is refused leaves it as it was. -/
def Call.perform (settings : Settings) (cache : Cache) : Call → Cache
  | startRequest address interface now => (cache.startRequest address interface now).1
  | enqueue address frame => (cache.enqueue? address frame).getD cache
  | learn address mac now => (cache.learn address mac now).1
  | sweep now => (cache.sweep settings now).1

/-- A call, and the cache that it met. -/
structure Entry where
  before : Cache
  call : Call

namespace Entry

variable (settings : Settings) (address : Ipv4Address) (entry : Entry)

/-- The call started a request for the address. -/
def Starts : Prop :=
  ∃ interface now, entry.call = .startRequest address interface now ∧
    (entry.before.startRequest address interface now).2 = true

/-- When the call decided that the address be asked for: at the start of a request and at each
repetition. -/
def asked : List Nat :=
  match entry.call with
  | .startRequest target interface now =>
    if target = address ∧ (entry.before.startRequest target interface now).2 = true then [now]
    else []
  | .sweep now => ((entry.before.sweep settings now).2.repeatedFor address).map fun _ => now
  | _ => []

end Entry

/-- The calls so far, and the cache now. -/
structure Log where
  entries : List Entry := []
  cache : Cache := .empty

def Log.record (settings : Settings) (log : Log) (call : Call) : Log where
  entries := log.entries ++ [⟨log.cache, call⟩]
  cache := call.perform settings log.cache

/-- The log of calls on a cache that is empty at first. -/
def Log.ofCalls (settings : Settings) (calls : List Call) : Log :=
  calls.foldl (Log.record settings) {}

/-- The calls from the start of a request for an address on, each of which found it outstanding. -/
inductive Life (address : Ipv4Address) : List Entry → Prop
  | start (entry : Entry) (starts : entry.Starts address) : Life address [entry]
  | goOn (life : List Entry) (entry : Entry) (before : Life address life)
    (found : entry.before.request? address ≠ none) : Life address (life ++ [entry])

/-- When an address was asked for in the course of some calls. -/
def askedIn (settings : Settings) (address : Ipv4Address) (entries : List Entry) : List Nat :=
  entries.flatMap (Entry.asked settings address)

/-- What a request knows of its own past: how often it was sent since it was started, and when it
was sent last. It was sent once in an interval at most, and not oftener than allowed. -/
structure Budgeted (settings : Settings) (request : Request) (life : List Entry) : Prop where
  lived : Life request.target life
  counted : (askedIn settings request.target life).length = request.sent
  latest : (askedIn settings request.target life).getLast? = some request.sentAt
  spaced : (askedIn settings request.target life).IsChain fun earlier later =>
    earlier + settings.retryInterval ≤ later
  within : 1 ≤ request.sent ∧ request.sent ≤ settings.maxRequests

/-! ### What a call does to one address -/

/-- What a call does to the request for an address. -/
inductive Course (settings : Settings) (address : Ipv4Address) (entry : Entry) : Prop
  | idle
    (same : (entry.call.perform settings entry.before).request? address =
      entry.before.request? address)
    (silent : entry.asked settings address = [])
  | started (interface : String) (now : Nat)
    (starts : entry.Starts address)
    (fresh : (entry.call.perform settings entry.before).request? address =
      some ⟨address, interface, now, 1, []⟩)
    (asked_eq : entry.asked settings address = [now])
  | queued (request : Request) (frame : Octets)
    (found : entry.before.request? address = some request)
    (longer : (entry.call.perform settings entry.before).request? address =
      some (request.withFrame frame))
    (silent : entry.asked settings address = [])
  | repeated (request : Request) (now : Nat)
    (found : entry.before.request? address = some request)
    (due : settings.retryInterval ≤ now - request.sentAt)
    (left : request.sent < settings.maxRequests)
    (again : (entry.call.perform settings entry.before).request? address =
      some { request with sentAt := now, sent := request.sent + 1 })
    (asked_eq : entry.asked settings address = [now])
  | answered (mac : MacAddress) (now : Nat)
    (call_eq : entry.call = .learn address mac now)
    (ends : (entry.call.perform settings entry.before).request? address = none)
  | abandoned (request : Request) (now : Nat)
    (call_eq : entry.call = .sweep now)
    (found : entry.before.request? address = some request)
    (spent : request.sent = settings.maxRequests)
    (dropped : (entry.before.sweep settings now).2.abandonedFor address = [request])
    (ends : (entry.call.perform settings entry.before).request? address = none)

section Courses

variable (settings : Settings) (cache : Cache) (address : Ipv4Address)

theorem course_startRequest (target : Ipv4Address) (interface : String) (now : Nat) :
    Course settings address ⟨cache, .startRequest target interface now⟩ := by
  by_cases same : target = address
  · subst same
    cases found : cache.request? target with
    | some request =>
      have refused := Cache.startRequest_outstanding cache target interface now request found
      refine .idle (congrArg (fun outcome => outcome.1.request? target) refused) ?_
      exact if_neg fun both => by rw [refused] at both; cases both.2
    | none =>
      have granted : (cache.startRequest target interface now).2 = true := by
        rw [Cache.startRequest, found]
      have fresh := Cache.request?_startRequest_self cache target interface now
      rw [found, Option.getD_none] at fresh
      exact .started interface now ⟨interface, now, rfl, granted⟩ fresh (if_pos ⟨rfl, granted⟩)
  · exact .idle (Cache.touches_startRequest cache target interface now address same)
      (if_neg fun both => same both.1)

theorem course_enqueue (target : Ipv4Address) (frame : Octets) :
    Course settings address ⟨cache, .enqueue target frame⟩ := by
  cases found : cache.request? target with
  | none =>
    refine .idle ?_ rfl
    show ((cache.enqueue? target frame).getD cache).request? address = cache.request? address
    rw [Cache.enqueue?_refused _ _ _ found, Option.getD_none]
  | some request =>
    obtain ⟨queued, accepted, -, self, touches⟩ :=
      Cache.enqueue?_accepted cache target frame request found
    have after : (Call.enqueue target frame).perform settings cache = queued := by
      rw [Call.perform, accepted, Option.getD_some]
    by_cases same : target = address
    · subst same
      exact .queued request frame found (after ▸ self) rfl
    · exact .idle (after ▸ touches address same) rfl

theorem course_learn (target : Ipv4Address) (mac : MacAddress) (now : Nat) :
    Course settings address ⟨cache, .learn target mac now⟩ := by
  by_cases same : target = address
  · subst same
    exact .answered mac now rfl (Cache.request?_learn_self cache target mac now)
  · exact .idle (Cache.touches_learn cache target mac now address same) rfl

theorem course_sweep (now : Nat) (within : ∀ request, cache.request? address = some request →
    request.sent ≤ settings.maxRequests) :
    Course settings address ⟨cache, .sweep now⟩ := by
  have asked_eq : Entry.asked settings address ⟨cache, .sweep now⟩ =
      ((cache.sweep settings now).2.repeatedFor address).map fun _ => now := rfl
  cases found : cache.request? address with
  | none =>
    obtain ⟨absent, silent, -⟩ := sweep_of_absent cache settings now address found
    exact .idle (absent.trans found.symm) (by rw [asked_eq, silent, List.map_nil])
  | some request =>
    have treated :=
      treatment_of_found cache settings now address request found (within request found)
    generalize after : (cache.sweep settings now).1.request? address = left at treated
    generalize (cache.sweep settings now).2.repeatedFor address = again at asked_eq treated
    generalize lost : (cache.sweep settings now).2.abandonedFor address = dropped at treated
    cases treated with
    | untouched young => exact .idle (after.trans found.symm) asked_eq
    | repeated due allowed => exact .repeated request now found due allowed after asked_eq
    | abandoned due spent => exact .abandoned request now rfl found spent lost after

/-- Every call takes one of the courses with every address. -/
theorem course_of_call (call : Call) (within : ∀ request, cache.request? address = some request →
    request.sent ≤ settings.maxRequests) :
    Course settings address ⟨cache, call⟩ := by
  cases call with
  | startRequest target interface now =>
    exact course_startRequest settings cache address target interface now
  | enqueue target frame => exact course_enqueue settings cache address target frame
  | learn target mac now => exact course_learn settings cache address target mac now
  | sweep now => exact course_sweep settings cache address now within

end Courses

/-! ### The life of a request -/

section Lives

variable (settings : Settings) (request : Request) (life : List Entry) (entry : Entry)

theorem askedIn_append :
    askedIn settings request.target (life ++ [entry]) =
      askedIn settings request.target life ++ entry.asked settings request.target := by
  rw [askedIn, List.flatMap_append, List.flatMap_singleton, askedIn]

/-- A request that a call started was sent once. -/
theorem budgeted_start (allowed : 1 ≤ settings.maxRequests) (address : Ipv4Address)
    (interface : String) (now : Nat) (starts : entry.Starts address)
    (asked_eq : entry.asked settings address = [now]) :
    Budgeted settings ⟨address, interface, now, 1, []⟩ [entry] := by
  have all : askedIn settings address [entry] = [now] := by
    rw [askedIn, List.flatMap_singleton, asked_eq]
  refine ⟨.start entry starts, ?_, ?_, ?_, le_refl 1, allowed⟩
  · rw [all, List.length_singleton]
  · rw [all, List.getLast?_singleton]
  · rw [all]
    exact .singleton now

/-- A call that does not ask for the address again, whatever frames it queues, leaves the counts
of the request right. -/
theorem budgeted_silent (budgeted : Budgeted settings request life) (waiting : List Octets)
    (found : entry.before.request? request.target ≠ none)
    (silent : entry.asked settings request.target = []) :
    Budgeted settings { request with waiting } (life ++ [entry]) := by
  have all : askedIn settings request.target (life ++ [entry]) =
      askedIn settings request.target life := by
    rw [askedIn_append, silent, List.append_nil]
  refine ⟨.goOn life entry budgeted.lived found, ?_, ?_, ?_, budgeted.within⟩
  · exact all ▸ budgeted.counted
  · exact all ▸ budgeted.latest
  · exact all ▸ budgeted.spaced

/-- A repetition is one more request, an interval after the one before. -/
theorem budgeted_repeated (interval : 0 < settings.retryInterval) (now : Nat)
    (budgeted : Budgeted settings request life)
    (found : entry.before.request? request.target ≠ none)
    (due : settings.retryInterval ≤ now - request.sentAt)
    (left : request.sent < settings.maxRequests)
    (asked_eq : entry.asked settings request.target = [now]) :
    Budgeted settings { request with sentAt := now, sent := request.sent + 1 }
      (life ++ [entry]) := by
  have all : askedIn settings request.target (life ++ [entry]) =
      askedIn settings request.target life ++ [now] := by
    rw [askedIn_append, asked_eq]
  refine ⟨.goOn life entry budgeted.lived found, ?_, ?_, ?_, Nat.succ_pos _, left⟩
  · rw [all, List.length_append, List.length_singleton, budgeted.counted]
  · rw [all, List.getLast?_append, List.getLast?_singleton, Option.some_or]
  · rw [all, List.isChain_append]
    refine ⟨budgeted.spaced, .singleton now, fun latest isLatest next isNext => ?_⟩
    obtain rfl : request.sentAt = latest :=
      Option.some_inj.mp (budgeted.latest.symm.trans isLatest)
    obtain rfl : now = next := Option.some_inj.mp isNext
    omega

end Lives

/-! ### Runs -/

/-- What holds after every run: what a request knows of its past is what the log says. -/
def Log.Sound (settings : Settings) (log : Log) : Prop :=
  ∀ address request, log.cache.request? address = some request →
    ∃ life, life <:+ log.entries ∧ Budgeted settings request life

theorem sound_log_start (settings : Settings) : Log.Sound settings {} := nofun

theorem sound_log_record (settings : Settings) (interval : 0 < settings.retryInterval)
    (allowed : 1 ≤ settings.maxRequests) (log : Log) (call : Call) (sound : log.Sound settings) :
    (log.record settings call).Sound settings := by
  intro address request after
  have within : ∀ old, log.cache.request? address = some old →
      old.sent ≤ settings.maxRequests := by
    intro old found
    obtain ⟨life, -, budgeted⟩ := sound address old found
    exact budgeted.within.2
  -- a request that is found before the call lives on, its life one call longer
  have lengthen : ∀ old, log.cache.request? address = some old →
      ∃ life, life ++ [⟨log.cache, call⟩] <:+ (log.record settings call).entries ∧
        Budgeted settings old life ∧ log.cache.request? old.target ≠ none := by
    intro old found
    obtain ⟨life, ⟨earlier, split⟩, budgeted⟩ := sound address old found
    refine ⟨life, ⟨earlier, by rw [← List.append_assoc, split]; rfl⟩, budgeted, ?_⟩
    rw [(Keyed.mem_of_find? _ _ _ _ found).2, found]
    exact nofun
  have target_eq : ∀ old, log.cache.request? address = some old → old.target = address :=
    fun old found => (Keyed.mem_of_find? _ _ _ _ found).2
  change (call.perform settings log.cache).request? address = some request at after
  cases course_of_call settings log.cache address call within with
  | idle same silent =>
    have found : log.cache.request? address = some request := same.symm.trans after
    obtain ⟨life, recent, budgeted, outstanding⟩ := lengthen request found
    exact ⟨_, recent, budgeted_silent settings request life _ budgeted request.waiting outstanding
      (by rw [target_eq request found, silent])⟩
  | started interface now starts fresh asked_eq =>
    obtain rfl := Option.some_inj.mp (fresh.symm.trans after)
    exact ⟨_, List.suffix_append _ _,
      budgeted_start settings _ allowed address interface now starts asked_eq⟩
  | queued old frame found longer silent =>
    obtain rfl := Option.some_inj.mp (longer.symm.trans after)
    obtain ⟨life, recent, budgeted, outstanding⟩ := lengthen old found
    exact ⟨_, recent, budgeted_silent settings old life _ budgeted _ outstanding
      (by rw [target_eq old found, silent])⟩
  | repeated old now found due left again asked_eq =>
    obtain rfl := Option.some_inj.mp (again.symm.trans after)
    obtain ⟨life, recent, budgeted, outstanding⟩ := lengthen old found
    exact ⟨_, recent, budgeted_repeated settings old life _ interval now budgeted outstanding due
      left (by rw [target_eq old found, asked_eq])⟩
  | answered _ _ _ ends | abandoned _ _ _ _ _ _ ends => cases ends.symm.trans after

theorem sound_ofCalls (settings : Settings) (interval : 0 < settings.retryInterval)
    (allowed : 1 ≤ settings.maxRequests) (calls : List Call) :
    (Log.ofCalls settings calls).Sound settings :=
  List.foldlRecOn calls _ (sound_log_start settings) fun log sound call _ =>
    sound_log_record settings interval allowed log call sound

theorem Log.Sound.within (settings : Settings) (log : Log) (sound : log.Sound settings) :
    ∀ request ∈ log.cache.requests, request.sent ≤ settings.maxRequests := by
  intro request member
  have found := Keyed.find?_of_mem Request.target _ log.cache.single request member
  obtain ⟨life, -, budgeted⟩ := sound request.target request found
  exact budgeted.within.2

/-- A call that ends a request: an answer, or a sweep by which the address was asked for as often
as allowed. -/
inductive Ends (settings : Settings) (log : Log) (request : Request) : Call → Prop
  | answered (mac : MacAddress) (now : Nat) :
    Ends settings log request (.learn request.target mac now)
  | abandoned (now : Nat) (life : List Entry)
    (dropped : (log.cache.sweep settings now).2.abandonedFor request.target = [request])
    (recent : life <:+ log.entries) (lived : Life request.target life)
    (spent : (askedIn settings request.target life).length = settings.maxRequests) :
    Ends settings log request (.sweep now)

theorem ends_of_call (settings : Settings) (log : Log) (sound : log.Sound settings)
    (request : Request) (found : log.cache.request? request.target = some request) (call : Call)
    (ended : (call.perform settings log.cache).request? request.target = none) :
    Ends settings log request call := by
  obtain ⟨life, recent, budgeted⟩ := sound request.target request found
  have within : ∀ old, log.cache.request? request.target = some old →
      old.sent ≤ settings.maxRequests :=
    fun old isOld => sound.within settings log old (Keyed.mem_of_find? _ _ _ _ isOld).1
  cases course_of_call settings log.cache request.target call within with
  | idle same silent => cases found.symm.trans (same.symm.trans ended)
  | started _ _ _ fresh _ => cases fresh.symm.trans ended
  | queued _ _ _ longer _ => cases longer.symm.trans ended
  | repeated _ _ _ _ _ again _ => cases again.symm.trans ended
  | answered mac now call_eq _ =>
    obtain rfl : call = .learn request.target mac now := call_eq
    exact .answered mac now
  | abandoned old now call_eq isOld spent dropped _ =>
    obtain rfl : call = .sweep now := call_eq
    obtain rfl : request = old := Option.some_inj.mp (found.symm.trans isOld)
    exact .abandoned now life dropped recent budgeted.lived (budgeted.counted.trans spent)

/-- The retry budget. After any calls on an empty cache, at any times, every request stands under
its own address, knows how often and when it was sent since it was started, and was sent once in
an interval at most and not oftener than allowed. A sweep at any time leaves each request alone,
sends it once more, or gives it up with its queue, and forgets the bindings that are as old as the
timeout. What ends a request is an answer, or a sweep after exactly as many requests as allowed. -/
theorem retry_budget (settings : Settings) (interval : 0 < settings.retryInterval)
    (allowed : 1 ≤ settings.maxRequests) (calls : List Call) :
    let log := Log.ofCalls settings calls
    Keyed.Unique Request.target log.cache.requests ∧
      (∀ address request, log.cache.request? address = some request →
        request.target = address ∧
          ∃ life, life <:+ log.entries ∧ Budgeted settings request life) ∧
      (∀ now, log.cache.SweptAt settings now) ∧
      ∀ request, log.cache.request? request.target = some request → ∀ call : Call,
        (call.perform settings log.cache).request? request.target = none →
          Ends settings log request call := by
  have sound := sound_ofCalls settings interval allowed calls
  refine ⟨Cache.single _, fun address request found => ?_, fun now => ?_, ?_⟩
  · exact ⟨(Keyed.mem_of_find? _ _ _ _ found).2, sound address request found⟩
  · exact sweptAt_of_within _ settings now (sound.within settings _)
  · exact ends_of_call settings _ sound

/-! ### An address that nobody answers for -/

namespace Unanswered

def settings : Settings where
  retryInterval := 10
  maxRequests := 2
  bindingTimeout := 50

def address : Ipv4Address := .ofParts 10 0 0 2

/-- A frame waits for the address; the first sweep comes too early to ask again. -/
def calls : List Call :=
  [.startRequest address "eth0" 0, .enqueue address [1, 2, 3], .sweep 9, .sweep 14]

def log : Log := Log.ofCalls settings calls

end Unanswered

/-- The address was asked for twice, and the next sweep that finds the request due drops the
frame. -/
theorem retry_budget_unanswered :
    0 < Unanswered.settings.retryInterval ∧ 1 ≤ Unanswered.settings.maxRequests ∧
      Unanswered.log.cache.requests = [⟨Unanswered.address, "eth0", 14, 2, [[1, 2, 3]]⟩] ∧
      Unanswered.log.cache.SweptAt Unanswered.settings 24 ∧
      Ends Unanswered.settings Unanswered.log ⟨Unanswered.address, "eth0", 14, 2, [[1, 2, 3]]⟩
        (.sweep 24) := by
  obtain ⟨-, -, swept, ends⟩ :=
    retry_budget Unanswered.settings (by decide) (by decide) Unanswered.calls
  exact ⟨by decide, by decide, by decide, swept 24, ends _ (by decide) (.sweep 24) (by decide)⟩

end Ipv4Router.Neighbor
