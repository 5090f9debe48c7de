/-
This file bounds the age of what a router knows of its neighbours while they are swept.
Nothing looks at the age of a binding but the sweep, and nothing else gives a request
up. A binding outlives its timeout by one interval at most, as some sweep comes within
it. For a request, the sweep that will give it up is fixed when it is started: each
sweep on the way uses up one of the repetitions that are left, and nothing in between
changes how often it was sent or when.
-/

import Ipv4Router.Proofs.Neighbor.Retries
import Ipv4Router.Proofs.Router.Egress
import Ipv4Router.Proofs.Router.Vigil

namespace Ipv4Router

/-! ### Deadlines -/

namespace Neighbor

/-- The time of the sweep that gives a request up if no answer comes, when the time of the next
sweep is given. -/
def Request.deadline (request : Request) (settings : Settings) (due : Nat) : Nat :=
  (if request.sentAt + settings.retryInterval ≤ due then due else due + settings.retryInterval) +
    (settings.maxRequests - request.sent) * settings.retryInterval

/-- No request is outstanding for longer: one interval for each time that it may be sent, and one
more. -/
def Settings.longestWait (settings : Settings) : Nat :=
  (settings.maxRequests + 1) * settings.retryInterval

/-- Every request was sent, not oftener than allowed, and not later than a given time. -/
def Cache.Regular (settings : Settings) (now : Nat) (cache : Cache) : Prop :=
  ∀ address request, cache.request? address = some request →
    1 ≤ request.sent ∧ request.sent ≤ settings.maxRequests ∧ request.sentAt ≤ now

section Deadlines

variable (settings : Settings) (now due : Nat) (request : Request)

theorem Request.due_le_deadline : due ≤ request.deadline settings due := by
  unfold deadline
  split <;> omega

/-- The deadline of a request is a sweep for each time that it may be sent and one more away. -/
theorem Request.deadline_le (positive : 1 ≤ request.sent) (allowed : 1 ≤ settings.maxRequests)
    (soon : due ≤ now + settings.retryInterval) :
    request.deadline settings due ≤
      now + settings.longestWait := by
  -- the request was sent once, so at most one less than all are left
  obtain ⟨more, moreIs⟩ := Nat.exists_eq_add_of_le' allowed
  have left : (settings.maxRequests - request.sent) * settings.retryInterval ≤
      more * settings.retryInterval := Nat.mul_le_mul_right _ (by omega)
  have whole : settings.longestWait =
      more * settings.retryInterval + settings.retryInterval + settings.retryInterval := by
    rw [Settings.longestWait, moreIs, Nat.succ_mul, Nat.succ_mul]
  unfold deadline
  split <;> omega

/-- A sweep that does not give a request up leaves its deadline where it was. -/
theorem deadline_of_treatment (kept : Request) (repeated : List (Ipv4Address × String))
    (abandoned : List Request) (past : request.sentAt ≤ now)
    (treatment : Treatment settings now request (some kept) repeated abandoned) :
    kept.deadline settings (now + settings.retryInterval) = request.deadline settings now := by
  cases treatment with
  | untouched young =>
    have early : ¬ request.sentAt + settings.retryInterval ≤ now := by omega
    rw [Request.deadline, if_pos (Nat.add_le_add_right past _), Request.deadline, if_neg early]
  | repeated dueNow left =>
    have late : request.sentAt + settings.retryInterval ≤ now := by omega
    have oneMore : settings.maxRequests - request.sent =
        settings.maxRequests - (request.sent + 1) + 1 := by omega
    rw [Request.deadline, if_pos (Nat.le_refl _), Request.deadline, if_pos late, oneMore,
      Nat.succ_mul, Nat.add_right_comm, Nat.add_assoc]

theorem Cache.Regular.mono (cache : Cache) (later : Nat) (regular : cache.Regular settings now)
    (passes : now ≤ later) : cache.Regular settings later := by
  intro address request found
  obtain ⟨positive, within, past⟩ := regular address request found
  exact ⟨positive, within, Nat.le_trans past passes⟩

theorem regular_sweep (cache : Cache) (bound : Nat) (regular : cache.Regular settings bound)
    (passed : now ≤ bound) : (cache.sweep settings now).1.Regular settings bound := by
  intro address request after
  cases found : cache.request? address with
  | none =>
    rw [(sweep_of_absent cache settings now address found).1] at after
    cases after
  | some old =>
    obtain ⟨positive, within, past⟩ := regular address old found
    have treatment := treatment_of_found cache settings now address old found within
    rw [after] at treatment
    generalize (cache.sweep settings now).2.repeatedFor address = repeated at treatment
    generalize (cache.sweep settings now).2.abandonedFor address = abandoned at treatment
    cases treatment with
    | untouched => exact ⟨positive, within, past⟩
    | repeated _ left => exact ⟨Nat.succ_pos _, left, passed⟩

end Deadlines

end Neighbor

namespace Router

/-! ### Moments without a sweep -/

/-- What a moment without a sweep makes of the request for an address: it may take it away, let
frames join its queue, or start it. -/
inductive RequestTurn (now : Nat) (before : Option Neighbor.Request) :
    Option Neighbor.Request → Prop
  | gone : RequestTurn now before none
  | kept (request : Neighbor.Request) (waiting : List Octets) (found : before = some request) :
    RequestTurn now before (some { request with waiting })
  | started (target : Ipv4Address) (interface : String) (waiting : List Octets)
    (absent : before = none) : RequestTurn now before (some ⟨target, interface, now, 1, waiting⟩)

theorem RequestTurn.same (now : Nat) (before : Option Neighbor.Request) :
    RequestTurn now before before := by
  cases before with
  | none => exact .gone
  | some request => exact .kept request request.waiting rfl

section Receiving

variable (router : Router) (octets : Octets) (interfaceName : String) (now : Nat)

theorem requestTurn_departure (before after : Neighbor.Cache) (nextHop : Ipv4Address)
    (out : Interface) (frameTo : MacAddress → Octets) (sent : List (String × Octets))
    (departure : Neighbor.Departure before after nextHop out now frameTo sent)
    (address : Ipv4Address) :
    RequestTurn now (before.request? address) (after.request? address) := by
  by_cases same : nextHop = address
  · subst same
    cases known : before.lookup? nextHop with
    | some mac =>
      rw [(departure.known mac known).1]
      exact .same now _
    | none =>
      cases asked : before.request? nextHop with
      | some request =>
        rw [(departure.outstanding request known asked).1]
        exact .kept request _ rfl
      | none =>
        rw [(departure.unasked known asked).1]
        exact .started _ _ _ rfl
  · rw [departure.others address same]
    exact .same now _

theorem requestTurn_receive (address : Ipv4Address) :
    RequestTurn now (router.neighbors.request? address)
      ((router.receive octets interfaceName now).1.neighbors.request? address) := by
  cases router.receive_outcome octets interfaceName now with
  | unchanged same =>
    rw [same]
    exact .same now _
  | heard response hears =>
    rw [receive_of_hears _ _ _ _ _ hears]
    exact .same now _
  | learned interface packet learns =>
    rw [receive_of_learns _ _ _ _ _ _ learns]
    by_cases same : packet.senderAddress = address
    · subst same
      rw [Neighbor.learnReply_heard _ _ _ _ learns.heard, Neighbor.Cache.request?_learn_self]
      exact .gone
    · rw [Neighbor.touches_learnReply _ _ _ _ address same]
      exact .same now _
  | forwarded passage forwards =>
    exact requestTurn_departure now _ _ _ _ _ _
      (departure_of_forwards router octets interfaceName now passage forwards) address

/-- A received frame makes no bindings but of its own time. -/
theorem mem_bindings_receive (binding : Neighbor.Binding)
    (member : binding ∈ (router.receive octets interfaceName now).1.neighbors.bindings) :
    binding ∈ router.neighbors.bindings ∨ binding.learnedAt = now := by
  cases router.receive_outcome octets interfaceName now with
  | unchanged same =>
    rw [same] at member
    exact Or.inl member
  | heard response hears =>
    rw [receive_of_hears _ _ _ _ _ hears] at member
    exact Or.inl member
  | learned interface packet learns =>
    rw [receive_of_learns _ _ _ _ _ _ learns, Neighbor.learnReply_heard _ _ _ _ learns.heard]
      at member
    rcases Keyed.mem_put Neighbor.Binding.address _ _ binding member with rfl | old
    · exact Or.inr rfl
    · exact Or.inl old
  | forwarded passage forwards =>
    rw [(departure_of_forwards router octets interfaceName now passage forwards).bindings_eq]
      at member
    exact Or.inl member

end Receiving

section Moments

variable (moment : Moment) (other : moment.event ≠ .sweep)

include other

theorem Moment.requestTurn (address : Ipv4Address) :
    RequestTurn moment.now (moment.before.neighbors.request? address)
      (moment.after.neighbors.request? address) := by
  obtain ⟨before, now, event⟩ := moment
  cases event with
  | prepare =>
    show RequestTurn now _ ((before.prepare now).1.neighbors.request? address)
    rw [prepare_neighbors]
    exact .same now _
  | receive octets interfaceName =>
    exact before.requestTurn_receive octets interfaceName now address
  | advertise => exact .same now _
  | sweep => exact absurd rfl other

theorem Moment.mem_bindings (binding : Neighbor.Binding)
    (member : binding ∈ moment.after.neighbors.bindings) :
    binding ∈ moment.before.neighbors.bindings ∨ binding.learnedAt = moment.now := by
  obtain ⟨before, now, event⟩ := moment
  cases event with
  | prepare =>
    change binding ∈ (before.prepare now).1.neighbors.bindings at member
    rw [prepare_neighbors] at member
    exact Or.inl member
  | receive octets interfaceName =>
    exact before.mem_bindings_receive octets interfaceName now binding member
  | advertise => exact Or.inl member
  | sweep => exact absurd rfl other

end Moments

theorem Moment.neighbors_of_sweep (moment : Moment) (sweeps : moment.event = .sweep) :
    moment.after.neighbors =
      (moment.before.neighbors.sweep moment.before.settings.neighbors moment.now).1 := by
  rw [Moment.after, sweeps]
  rfl

/-- Whatever happens by a time, every request was sent, not too often, and by that time. -/
theorem Moment.regular_after (moment : Moment) (bound : Nat)
    (allowed : 1 ≤ moment.before.settings.neighbors.maxRequests) (passed : moment.now ≤ bound)
    (regular : moment.before.neighbors.Regular moment.before.settings.neighbors bound) :
    moment.after.neighbors.Regular moment.before.settings.neighbors bound := by
  by_cases sweeps : moment.event = .sweep
  · rw [moment.neighbors_of_sweep sweeps]
    exact Neighbor.regular_sweep _ _ _ bound regular passed
  · intro address request after
    have turn := moment.requestTurn sweeps address
    rw [after] at turn
    cases turn with
    | kept old waiting found => exact regular address old found
    | started => exact ⟨Nat.le_refl 1, allowed, passed⟩

/-- A request that is there before and after a moment keeps its deadline, if the moment is not a
sweep. -/
theorem Moment.deadline_of_live (moment : Moment) (other : moment.event ≠ .sweep)
    (settings : Neighbor.Settings) (due : Nat) (address : Ipv4Address)
    (request left : Neighbor.Request)
    (found : moment.before.neighbors.request? address = some request)
    (stays : moment.after.neighbors.request? address = some left) :
    left.deadline settings due = request.deadline settings due := by
  have turn := moment.requestTurn other address
  rw [found, stays] at turn
  cases turn with
  | kept old waiting same =>
    obtain rfl := Option.some_inj.mp same
    rfl
  | started _ _ _ absent => cases absent

/-- At a sweep, the request keeps its deadline while the next sweep moves on by an interval. -/
theorem Moment.deadline_of_sweep (moment : Moment) (sweeps : moment.event = .sweep)
    (regular : moment.before.neighbors.Regular moment.before.settings.neighbors moment.now)
    (address : Ipv4Address) (request left : Neighbor.Request)
    (found : moment.before.neighbors.request? address = some request)
    (stays : moment.after.neighbors.request? address = some left) :
    left.deadline moment.before.settings.neighbors
        (moment.now + moment.before.settings.neighbors.retryInterval) =
      request.deadline moment.before.settings.neighbors moment.now := by
  obtain ⟨-, within, past⟩ := regular address request found
  have treatment := Neighbor.treatment_of_found moment.before.neighbors
    moment.before.settings.neighbors moment.now address request found within
  rw [moment.neighbors_of_sweep sweeps] at stays
  rw [stays] at treatment
  exact Neighbor.deadline_of_treatment _ _ request left _ _ past treatment

/-- The last of some moments is the one that is picked, or it comes after the one that is. -/
theorem split_record (history : List Moment) (last : Moment) (earlier : List Moment)
    (moment : Moment) (later : List Moment)
    (split : history ++ [last] = earlier ++ moment :: later) :
    (later = [] ∧ history = earlier ∧ last = moment) ∨
      ∃ between, later = between ++ [last] ∧ history = earlier ++ moment :: between := by
  induction later using List.reverseRecOn with
  | nil =>
    obtain ⟨same, rest⟩ := List.append_inj' split rfl
    exact Or.inl ⟨rfl, same, List.singleton_inj.mp rest⟩
  | append_singleton between final _ =>
    rw [← List.cons_append, ← List.append_assoc] at split
    obtain ⟨same, rest⟩ := List.append_inj' split rfl
    exact Or.inr ⟨between, by rw [List.singleton_inj.mp rest], same⟩

/-! ### Vigils -/

section Vigils

variable {start router : Router} {began now due : Nat} {history : List Moment}

/-- What a fresh router lives through by a time, its requests were sent by then. -/
theorem Run.regular (fresh : start.Fresh) (run : Run start history router) (bound : Nat)
    (past : ∀ moment ∈ history, moment.now ≤ bound)
    (allowed : 1 ≤ start.settings.neighbors.maxRequests) :
    router.neighbors.Regular router.settings.neighbors bound := by
  induction run with
  | begin =>
    rw [fresh.set_up.2]
    exact nofun
  | record history moment before inductionHypothesis =>
    have regular := inductionHypothesis fun earlier member =>
      past earlier (List.mem_append_left _ member)
    have same := (moment.before.perform_keeps moment.now moment.event).2
    rw [Moment.after, same]
    exact moment.regular_after bound (before.settings_eq ▸ allowed)
      (past moment (List.mem_append_right _ List.mem_cons_self)) regular

theorem Vigil.settings_eq (vigil : Vigil start began history now due router) :
    router.settings = start.settings := vigil.run.settings_eq

theorem Vigil.regular (vigil : Vigil start began history now due router)
    (allowed : 1 ≤ start.settings.neighbors.maxRequests)
    (begins : start.neighbors.Regular start.settings.neighbors began) :
    router.neighbors.Regular start.settings.neighbors now := by
  induction vigil with
  | begin => exact begins
  | wait _ _ _ _ _ _ passes _ inductionHypothesis =>
    exact inductionHypothesis.mono _ _ _ _ passes
  | live history due moment before _ inductionHypothesis =>
    rw [← before.settings_eq] at inductionHypothesis allowed ⊢
    exact moment.regular_after moment.now allowed (Nat.le_refl _) inductionHypothesis
  | sweep history moment before _ inductionHypothesis =>
    rw [← before.settings_eq] at inductionHypothesis allowed ⊢
    exact moment.regular_after moment.now allowed (Nat.le_refl _) inductionHypothesis

/-- A binding is forgotten by the first sweep after its timeout, an interval later at most. -/
theorem Vigil.due_le_of_binding (vigil : Vigil start began history now due router) :
    ∀ binding ∈ router.neighbors.bindings, began ≤ binding.learnedAt →
      due ≤ binding.learnedAt +
        (start.settings.neighbors.bindingTimeout + start.settings.neighbors.retryInterval) := by
  induction vigil with
  | begin => exact fun _ _ late => Nat.le_add_right_of_le late
  | wait _ _ _ _ _ _ _ _ inductionHypothesis => exact inductionHypothesis
  | live history due moment before other inductionHypothesis =>
    intro binding member late
    rcases moment.mem_bindings other binding member with old | fresh
    · exact inductionHypothesis binding old late
    · have soon := before.due_bounds.2
      omega
  | sweep history moment before sweeps inductionHypothesis =>
    intro binding member late
    rw [moment.neighbors_of_sweep sweeps, before.settings_eq] at member
    obtain ⟨-, young⟩ := (Neighbor.mem_bindings_sweep _ _ _ binding).mp member
    omega

/-- One more moment: what is asked for since an earlier one keeps its deadline, and what is asked
for since this one has its deadline within the budget from here on. -/
theorem Vigil.deadline_le_of_record (last : Moment) (dueBefore dueAfter : Nat)
    (allowed : 1 ≤ start.settings.neighbors.maxRequests)
    (begins : start.neighbors.Regular start.settings.neighbors began) (address : Ipv4Address)
    (vigil : Vigil start began (history ++ [last]) last.now dueAfter last.after)
    (keeps : ∀ request left, last.before.neighbors.request? address = some request →
      last.after.neighbors.request? address = some left →
      left.deadline start.settings.neighbors dueAfter =
        request.deadline start.settings.neighbors dueBefore)
    (earlier : List Moment) (moment : Moment)
    (before : ∀ between, history = earlier ++ moment :: between →
      (∀ next ∈ between, next.before.neighbors.request? address ≠ none) →
      ∀ request, last.before.neighbors.request? address = some request →
        request.deadline start.settings.neighbors dueBefore ≤
          moment.now + start.settings.neighbors.longestWait)
    (later : List Moment) (split : history ++ [last] = earlier ++ moment :: later)
    (asked : ∀ next ∈ later, next.before.neighbors.request? address ≠ none)
    (request : Neighbor.Request) (found : last.after.neighbors.request? address = some request) :
    request.deadline start.settings.neighbors dueAfter ≤
      moment.now + start.settings.neighbors.longestWait := by
  rcases split_record history last earlier moment later split with
    ⟨-, -, rfl⟩ | ⟨between, rfl, cut⟩
  · obtain ⟨positive, -, -⟩ := vigil.regular allowed begins address request found
    exact request.deadline_le _ _ _ positive allowed vigil.due_bounds.2
  · obtain ⟨old, isOld⟩ := Option.ne_none_iff_exists'.mp
      (asked last (List.mem_append_right _ List.mem_cons_self))
    rw [keeps old request isOld found]
    exact before between cut (fun next member => asked next (List.mem_append_left _ member)) old
      isOld

/-- The deadline of a request stays within the budget from any moment since which its address is
asked for. -/
theorem Vigil.deadline_le (vigil : Vigil start began history now due router)
    (allowed : 1 ≤ start.settings.neighbors.maxRequests)
    (begins : start.neighbors.Regular start.settings.neighbors began) (earlier : List Moment)
    (moment : Moment) (later : List Moment) (split : history = earlier ++ moment :: later)
    (address : Ipv4Address)
    (asked : ∀ next ∈ later, next.before.neighbors.request? address ≠ none)
    (request : Neighbor.Request) (found : router.neighbors.request? address = some request) :
    request.deadline start.settings.neighbors due ≤
      moment.now + start.settings.neighbors.longestWait := by
  -- the deadline is what waiting, frames and sweeps leave in place, though the next sweep moves on
  induction vigil generalizing later request with
  | begin => exact absurd split (by simp)
  | wait _ _ _ _ _ _ _ _ inductionHypothesis =>
    exact inductionHypothesis later split asked request found
  | live history due last before other inductionHypothesis =>
    exact deadline_le_of_record last due due allowed begins address
      (.live history due last before other)
      (fun request left => last.deadline_of_live other _ due address request left) earlier
      moment inductionHypothesis later split asked request found
  | sweep history last before sweeps inductionHypothesis =>
    have same := congrArg RouterSettings.neighbors before.settings_eq
    have regular := before.regular allowed begins
    have keeps := last.deadline_of_sweep sweeps (same ▸ regular) address
    rw [same] at keeps
    exact deadline_le_of_record last last.now _ allowed begins address
      (.sweep history last before sweeps) keeps earlier moment inductionHypothesis later split
      asked request found

/-- What the router knows of its neighbours is not old: a binding is forgotten within an interval of
its timeout, and a request is answered or given up within an interval for each time that it may be
sent and one more. So what leaves on a binding leaves on a young one, and nothing waits longer. -/
structure Timely (settings : Neighbor.Settings) (began : Nat) (history : List Moment) (now : Nat)
    (router : Router) : Prop where
  bindings : ∀ binding ∈ router.neighbors.bindings, began ≤ binding.learnedAt →
    now ≤ binding.learnedAt + (settings.bindingTimeout + settings.retryInterval)
  requests : ∀ earlier moment later, history = earlier ++ moment :: later → ∀ address,
    (∀ next ∈ later, next.before.neighbors.request? address ≠ none) →
    router.neighbors.request? address ≠ none →
    now ≤ moment.now + (settings.maxRequests + 1) * settings.retryInterval
  sends : ∀ moment ∈ history, ∀ octets interfaceName passage mac,
    moment.event = .receive octets interfaceName →
    moment.before.Forwards octets interfaceName passage →
    moment.before.neighbors.lookup? passage.nextHop = some mac →
    moment.sent = [(passage.out.name, passage.frame passage.out.mac mac)] ∧
      ∃ binding ∈ moment.before.neighbors.bindings,
        binding.address = passage.nextHop ∧ binding.mac = mac ∧
        (began ≤ binding.learnedAt → moment.now ≤
          binding.learnedAt + (settings.bindingTimeout + settings.retryInterval))
  waits : ∀ earlier moment later, history = earlier ++ moment :: later → ∀ address,
    moment.after.neighbors.queue address ≠ [] →
    (∀ next ∈ later, ¬ next.Settles address) →
    now ≤ moment.now + (settings.maxRequests + 1) * settings.retryInterval

theorem Vigil.now_le_of_asked (vigil : Vigil start began history now due router)
    (allowed : 1 ≤ start.settings.neighbors.maxRequests)
    (begins : start.neighbors.Regular start.settings.neighbors began) (earlier : List Moment)
    (moment : Moment) (later : List Moment) (split : history = earlier ++ moment :: later)
    (address : Ipv4Address)
    (asked : ∀ next ∈ later, next.before.neighbors.request? address ≠ none)
    (stillAsked : router.neighbors.request? address ≠ none) :
    now ≤ moment.now + start.settings.neighbors.longestWait := by
  obtain ⟨request, found⟩ := Option.ne_none_iff_exists'.mp stillAsked
  calc now ≤ due := vigil.due_bounds.1
    _ ≤ request.deadline start.settings.neighbors due := request.due_le_deadline _ due
    _ ≤ moment.now + start.settings.neighbors.longestWait :=
      vigil.deadline_le allowed begins earlier moment later split address asked request found

/-- While a queue is neither released nor given up, its address is asked for. -/
theorem Run.asked_of_unsettled (run : Run start history router) (address : Ipv4Address)
    (queued : start.neighbors.queue address ≠ [])
    (unsettled : ∀ moment ∈ history, ¬ moment.Settles address) :
    router.neighbors.request? address ≠ none := by
  intro absent
  have grows := run.queue_prefix address unsettled
  rw [Neighbor.queue_of_absent _ _ absent] at grows
  exact queued (List.prefix_nil.mp grows)

/-- While the neighbours are swept, what the router knows of them is not old. -/
theorem Vigil.timely (vigil : Vigil start began history now due router)
    (allowed : 1 ≤ start.settings.neighbors.maxRequests)
    (begins : start.neighbors.Regular start.settings.neighbors began) :
    Timely start.settings.neighbors began history now router := by
  refine ⟨fun binding member late => ?_, ?_, ?_, ?_⟩
  · exact Nat.le_trans vigil.due_bounds.1 (vigil.due_le_of_binding binding member late)
  · exact vigil.now_le_of_asked allowed begins
  · intro moment member octets interfaceName passage mac event forwards known
    obtain ⟨binding, found, sameMac⟩ := Option.map_eq_some_iff.mp known
    obtain ⟨isKnown, sameAddress⟩ := Keyed.mem_of_find? _ _ _ _ found
    obtain ⟨before, due, lasted⟩ := vigil.at_moment moment member
    have young := lasted.due_le_of_binding binding isKnown
    exact ⟨sent_at_once event forwards mac known, binding, isKnown, sameAddress, sameMac,
      fun late => Nat.le_trans lasted.due_bounds.1 (young late)⟩
  · intro before moment later split address queued unsettled
    obtain ⟨middle, -, fromMoment⟩ := (split ▸ vigil.run).split before (moment :: later)
    obtain ⟨rfl, after⟩ := fromMoment.tail moment later
    -- a queue that is not settled is never empty, so its request is there at all later moments
    refine vigil.now_le_of_asked allowed begins before moment later split address ?_
      (after.asked_of_unsettled address queued unsettled)
    intro next member
    obtain ⟨between, rest, rfl⟩ := List.append_of_mem member
    obtain ⟨middle, toNext, fromNext⟩ := after.split between (next :: rest)
    obtain ⟨rfl, -⟩ := fromNext.tail next rest
    exact toNext.asked_of_unsettled address queued
      fun between member => unsettled between (List.mem_append_left _ member)

end Vigils

/-- The age of what a router knows of its neighbours is bounded while they are swept. Let a router
that was set up live through anything, and then begin to sweep its neighbours at once and after
every interval, while frames come in at any times: at every time, no binding that was learned since
is older than its timeout and one interval, and no address has been asked for, and no frame has
waited, for longer than the requests that are allowed and one interval more. Just this happens on a
clock that is started, while frames come in and time passes in any order. -/
theorem neighbors_timely {origin start : Router} {past : List Moment} {began : Nat}
    (fresh : origin.Fresh) (run : Run origin past start)
    (earlier : ∀ moment ∈ past, moment.now ≤ began)
    (allowed : 1 ≤ start.settings.neighbors.maxRequests) :
    (∀ history now due router, Vigil start began history now due router →
      Timely start.settings.neighbors began history now router) ∧
    (0 < start.settings.neighbors.retryInterval → ∀ commands : List Timeline.Command,
      (∀ command ∈ commands, command ≠ .start ∧ command ≠ .shutdown) →
      let last := (Timeline.start ⟨start, began, []⟩).1.obeyAll commands
      ∃ history due, Vigil start began history last.now due last.router ∧
        history.filterMap Moment.reception? = Timeline.heardBy began commands ∧
        Timely start.settings.neighbors began history last.now last.router) := by
  have begins : start.neighbors.Regular start.settings.neighbors began :=
    run.regular fresh began earlier (run.settings_eq ▸ allowed)
  refine ⟨fun history now due router vigil => vigil.timely allowed begins,
    fun positive commands steady => ?_⟩
  have watches := (Timeline.watches_start start began positive).obeyAll positive commands steady
  obtain ⟨due, ⟨history, vigil, heard⟩, -, -⟩ := watches
  exact ⟨history, due, vigil, heard, vigil.timely allowed begins⟩

/-! ### A request that nobody answers -/

namespace Watched

/-- An address is asked for twice, and the neighbours are swept every ten milliseconds. -/
def origin : Router where
  registry := Stations.registry
  settings := { neighbors := ⟨10, 2, 50⟩ }

def prepared : Moment := ⟨origin, 0, .prepare⟩

def first : Moment := ⟨prepared.after, 0, .sweep⟩

/-- A datagram comes in for a station whose link address is not known, just after a sweep. -/
def arrival : Moment := ⟨first.after, 1, .receive Transit.frame "eth0"⟩

/-- The request is too young to be repeated. -/
def second : Moment := ⟨arrival.after, 10, .sweep⟩

def third : Moment := ⟨second.after, 20, .sweep⟩

theorem run : Run origin [prepared] prepared.after := .record [] prepared .begin

theorem vigil : Vigil prepared.after 0 [first, arrival, second, third] 30 30 third.after := by
  have toFirst : Vigil prepared.after 0 [first] 0 10 first.after := .sweep [] first .begin rfl
  have toArrival : Vigil prepared.after 0 [first, arrival] 1 10 arrival.after :=
    .live [first] 10 arrival (.wait _ 0 1 10 _ toFirst (by decide) (by decide)) nofun
  have toSecond : Vigil prepared.after 0 [first, arrival, second] 10 20 second.after :=
    .sweep [first, arrival] second (.wait _ 1 10 10 _ toArrival (by decide) (by decide)) rfl
  have toThird : Vigil prepared.after 0 [first, arrival, second, third] 20 30 third.after :=
    .sweep [first, arrival, second] third (.wait _ 10 20 20 _ toSecond (by decide) (by decide)) rfl
  exact .wait _ 20 30 30 _ toThird (by decide) (by decide)

/-- So it is on a clock, too. -/
def commands : List Timeline.Command :=
  [.advance 1, .receive Transit.frame "eth0", .advance 29]

end Watched

/-- The request was repeated once, and has one millisecond left of the time that is allowed. -/
theorem neighbors_timely_watched :
    Watched.origin.Fresh ∧ Run Watched.origin [Watched.prepared] Watched.prepared.after ∧
      (∀ moment ∈ [Watched.prepared], moment.now ≤ 0) ∧
      1 ≤ Watched.prepared.after.settings.neighbors.maxRequests ∧
      Vigil Watched.prepared.after 0
        [Watched.first, Watched.arrival, Watched.second, Watched.third] 30 30
        Watched.third.after ∧
      ((Watched.third.after.neighbors.request? (.ofParts 10 0 1 7)).map fun request =>
        (request.sent, request.sentAt)) = some (2, 20) ∧
      Timely Watched.prepared.after.settings.neighbors 0
        [Watched.first, Watched.arrival, Watched.second, Watched.third] 30
        Watched.third.after ∧
      0 < Watched.prepared.after.settings.neighbors.retryInterval ∧
      (∀ command ∈ Watched.commands, command ≠ .start ∧ command ≠ .shutdown) ∧
      let last := (Timeline.start ⟨Watched.prepared.after, 0, []⟩).1.obeyAll Watched.commands
      ∃ history due, Vigil Watched.prepared.after 0 history last.now due last.router ∧
        history.filterMap Moment.reception? = [⟨1, Transit.frame, "eth0"⟩] ∧
        Timely Watched.prepared.after.settings.neighbors 0 history last.now last.router := by
  have fresh : Watched.origin.Fresh := .bare _ _
  have earlier : ∀ moment ∈ [Watched.prepared], moment.now ≤ 0 := by
    intro moment member
    rw [List.mem_singleton.mp member]
    exact Nat.le_refl 0
  have allowed : 1 ≤ Watched.prepared.after.settings.neighbors.maxRequests := by decide +kernel
  have positive : 0 < Watched.prepared.after.settings.neighbors.retryInterval := by decide +kernel
  have steady : ∀ command ∈ Watched.commands, command ≠ .start ∧ command ≠ .shutdown := by decide
  obtain ⟨anyVigil, onClock⟩ := neighbors_timely fresh Watched.run earlier allowed
  exact ⟨fresh, Watched.run, earlier, allowed, Watched.vigil, by decide +kernel,
    anyVigil _ _ _ _ Watched.vigil, positive, steady, onClock positive Watched.commands steady⟩

end Router

end Ipv4Router
