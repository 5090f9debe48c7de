/-
This file describes the resolution of link addresses as a sequence of operations on
one cache. Whatever runs at the same time, the cache is locked for one operation at a
time, and what an operation sends is settled under the lock: so every interleaving is
a list of operations. Seen from the queue of one address, a moment in such a run is
one of three turns: the queue grows by what was accepted, it is released by a binding,
or it is dropped by a sweep.
-/

import Ipv4Router.Proofs.Neighbor.Resolution

namespace Ipv4Router.Neighbor

/-! ### Runs -/

/-- What is done to the cache while it is locked. -/
inductive Operation
  | send (frame : Octets) (nextHop : Ipv4Address) (out : Interface) (now : Nat)
  | resolve (target : Ipv4Address) (interface : String) (now : Nat)
  | hold (target : Ipv4Address) (frame : Octets)
  | learn (packet : ArpPacket) (interface : Interface) (now : Nat)
  | sweep (now : Nat)

namespace Operation

/-- A frame that the operation is given has a whole link header. -/
def Whole : Operation → Prop
  | send frame _ _ _ => LinkHeader.size ≤ frame.length
  | hold _ frame => LinkHeader.size ≤ frame.length
  | _ => True

/-- The one address that the operation is about; none for a sweep. -/
def subject? : Operation → Option Ipv4Address
  | send _ nextHop _ _ => some nextHop
  | resolve target _ _ => some target
  | hold target _ => some target
  | learn packet _ _ => some packet.senderAddress
  | sweep _ => none

/-- The cache after the operation, and its effects. -/
def perform (registry : Registry) (settings : Settings) (cache : Cache) :
    Operation → Cache × List Effect
  | send frame nextHop out now => Neighbor.send registry cache frame nextHop out now
  | resolve target interface now => Neighbor.resolve registry cache target interface now
  | hold target frame =>
    ((Neighbor.hold cache target frame).1, (Neighbor.hold cache target frame).2.2)
  | learn packet interface now => learnReply cache packet interface now
  | sweep now => Neighbor.sweep registry settings cache now

end Operation

/-- One operation of a run, with the cache that it met and what came of it. -/
structure Moment where
  before : Cache
  operation : Operation
  after : Cache
  effects : List Effect

/-- What happened so far, and the cache now. -/
structure Journal where
  history : List Moment := []
  cache : Cache := .empty

section Runs

variable (registry : Registry) (settings : Settings)

def Cache.moment (cache : Cache) (operation : Operation) : Moment where
  before := cache
  operation
  after := (operation.perform registry settings cache).1
  effects := (operation.perform registry settings cache).2

def Journal.record (journal : Journal) (operation : Operation) : Journal where
  history := journal.history ++ [journal.cache.moment registry settings operation]
  cache := (journal.cache.moment registry settings operation).after

/-- The journal of operations on a cache that is empty at first. -/
def Journal.ofOperations (operations : List Operation) : Journal :=
  operations.foldl (Journal.record registry settings) {}

end Runs

/-! ### The queue of one address -/

/-- The frames that wait for an address, in order. -/
def Cache.queue (cache : Cache) (address : Ipv4Address) : List Octets :=
  ((cache.request? address).map Request.waiting).getD []

namespace Moment

/-- The frames that the operation put into the queue of an address, as they wait there. A frame
to send is put there while no binding is known, a frame to hold if that is granted. -/
def accepted (moment : Moment) (address : Ipv4Address) : List Octets :=
  match moment.operation with
  | .send frame nextHop out _ =>
    if nextHop = address ∧ moment.before.lookup? nextHop = none then
      [readdress frame out.mac .zero]
    else []
  | .hold target frame =>
    if target = address ∧ (Neighbor.hold moment.before target frame).2.1 = true then [frame]
    else []
  | _ => []

/-- The link address that the operation bound to an address, and the interface that heard it. -/
def binding? (moment : Moment) (address : Ipv4Address) : Option (MacAddress × Interface) :=
  match moment.operation with
  | .learn packet interface _ =>
    if packet.targetAddress = interface.address ∧ packet.senderAddress = address then
      some (packet.senderMac, interface)
    else none
  | _ => none

/-- The requests for an address that the operation gave up. -/
def abandoned (settings : Settings) (moment : Moment) (address : Ipv4Address) : List Request :=
  match moment.operation with
  | .sweep now =>
    (moment.before.sweep settings now).2.abandoned.filter fun request => request.target == address
  | _ => []

/-- What a moment is to the queue of one address. -/
inductive Turn (settings : Settings) (moment : Moment) (address : Ipv4Address) : Prop
  | grows
    (unbound : moment.binding? address = none)
    (kept : moment.abandoned settings address = [])
    (queue_eq : moment.after.queue address =
      moment.before.queue address ++ moment.accepted address)
  | released (mac : MacAddress) (interface : Interface)
    (bound : moment.binding? address = some (mac, interface))
    (kept : moment.abandoned settings address = [])
    (refused : moment.accepted address = [])
    (emptied : moment.after.queue address = [])
    (sent : Effect.transmissions moment.effects = (moment.before.queue address).map fun frame =>
      (interface.name, readdress frame interface.mac mac))
  | dropped
    (unbound : moment.binding? address = none)
    (refused : moment.accepted address = [])
    (emptied : moment.after.queue address = [])
    (lost : (moment.abandoned settings address).flatMap Request.waiting =
      moment.before.queue address)

end Moment

section Turns

variable (registry : Registry) (settings : Settings) (cache : Cache)

theorem queue_of_request? (address : Ipv4Address) (request : Request)
    (found : cache.request? address = some request) : cache.queue address = request.waiting := by
  rw [Cache.queue, found, Option.map_some, Option.getD_some]

theorem queue_of_absent (address : Ipv4Address) (absent : cache.request? address = none) :
    cache.queue address = [] := by
  rw [Cache.queue, absent, Option.map_none, Option.getD_none]

theorem queue_congr (after : Cache) (address : Ipv4Address)
    (same : after.request? address = cache.request? address) :
    after.queue address = cache.queue address := by
  rw [Cache.queue, same, Cache.queue]

theorem waiting_queueFor (nextHop : Ipv4Address) (out : Interface) (now : Nat) :
    (queueFor cache nextHop out now).waiting = cache.queue nextHop := by
  unfold queueFor Cache.queue
  cases cache.request? nextHop <;> rfl

theorem turn_send (frame : Octets) (nextHop : Ipv4Address) (out : Interface) (now : Nat)
    (address : Ipv4Address) :
    (cache.moment registry settings (.send frame nextHop out now)).Turn settings address := by
  refine .grows rfl rfl ?_
  show (Neighbor.send registry cache frame nextHop out now).1.queue address =
    cache.queue address ++ if nextHop = address ∧ cache.lookup? nextHop = none then _ else []
  cases found : cache.lookup? nextHop with
  | some mac =>
    rw [send_known _ _ _ _ _ _ _ found, if_neg (fun both => by cases both.2), List.append_nil]
  | none =>
    obtain ⟨queued, sends, -, self, touches⟩ :=
      send_unknown registry cache frame nextHop out now found
    have after : (Neighbor.send registry cache frame nextHop out now).1 = queued :=
      congrArg Prod.fst sends
    rw [after]
    by_cases same : nextHop = address
    · subst same
      rw [if_pos ⟨rfl, rfl⟩, queue_of_request? _ _ _ self, ← waiting_queueFor cache nextHop out now]
      rfl
    · rw [if_neg fun both => same both.1, List.append_nil]
      exact queue_congr _ _ _ (touches address same)

theorem turn_resolve (target : Ipv4Address) (interface : String) (now : Nat)
    (address : Ipv4Address) :
    (cache.moment registry settings (.resolve target interface now)).Turn settings address := by
  refine .grows rfl rfl ?_
  show (resolve registry cache target interface now).1.queue address = cache.queue address ++ []
  rw [resolve_fst, List.append_nil]
  by_cases same : target = address
  · subst same
    rw [queue_of_request? _ _ _ (Cache.request?_startRequest_self _ _ _ _), Cache.queue]
    cases cache.request? target <;> rfl
  · exact queue_congr _ _ _ (Cache.touches_startRequest _ _ _ _ address same)

theorem turn_hold (target : Ipv4Address) (frame : Octets) (address : Ipv4Address) :
    (cache.moment registry settings (.hold target frame)).Turn settings address := by
  refine .grows rfl rfl ?_
  show (hold cache target frame).1.queue address = cache.queue address ++
    if target = address ∧ (hold cache target frame).2.1 = true then [frame] else []
  cases found : cache.request? target with
  | none =>
    simp only [hold, Cache.enqueue?_refused _ _ _ found, Bool.false_eq_true, and_false, if_false,
      List.append_nil]
  | some request =>
    obtain ⟨queued, accepted, -, self, touches⟩ :=
      Cache.enqueue?_accepted cache target frame request found
    simp only [hold, accepted, and_true]
    by_cases same : target = address
    · subst same
      rw [if_pos rfl, queue_of_request? _ _ _ self, queue_of_request? _ _ _ found,
        Request.withFrame]
    · rw [if_neg same, List.append_nil]
      exact queue_congr _ _ _ (touches address same)

theorem turn_learn (packet : ArpPacket) (interface : Interface) (now : Nat)
    (address : Ipv4Address) :
    (cache.moment registry settings (.learn packet interface now)).Turn settings address := by
  have bindingIs : (cache.moment registry settings (.learn packet interface now)).binding? address =
      if packet.targetAddress = interface.address ∧ packet.senderAddress = address then
        some (packet.senderMac, interface) else none := rfl
  have afterIs : (cache.moment registry settings (.learn packet interface now)).after =
      (learnReply cache packet interface now).1 := rfl
  have effectsAre : (cache.moment registry settings (.learn packet interface now)).effects =
      (learnReply cache packet interface now).2 := rfl
  by_cases heard : packet.targetAddress = interface.address
  · rw [learnReply_heard _ _ _ _ heard] at afterIs effectsAre
    by_cases same : packet.senderAddress = address
    · subst same
      refine .released packet.senderMac interface (by rw [bindingIs, if_pos ⟨heard, rfl⟩]) rfl rfl
        ?_ ?_
      · rw [afterIs]
        exact queue_of_absent _ _ (Cache.request?_learn_self _ _ _ _)
      · show _ = (cache.queue packet.senderAddress).map _
        rw [effectsAre, Effect.transmissions_note]
        cases found : cache.request? packet.senderAddress with
        | none => rw [queue_of_absent _ _ found]; rfl
        | some request =>
          rw [queue_of_request? _ _ _ found]
          exact Effect.transmissions_map_transmit _ _ _
    · refine .grows (by rw [bindingIs, if_neg fun both => same both.2]) rfl ?_
      rw [afterIs]
      exact (queue_congr _ _ _ (Cache.touches_learn _ _ _ _ address same)).trans
        (List.append_nil _).symm
  · refine .grows (by rw [bindingIs, if_neg fun both => heard both.1]) rfl ?_
    rw [afterIs, learnReply, if_neg heard]
    exact (List.append_nil _).symm

theorem turn_sweep (now : Nat) (address : Ipv4Address) :
    (cache.moment registry settings (.sweep now)).Turn settings address := by
  have after := Cache.request?_sweep cache settings now address
  have givenUp := Cache.filter_abandoned cache settings now address
  cases found : cache.request? address with
  | none =>
    rw [found] at after givenUp
    refine .grows rfl givenUp ?_
    show (cache.sweep settings now).1.queue address = cache.queue address ++ []
    rw [queue_of_absent _ _ found]
    exact queue_of_absent _ _ after
  | some request =>
    rw [found] at after givenUp
    cases spent : request.isAbandoned settings now with
    | true =>
      simp only [Option.filter_some, spent, if_true, Bool.not_true, Bool.false_eq_true, if_false,
        Option.map_none] at givenUp after
      refine .dropped rfl rfl (queue_of_absent _ _ after) ?_
      show List.flatMap Request.waiting (List.filter _ (cache.sweep settings now).2.abandoned) =
        cache.queue address
      rw [givenUp, queue_of_request? _ _ _ found]
      exact List.append_nil _
    | false =>
      simp only [Option.filter_some, spent, Bool.not_false, if_true, Bool.false_eq_true, if_false,
        Option.map_some] at givenUp after
      refine .grows rfl givenUp ?_
      show (cache.sweep settings now).1.queue address = cache.queue address ++ []
      rw [queue_of_request? _ _ _ after, queue_of_request? _ _ _ found, List.append_nil]
      unfold Request.swept
      split <;> rfl

/-- Every operation is one of the three turns to the queue of every address. -/
theorem turn_moment (operation : Operation) (address : Ipv4Address) :
    (cache.moment registry settings operation).Turn settings address := by
  cases operation with
  | send frame nextHop out now => exact turn_send registry settings cache frame nextHop out now _
  | resolve target interface now =>
    exact turn_resolve registry settings cache target interface now _
  | hold target frame => exact turn_hold registry settings cache target frame _
  | learn packet interface now =>
    exact turn_learn registry settings cache packet interface now _
  | sweep now => exact turn_sweep registry settings cache now _

theorem touches_moment (operation : Operation) (subject : Ipv4Address)
    (about : operation.subject? = some subject) :
    Cache.TouchesOnly subject cache (cache.moment registry settings operation).after := by
  cases operation with
  | send frame nextHop out now =>
    obtain rfl := Option.some_inj.mp about
    exact touches_send registry cache frame nextHop out now
  | resolve target interface now =>
    obtain rfl := Option.some_inj.mp about
    show Cache.TouchesOnly target cache (resolve registry cache target interface now).1
    rw [resolve_fst]
    exact Cache.touches_startRequest cache target interface now
  | hold target frame =>
    obtain rfl := Option.some_inj.mp about
    exact touches_hold cache target frame
  | learn packet interface now =>
    obtain rfl := Option.some_inj.mp about
    exact touches_learnReply cache packet interface now
  | sweep now => cases about

end Turns

end Ipv4Router.Neighbor
