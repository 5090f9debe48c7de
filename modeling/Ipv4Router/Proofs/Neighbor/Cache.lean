/-
This file describes the operations of the neighbour cache by what they do to the
request for each address. An operation on one address leaves the requests for all
others as they were.
-/

import Ipv4Router.Proofs.Keyed
import Ipv4Router.Neighbor.Resolution

namespace Ipv4Router.Neighbor

/-- The request with one more frame at the end of its queue. -/
def Request.withFrame (request : Request) (frame : Octets) : Request :=
  { request with waiting := request.waiting ++ [frame] }

namespace Cache

/-- A change that leaves the requests for all other addresses as they were. -/
def TouchesOnly (address : Ipv4Address) (before after : Cache) : Prop :=
  ∀ other, address ≠ other → after.request? other = before.request? other

theorem TouchesOnly.refl (address : Ipv4Address) (cache : Cache) :
    TouchesOnly address cache cache := fun _ _ => rfl

theorem TouchesOnly.trans {address : Ipv4Address} {before middle after : Cache}
    (first : TouchesOnly address before middle) (second : TouchesOnly address middle after) :
    TouchesOnly address before after := fun other different =>
  (second other different).trans (first other different)

/-! ### Starting a request -/

theorem startRequest_outstanding (cache : Cache) (address : Ipv4Address) (interface : String)
    (now : Nat) (request : Request) (found : cache.request? address = some request) :
    cache.startRequest address interface now = (cache, false) := by
  rw [startRequest, found]

/-- Starting a request keeps one that is outstanding and makes one without frames otherwise. -/
theorem request?_startRequest_self (cache : Cache) (address : Ipv4Address) (interface : String)
    (now : Nat) :
    (cache.startRequest address interface now).1.request? address =
      some ((cache.request? address).getD ⟨address, interface, now, 1, []⟩) := by
  cases found : cache.request? address with
  | some request => rw [startRequest_outstanding _ _ _ _ _ found, found, Option.getD_some]
  | none =>
    rw [startRequest, found, Option.getD_none]
    exact Keyed.find?_put_self Request.target ⟨address, interface, now, 1, []⟩ _

theorem touches_startRequest (cache : Cache) (address : Ipv4Address) (interface : String)
    (now : Nat) : TouchesOnly address cache (cache.startRequest address interface now).1 := by
  cases found : cache.request? address with
  | some request =>
    rw [startRequest_outstanding _ _ _ _ _ found]
    exact .refl address cache
  | none =>
    rw [startRequest, found]
    exact fun other different =>
      Keyed.find?_put_other Request.target ⟨address, interface, now, 1, []⟩ _ other different

theorem bindings_startRequest (cache : Cache) (address : Ipv4Address) (interface : String)
    (now : Nat) : (cache.startRequest address interface now).1.bindings = cache.bindings := by
  unfold startRequest
  split <;> rfl

/-! ### Queueing a frame -/

theorem enqueue?_refused (cache : Cache) (address : Ipv4Address) (frame : Octets)
    (absent : cache.request? address = none) : cache.enqueue? address frame = none := by
  rw [enqueue?, absent]

/-- A frame for an address that is asked for goes to the end of the queue there. -/
theorem enqueue?_accepted (cache : Cache) (address : Ipv4Address) (frame : Octets)
    (request : Request) (found : cache.request? address = some request) :
    ∃ queued, cache.enqueue? address frame = some queued ∧ queued.bindings = cache.bindings ∧
      queued.request? address = some (request.withFrame frame) ∧
      TouchesOnly address cache queued := by
  have kept : ∀ item : Request, (item.withFrame frame).target = item.target := fun _ => rfl
  have queued : cache.enqueue? address frame = some { cache with
      requests := Keyed.adjust Request.target address (·.withFrame frame) cache.requests
      single := Keyed.unique_adjust _ _ cache.single address _ kept } := by
    rw [enqueue?, found]
    rfl
  refine ⟨_, queued, rfl, ?_, fun other different => ?_⟩
  · unfold request? at found ⊢
    rw [Keyed.find?_adjust_self _ _ _ kept, found, Option.map_some]
  · exact Keyed.find?_adjust_other _ _ _ kept _ _ different

/-! ### Learning -/

theorem request?_learn_self (cache : Cache) (address : Ipv4Address) (mac : MacAddress)
    (now : Nat) : (cache.learn address mac now).1.request? address = none :=
  Keyed.find?_erase_self _ _ _ cache.single

theorem touches_learn (cache : Cache) (address : Ipv4Address) (mac : MacAddress) (now : Nat) :
    TouchesOnly address cache (cache.learn address mac now).1 := fun _ different =>
  Keyed.find?_erase_other _ _ _ _ different

/-! ### Sweeping -/

/-- A sweep treats every request on its own: it is given up, or it stays with its queue. -/
theorem request?_sweep (cache : Cache) (settings : Settings) (now : Nat)
    (address : Ipv4Address) :
    (cache.sweep settings now).1.request? address =
      ((cache.request? address).filter fun request => !request.isAbandoned settings now).map
        fun request => request.swept settings now := by
  unfold request? sweep
  rw [Keyed.find?_map _ _ (Request.target_swept settings now),
    Keyed.find?_filter _ _ _ _ cache.single]

/-- The requests that a sweep gives up for an address are the one that was found under it, if
that is one to give up. -/
theorem filter_abandoned (cache : Cache) (settings : Settings) (now : Nat)
    (address : Ipv4Address) :
    (cache.sweep settings now).2.abandoned.filter (fun request => request.target == address) =
      ((cache.request? address).filter fun request => request.isAbandoned settings now).toList := by
  have unique := Keyed.unique_filter Request.target _ cache.single (·.isAbandoned settings now)
  rw [request?, ← Keyed.find?_filter _ _ _ _ cache.single]
  exact Keyed.filter_key Request.target address _ unique

end Cache

end Ipv4Router.Neighbor
