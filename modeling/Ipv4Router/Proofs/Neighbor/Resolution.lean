/-
This file describes what the resolution of link addresses sends and keeps. A frame
for a known neighbour is sent and nothing else happens; a frame for an unknown one
joins the queue for its address, and the address is asked for if nobody asked yet.
What a station answered releases the queue of its address in order.
-/

import Ipv4Router.Proofs.Neighbor.Cache

namespace Ipv4Router

namespace Effect

theorem transmissions_append (front rest : List Effect) :
    transmissions (front ++ rest) = transmissions front ++ transmissions rest :=
  List.filterMap_append

theorem transmissions_note (notice : Notice) (rest : List Effect) :
    transmissions (.note notice :: rest) = transmissions rest := rfl

theorem transmissions_map_transmit (interface : String) (rewrite : Octets → Octets)
    (frames : List Octets) :
    transmissions (frames.map fun frame => .transmit interface (rewrite frame)) =
      frames.map fun frame => (interface, rewrite frame) := by
  rw [transmissions, List.filterMap_map]
  exact List.filterMap_eq_map ▸ rfl

theorem transmissions_map_note {Item : Type} (notice : Item → Notice) (items : List Item) :
    transmissions (items.map fun item => .note (notice item)) = [] := by
  rw [transmissions, List.filterMap_map]
  exact List.filterMap_eq_nil_iff.mpr fun _ _ => rfl

end Effect

namespace Neighbor

/-! ### Asking -/

theorem transmissions_ask (registry : Registry) (target : Ipv4Address) (interfaceName : String) :
    Effect.transmissions (ask registry target interfaceName) =
      (registry.get? interfaceName).toList.map fun interface =>
        (interfaceName, requestFrame interface target) := by
  unfold ask
  split <;> rename_i found <;> rw [found] <;> rfl

/-! ### Sending -/

theorem send_known (registry : Registry) (cache : Cache) (frame : Octets)
    (nextHop : Ipv4Address) (out : Interface) (now : Nat) (mac : MacAddress)
    (known : cache.lookup? nextHop = some mac) :
    send registry cache frame nextHop out now =
      (cache, [.transmit out.name (readdress frame out.mac mac)]) := by
  rw [send, known]

/-- The queue that a frame for an unknown neighbour joins, the neighbour's own or a new one. -/
def queueFor (cache : Cache) (nextHop : Ipv4Address) (out : Interface) (now : Nat) : Request :=
  (cache.request? nextHop).getD ⟨nextHop, out.name, now, 1, []⟩

/-- A frame for an unknown neighbour joins the queue for it, and nothing else is changed. -/
theorem send_unknown (registry : Registry) (cache : Cache) (frame : Octets)
    (nextHop : Ipv4Address) (out : Interface) (now : Nat)
    (unknown : cache.lookup? nextHop = none) :
    ∃ queued, send registry cache frame nextHop out now =
        (queued, if (cache.request? nextHop).isNone then ask registry nextHop out.name
          else [.note (.heldFrame nextHop)]) ∧
      queued.bindings = cache.bindings ∧
      queued.request? nextHop =
        some ((queueFor cache nextHop out now).withFrame (readdress frame out.mac .zero)) ∧
      Cache.TouchesOnly nextHop cache queued := by
  have requested := Cache.request?_startRequest_self cache nextHop out.name now
  obtain ⟨queued, accepted, bindings, self, touches⟩ :=
    Cache.enqueue?_accepted _ nextHop (readdress frame out.mac .zero) _ requested
  have isNew : (cache.startRequest nextHop out.name now).2 = (cache.request? nextHop).isNone := by
    unfold Cache.startRequest
    split <;> rename_i found <;> rw [found] <;> rfl
  refine ⟨queued, ?_, ?_, self, (Cache.touches_startRequest _ _ _ _).trans touches⟩
  · simp only [send, unknown, accepted, Option.getD_some, isNew]
  · rw [bindings, Cache.bindings_startRequest]

theorem touches_send (registry : Registry) (cache : Cache) (frame : Octets)
    (nextHop : Ipv4Address) (out : Interface) (now : Nat) :
    Cache.TouchesOnly nextHop cache (send registry cache frame nextHop out now).1 := by
  cases found : cache.lookup? nextHop with
  | some mac =>
    rw [send_known _ _ _ _ _ _ _ found]
    exact .refl nextHop cache
  | none =>
    obtain ⟨queued, sends, -, -, touches⟩ :=
      send_unknown registry cache frame nextHop out now found
    rw [sends]
    exact touches

/-! ### The other operations -/

theorem resolve_fst (registry : Registry) (cache : Cache) (target : Ipv4Address)
    (interface : String) (now : Nat) :
    (resolve registry cache target interface now).1 =
      (cache.startRequest target interface now).1 := by
  unfold resolve
  split <;> rename_i started <;> rw [started]

theorem touches_hold (cache : Cache) (target : Ipv4Address) (frame : Octets) :
    Cache.TouchesOnly target cache (hold cache target frame).1 := by
  cases found : cache.request? target with
  | none =>
    simp only [hold, Cache.enqueue?_refused _ _ _ found]
    exact .refl target cache
  | some request =>
    obtain ⟨queued, accepted, -, -, touches⟩ :=
      Cache.enqueue?_accepted cache target frame request found
    simp only [hold, accepted]
    exact touches

theorem learnReply_heard (cache : Cache) (packet : ArpPacket) (interface : Interface) (now : Nat)
    (heard : packet.targetAddress = interface.address) :
    learnReply cache packet interface now =
      ((cache.learn packet.senderAddress packet.senderMac now).1,
        .note (.learnedNeighbor packet.senderAddress packet.senderMac interface.name) ::
          match cache.request? packet.senderAddress with
          | some request => release request packet.senderAddress packet.senderMac interface
          | none => []) := by
  rw [learnReply, if_pos heard]
  rfl

theorem touches_learnReply (cache : Cache) (packet : ArpPacket) (interface : Interface)
    (now : Nat) :
    Cache.TouchesOnly packet.senderAddress cache (learnReply cache packet interface now).1 := by
  by_cases heard : packet.targetAddress = interface.address
  · rw [learnReply_heard _ _ _ _ heard]
    exact Cache.touches_learn _ _ _ _
  · rw [learnReply, if_neg heard]
    exact .refl packet.senderAddress cache

end Neighbor

end Ipv4Router
