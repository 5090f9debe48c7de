/-
This file proves what an operation on the neighbour cache leaves alone. It changes the
request of its subject and no other; a frame that it refuses is kept nowhere; a sweep
spares every queue that it does not give up. And as long as nothing is learned, only
broadcast requests are sent, and the frame whose neighbour is known.
-/

import Ipv4Router.Proofs.Neighbor.Operation
import Ipv4Router.Proofs.Wire.Fields

namespace Ipv4Router.Neighbor

section Confinement

variable (registry : Registry) (settings : Settings)

/-- What an operation does apart from its turn to one queue. A frame that it accepts is the one
that it was given, except for the link addresses, and a frame to hold is accepted exactly when its
address was asked for. -/
structure Moment.Confined (moment : Moment) : Prop where
  entered : ∀ frame nextHop out now, moment.operation = .send frame nextHop out now →
    ∀ address, ∀ held ∈ moment.accepted address, held.drop 12 = frame.drop 12
  granted : ∀ target frame, moment.operation = .hold target frame →
    (hold moment.before target frame).2.1 = (moment.before.request? target).isSome
  refused : ∀ target frame, moment.operation = .hold target frame →
    (hold moment.before target frame).2.1 = false → moment.after = moment.before
  others : ∀ subject, moment.operation.subject? = some subject → ∀ other, subject ≠ other →
    moment.after.request? other = moment.before.request? other
  spared : ∀ now, moment.operation = .sweep now → ∀ address,
    moment.abandoned settings address = [] →
      moment.after.queue address = moment.before.queue address
  once : ∀ address, (moment.abandoned settings address).length ≤ 1
  known : ∀ address mac interface, moment.binding? address = some (mac, interface) →
    moment.after.lookup? address = some mac
  silent : (∀ address, moment.binding? address = none) →
    (∃ frame nextHop out now mac, moment.operation = .send frame nextHop out now ∧
      moment.before.lookup? nextHop = some mac ∧
      Effect.transmissions moment.effects = [(out.name, readdress frame out.mac mac)]) ∨
    ∀ sent ∈ Effect.transmissions moment.effects, ∃ interface target,
      registry.get? sent.1 = some interface ∧ sent.2 = requestFrame interface target

/-! ### Frames sent -/

theorem drop_readdress (frame : Octets) (source destination : MacAddress) :
    (readdress frame source destination).drop 12 = frame.drop 12 := by
  unfold readdress readdress?
  split
  · rfl
  · rw [Option.getD_some]
    refine List.drop_left' ?_
    rw [List.length_append, MacAddress.length_octets, MacAddress.length_octets]

theorem mem_ask (target : Ipv4Address) (interfaceName : String) (sent : String × Octets)
    (member : sent ∈ Effect.transmissions (ask registry target interfaceName)) :
    ∃ interface target, registry.get? sent.1 = some interface ∧
      sent.2 = requestFrame interface target := by
  rw [transmissions_ask] at member
  obtain ⟨interface, found, rfl⟩ := List.mem_map.mp member
  exact ⟨interface, target, Option.mem_toList.mp found, rfl⟩

theorem mem_sweep (decided : Sweep) (sent : String × Octets)
    (member : sent ∈ Effect.transmissions (decided.effects registry)) :
    ∃ interface target, registry.get? sent.1 = some interface ∧
      sent.2 = requestFrame interface target := by
  have forgotten : Effect.transmissions (if decided.forgotten = 0 then []
      else [.note (.forgotBindings decided.forgotten)]) = [] := by
    split <;> rfl
  rw [Sweep.effects, Effect.transmissions_append, Effect.transmissions_append, forgotten,
    Effect.transmissions_map_note, List.nil_append, List.append_nil] at member
  obtain ⟨effect, effectMember, transmitted⟩ := List.mem_filterMap.mp member
  obtain ⟨⟨target, interfaceName⟩, -, asked⟩ := List.mem_flatMap.mp effectMember
  exact mem_ask registry target interfaceName sent
    (List.mem_filterMap.mpr ⟨effect, asked, transmitted⟩)

/-! ### The operations -/

variable (cache : Cache)

theorem others_moment (operation : Operation) (subject : Ipv4Address)
    (about : operation.subject? = some subject) (other : Ipv4Address)
    (different : subject ≠ other) :
    (cache.moment registry settings operation).after.request? other = cache.request? other :=
  touches_moment registry settings cache operation subject about other different

theorem confined_send (frame : Octets) (nextHop : Ipv4Address) (out : Interface) (now : Nat) :
    (cache.moment registry settings (.send frame nextHop out now)).Confined registry settings := by
  refine ⟨?_, nofun, nofun, others_moment registry settings cache _, nofun,
    fun _ => Nat.zero_le 1, nofun, ?_⟩
  · rintro given hop via time ⟨⟩ address held member
    change held ∈ (if _ then _ else _) at member
    split at member
    · rw [List.mem_singleton.mp member, drop_readdress]
    · cases member
  · intro _
    cases found : cache.lookup? nextHop with
    | some mac =>
      refine Or.inl ⟨frame, nextHop, out, now, mac, rfl, found, ?_⟩
      show Effect.transmissions (send registry cache frame nextHop out now).2 = _
      rw [send_known _ _ _ _ _ _ _ found]
      rfl
    | none =>
      obtain ⟨queued, sends, -⟩ := send_unknown registry cache frame nextHop out now found
      refine Or.inr fun sent member => ?_
      change sent ∈ Effect.transmissions (send registry cache frame nextHop out now).2 at member
      rw [sends] at member
      split at member
      · exact mem_ask registry nextHop out.name sent member
      · cases member

theorem confined_resolve (target : Ipv4Address) (interface : String) (now : Nat) :
    (cache.moment registry settings (.resolve target interface now)).Confined registry
      settings := by
  refine ⟨nofun, nofun, nofun, others_moment registry settings cache _, nofun,
    fun _ => Nat.zero_le 1, nofun, fun _ => Or.inr fun sent member => ?_⟩
  change sent ∈ Effect.transmissions (resolve registry cache target interface now).2 at member
  unfold resolve at member
  split at member
  · exact mem_ask registry target interface sent member
  · cases member

theorem granted_hold (target : Ipv4Address) (frame : Octets) :
    (hold cache target frame).2.1 = (cache.request? target).isSome := by
  cases found : cache.request? target with
  | none => simp only [hold, Cache.enqueue?_refused _ _ _ found, Option.isSome_none]
  | some request =>
    obtain ⟨queued, accepted, -⟩ := Cache.enqueue?_accepted cache target frame request found
    simp only [hold, accepted, Option.isSome_some]

theorem confined_hold (target : Ipv4Address) (frame : Octets) :
    (cache.moment registry settings (.hold target frame)).Confined registry settings := by
  have quiet : Effect.transmissions (hold cache target frame).2.2 = [] := by
    unfold hold
    split <;> rfl
  refine ⟨nofun, ?_, ?_, others_moment registry settings cache _, nofun, fun _ => Nat.zero_le 1,
    nofun, fun _ => Or.inr fun sent member => ?_⟩
  · rintro given held ⟨⟩
    exact granted_hold cache target frame
  · rintro given held ⟨⟩ refused
    change (hold cache target frame).2.1 = false at refused
    show (hold cache target frame).1 = cache
    unfold hold at refused ⊢
    split at refused
    · cases refused
    · rfl
  · change sent ∈ Effect.transmissions (hold cache target frame).2.2 at member
    rw [quiet] at member
    cases member

theorem confined_learn (packet : ArpPacket) (interface : Interface) (now : Nat) :
    (cache.moment registry settings (.learn packet interface now)).Confined registry
      settings := by
  refine ⟨nofun, nofun, nofun, others_moment registry settings cache _, nofun,
    fun _ => Nat.zero_le 1, ?_, fun unbound => Or.inr ?_⟩
  · intro address mac via bound
    change (if _ then _ else _) = _ at bound
    split at bound
    · rename_i heard
      obtain ⟨targeted, rfl⟩ := heard
      cases bound
      show (learnReply cache packet interface now).1.lookup? packet.senderAddress = _
      rw [learnReply_heard _ _ _ _ targeted]
      exact congrArg _ (Keyed.find?_put_self Binding.address ⟨_, _, now⟩ cache.bindings)
    · cases bound
  · have unheard : packet.targetAddress ≠ interface.address := by
      intro heard
      have none : (if packet.targetAddress = interface.address ∧
          packet.senderAddress = packet.senderAddress then
            some (packet.senderMac, interface) else none) = none := unbound packet.senderAddress
      rw [if_pos ⟨heard, rfl⟩] at none
      cases none
    intro sent member
    change sent ∈ Effect.transmissions (learnReply cache packet interface now).2 at member
    rw [learnReply, if_neg unheard] at member
    cases member

theorem confined_sweep (now : Nat) :
    (cache.moment registry settings (.sweep now)).Confined registry settings := by
  refine ⟨nofun, nofun, nofun, nofun, ?_, ?_, nofun, fun _ => Or.inr (mem_sweep registry _)⟩
  · rintro time ⟨⟩ address kept
    rcases turn_sweep registry settings cache now address with
      ⟨-, -, queue_eq⟩ | ⟨mac, interface, bound, -⟩ | ⟨-, -, emptied, lost⟩
    · rw [queue_eq]
      exact List.append_nil _
    · cases bound
    · rw [emptied, ← lost, kept, List.flatMap_nil]
  · intro address
    show ((cache.sweep settings now).2.abandoned.filter _).length ≤ 1
    rw [Cache.filter_abandoned]
    exact Option.length_toList_le

theorem confined_moment (operation : Operation) :
    (cache.moment registry settings operation).Confined registry settings := by
  cases operation with
  | send frame nextHop out now => exact confined_send registry settings cache frame nextHop out now
  | resolve target interface now =>
    exact confined_resolve registry settings cache target interface now
  | hold target frame => exact confined_hold registry settings cache target frame
  | learn packet interface now => exact confined_learn registry settings cache packet interface now
  | sweep now => exact confined_sweep registry settings cache now

end Confinement

end Ipv4Router.Neighbor
