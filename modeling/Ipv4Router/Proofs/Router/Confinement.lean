/-
This file bounds what a received frame can change. Only a response of the routing
protocol that came to the router as it should reaches the route table; only an answer
to the interface reaches the link addresses, and only those of its sender; and only a
datagram on its way to another host makes a request or joins a queue, for its next hop.
A frame that is dropped, for whatever reason, changes nothing and is answered by nothing.
-/

import Ipv4Router.Proofs.Router.Run

namespace Ipv4Router

/-- What is known of the link address of a station. -/
def Neighbor.Cache.binding? (cache : Cache) (address : Ipv4Address) : Option Binding :=
  Keyed.find? Binding.address address cache.bindings

/-- An answer binds the address of its sender and no other. -/
theorem Neighbor.binding?_learnReply_other (cache : Cache) (packet : ArpPacket)
    (interface : Interface) (now : Nat) (other : Ipv4Address)
    (different : packet.senderAddress ≠ other) :
    (learnReply cache packet interface now).1.binding? other = cache.binding? other := by
  by_cases heard : packet.targetAddress = interface.address
  · rw [learnReply_heard _ _ _ _ heard]
    exact Keyed.find?_put_other Binding.address ⟨_, _, now⟩ cache.bindings other different
  · rw [learnReply, if_neg heard]

theorem Frame.link_of_read (octets : Octets) (frame : Frame)
    (decoded : Frame.read octets = .ok frame) : frame.link = LinkHeader.read octets := by
  unfold Frame.read at decoded
  split at decoded
  · cases decoded
  · dsimp only at decoded
    split at decoded
    · rw [← Except.ok.inj decoded]
    · cases decoded

theorem Frame.etherType_of_read (octets : Octets) (frame : Frame)
    (decoded : Frame.read octets = .ok frame) (notArp : frame.link.etherType ≠ EtherType.arp)
    (notIpv4 : frame.link.etherType ≠ EtherType.ipv4) :
    frame.body = .other frame.link.etherType := by
  unfold Frame.read at decoded
  split at decoded
  · cases decoded
  · dsimp only at decoded
    split at decoded
    · rename_i body classified
      obtain rfl := Except.ok.inj decoded
      rw [readBody, if_neg notArp, if_neg notIpv4] at classified
      exact (Except.ok.inj classified).symm
    · cases decoded

namespace Router

/-! ### Dropped frames -/

/-- A frame that goes no further than the checks that every frame must pass: of its interface, its
form, its stations and its kind, and of the checksum in the header of its datagram. -/
inductive Drops (router : Router) (octets : Octets) (interfaceName : String) : Prop
  | unknown (unregistered : router.registry.get? interfaceName = none)
  | unreadable (malformed : Malformed) (unread : Frame.read octets = .error malformed)
  | own (interface : Interface) (registered : router.registry.get? interfaceName = some interface)
    (looped : (LinkHeader.read octets).source = interface.mac)
  | misdirected (interface : Interface)
    (registered : router.registry.get? interfaceName = some interface)
    (elsewhere : (LinkHeader.read octets).destination ≠ interface.mac)
    (single : (LinkHeader.read octets).destination.isGroup = false)
  | otherKind (notArp : (LinkHeader.read octets).etherType ≠ EtherType.arp)
    (notIpv4 : (LinkHeader.read octets).etherType ≠ EtherType.ipv4)
  | unsound (link : LinkHeader) (datagram : Datagram)
    (decoded : Frame.read octets = .ok ⟨link, .ipv4 datagram⟩)
    (spoilt : datagram.checksumHolds = false)

section Dropping

variable (router : Router) (octets : Octets) (interfaceName : String) (now : Nat)

/-- A frame that is taken in and still dropped carries something that the router does not speak, or
a datagram with a spoilt header. -/
theorem receive_of_accepted_drops (interface : Interface) (frame : Frame)
    (accepted : router.Accepts octets interfaceName interface frame)
    (drops : router.Drops octets interfaceName) :
    (router.receive octets interfaceName now).1 = router ∧
      Effect.transmissions (router.receive octets interfaceName now).2 = [] := by
  have link := Frame.link_of_read octets frame accepted.decoded
  have sameInterface : ∀ other, router.registry.get? interfaceName = some other →
      other = interface := fun other registered =>
    Option.some_inj.mp (registered.symm.trans accepted.registered)
  rw [receive_accepted router octets interfaceName now interface frame accepted]
  cases drops with
  | unknown unregistered => cases unregistered.symm.trans accepted.registered
  | unreadable malformed unread => cases unread.symm.trans accepted.decoded
  | own other registered looped =>
    rw [← link, sameInterface other registered] at looped
    exact absurd looped accepted.foreign
  | misdirected other registered elsewhere single =>
    rw [← link] at elsewhere single
    rw [sameInterface other registered] at elsewhere
    rcases accepted.addressed with own | group
    · exact absurd own elsewhere
    · cases single.symm.trans group
  | otherKind notArp notIpv4 =>
    rw [← link] at notArp notIpv4
    rw [Frame.etherType_of_read octets frame accepted.decoded notArp notIpv4]
    exact ⟨rfl, rfl⟩
  | unsound link datagram decoded spoilt =>
    obtain rfl := Except.ok.inj (accepted.decoded.symm.trans decoded)
    dsimp only
    rw [handleDatagram, spoilt]
    exact ⟨rfl, rfl⟩

/-- A dropped frame changes nothing and is answered by nothing. -/
theorem receive_of_drops (drops : router.Drops octets interfaceName) :
    (router.receive octets interfaceName now).1 = router ∧
      Effect.transmissions (router.receive octets interfaceName now).2 = [] := by
  by_cases taken : ∃ interface frame, router.Accepts octets interfaceName interface frame
  · obtain ⟨interface, frame, accepted⟩ := taken
    exact router.receive_of_accepted_drops octets interfaceName now interface frame accepted drops
  · refine router.receive_refused octets interfaceName now fun interface frame accepted => ?_
    exact taken ⟨interface, frame, accepted⟩

end Dropping

/-! ### All frames -/

/-- What a received frame may change. The route table changes by a response that is heard only. A
link address changes by an answer that is learned from only, and with it nothing but what is known
of the sender of the answer. A request is made or changed, its queue included, by a datagram that
is forwarded only, and only for its next hop. -/
structure Confined (router : Router) (octets : Octets) (interfaceName : String) (now : Nat) :
    Prop where
  setup : (router.receive octets interfaceName now).1.registry = router.registry ∧
    (router.receive octets interfaceName now).1.settings = router.settings
  table : (router.receive octets interfaceName now).1.table ≠ router.table →
    ∃ response, router.Hears octets interfaceName response
  bindings : (router.receive octets interfaceName now).1.neighbors.bindings ≠
      router.neighbors.bindings →
    ∃ interface packet, router.Learns octets interfaceName interface packet ∧
      (router.receive octets interfaceName now).1.table = router.table ∧
      ∀ other, packet.senderAddress ≠ other →
        (router.receive octets interfaceName now).1.neighbors.binding? other =
            router.neighbors.binding? other ∧
          (router.receive octets interfaceName now).1.neighbors.request? other =
            router.neighbors.request? other
  requests : ∀ address request,
    (router.receive octets interfaceName now).1.neighbors.request? address = some request →
    router.neighbors.request? address ≠ some request →
    ∃ passage, router.Forwards octets interfaceName passage ∧ passage.nextHop = address
  dropped : router.Drops octets interfaceName →
    (router.receive octets interfaceName now).1 = router ∧
      Effect.transmissions (router.receive octets interfaceName now).2 = []

section Confining

variable (router : Router) (octets : Octets) (interfaceName : String) (now : Nat)

theorem hears_of_table_ne
    (changed : (router.receive octets interfaceName now).1.table ≠ router.table) :
    ∃ response, router.Hears octets interfaceName response := by
  cases router.receive_outcome octets interfaceName now with
  | unchanged same => exact absurd (congrArg Router.table same) changed
  | heard response hears => exact ⟨response, hears⟩
  | learned interface packet learns =>
    rw [receive_of_learns _ _ _ _ _ _ learns] at changed
    exact absurd rfl changed
  | forwarded passage forwards =>
    rw [receive_of_forwards _ _ _ now _ forwards] at changed
    exact absurd rfl changed

theorem learns_of_bindings_ne
    (changed : (router.receive octets interfaceName now).1.neighbors.bindings ≠
      router.neighbors.bindings) :
    ∃ interface packet, router.Learns octets interfaceName interface packet ∧
      (router.receive octets interfaceName now).1.table = router.table ∧
      ∀ other, packet.senderAddress ≠ other →
        (router.receive octets interfaceName now).1.neighbors.binding? other =
            router.neighbors.binding? other ∧
          (router.receive octets interfaceName now).1.neighbors.request? other =
            router.neighbors.request? other := by
  cases router.receive_outcome octets interfaceName now with
  | unchanged same =>
    rw [same] at changed
    exact absurd rfl changed
  | heard response hears =>
    rw [receive_of_hears _ _ _ _ _ hears] at changed
    exact absurd rfl changed
  | learned interface packet learns =>
    refine ⟨interface, packet, learns, ?_⟩
    rw [receive_of_learns _ _ _ _ _ _ learns]
    exact ⟨rfl, fun other different =>
      ⟨Neighbor.binding?_learnReply_other _ packet interface now other different,
        Neighbor.touches_learnReply _ _ _ _ other different⟩⟩
  | forwarded passage forwards =>
    have departure := departure_of_forwards router octets interfaceName now passage forwards
    exact absurd departure.bindings_eq changed

theorem forwards_of_request?_ne (address : Ipv4Address) (request : Neighbor.Request)
    (found : (router.receive octets interfaceName now).1.neighbors.request? address =
      some request)
    (changed : router.neighbors.request? address ≠ some request) :
    ∃ passage, router.Forwards octets interfaceName passage ∧ passage.nextHop = address := by
  cases router.receive_outcome octets interfaceName now with
  | unchanged same =>
    rw [same] at found
    exact absurd found changed
  | heard response hears =>
    rw [receive_of_hears _ _ _ _ _ hears] at found
    exact absurd found changed
  | learned interface packet learns =>
    rw [receive_of_learns _ _ _ _ _ _ learns] at found
    by_cases about : packet.senderAddress = address
    · -- The request for the sender is gone, as there is no second one behind it.
      subst about
      change (Neighbor.learnReply _ _ _ _).1.request? _ = _ at found
      rw [Neighbor.learnReply_heard _ _ _ _ learns.heard] at found
      cases (Neighbor.Cache.request?_learn_self _ _ _ _).symm.trans found
    · rw [Neighbor.touches_learnReply _ _ _ _ address about] at found
      exact absurd found changed
  | forwarded passage forwards =>
    refine ⟨passage, forwards, Decidable.byContradiction fun other => ?_⟩
    have departure := departure_of_forwards router octets interfaceName now passage forwards
    rw [departure.others address other] at found
    exact changed found

/-- Whatever the octets, a received frame changes no more than its kind may change. -/
theorem receive_confined : router.Confined octets interfaceName now where
  setup := router.receive_keeps now octets interfaceName
  table := router.hears_of_table_ne octets interfaceName now
  bindings := router.learns_of_bindings_ne octets interfaceName now
  requests := router.forwards_of_request?_ne octets interfaceName now
  dropped := router.receive_of_drops octets interfaceName now

end Confining

/-- The request that a datagram leaves behind is for the datagram's next hop. -/
theorem receive_confined_asks :
    ∃ passage, Transit.router.Forwards Transit.frame "eth0" passage ∧
      passage.nextHop = .ofParts 10 0 1 7 := by
  have confined := receive_confined Transit.router Transit.frame "eth0" 7
  obtain ⟨request, found⟩ : ∃ request,
      (Transit.router.receive Transit.frame "eth0" 7).1.neighbors.request? (.ofParts 10 0 1 7) =
        some request :=
    Option.isSome_iff_exists.mp (by decide +kernel)
  exact confined.requests (.ofParts 10 0 1 7) request found nofun

end Router

end Ipv4Router
