/-
This file says for whom a router lets frames wait. Starting a request does not look at
the bindings, and learning a binding does not look at what waits elsewhere; but a router
asks for an address only when it has a datagram for it and no binding, and a binding
takes the request with it. So whatever a router lives through, an address is bound or
asked for and never both, something waits behind every request, and what waits is a
sound datagram that lacks nothing but the link address of its next hop.
-/

import Ipv4Router.Proofs.Router.Confinement
import Ipv4Router.Proofs.Router.Egress
import Ipv4Router.Proofs.Wire.Reading

namespace Ipv4Router

/-! ### Reading what was aged -/

/-- An aged datagram is read in full, with the payload that it was received with. -/
theorem Datagram.read_aged (octets aged : Octets) (datagram : Datagram)
    (parsed : Datagram.read octets = .ok datagram) (isAged : datagram.Aged aged) :
    Datagram.read aged = .ok ⟨aged, datagram.payload⟩ := by
  have readFrom := readFrom_of_read octets datagram parsed
  have whole : 20 ≤ datagram.octets.length := readFrom.size_le
  have sameOctet : ∀ offset, offset ≠ 8 → offset ≠ 10 → offset ≠ 11 →
      Octets.octetAt aged offset = Octets.octetAt datagram.octets offset := by
    intro offset notTtl notHigh notLow
    exact Octets.octetAt_congr _ _ _ (isAged.kept offset notTtl notHigh notLow)
  have lengthIs : Ipv4Header.length aged = Ipv4Header.length datagram.octets := by
    rw [Ipv4Header.length, Ipv4Header.length, sameOctet 0 (by decide) (by decide) (by decide)]
  have totalIs : Ipv4Header.totalLength aged = Ipv4Header.totalLength datagram.octets := by
    rw [Ipv4Header.totalLength, Ipv4Header.totalLength, Octets.word16At, Octets.word16At,
      Octets.field_congr aged datagram.octets 2 2 fun index _ below =>
        isAged.kept index (by omega) (by omega) (by omega)]
  have protocolIs : Ipv4Header.protocol aged = Ipv4Header.protocol datagram.octets :=
    sameOctet 9 (by decide) (by decide) (by decide)
  have versionIs : Ipv4Header.version aged = Ipv4Header.version octets := by
    rw [Ipv4Header.version, Ipv4Header.version, sameOctet 0 (by decide) (by decide) (by decide),
      readFrom.front, Octets.octetAt_take _ _ _ (by omega)]
  have headerWhole := readFrom.header_whole
  have bodyIs : aged.drop (Ipv4Header.length datagram.octets) = datagram.body := by
    refine List.ext_getElem? fun index => ?_
    unfold Ipv4Header.size at headerWhole
    rw [Datagram.body, List.getElem?_drop, List.getElem?_drop,
      isAged.kept _ (by omega) (by omega) (by omega)]
  have wellFormed : Ipv4Header.WellFormed aged := by
    refine ⟨?_, ?_, ?_, ?_⟩
    · rw [versionIs]
      exact (wellFormed_of_read octets datagram parsed).version_eq
    · rw [lengthIs]
      exact headerWhole
    · rw [lengthIs, totalIs, ← readFrom.length_eq]
      exact readFrom.header_fits
    · rw [totalIs, ← isAged.length_eq]
  rw [read_of_wellFormed aged wellFormed, totalIs, ← isAged.length_eq, List.take_length, lengthIs,
    bodyIs, protocolIs, readPayload_of_read octets datagram parsed, Except.map]

/-! ### What waits -/

/-- A frame that may wait: a datagram with a sound header, from a registered interface, to a
station that is not known yet. -/
def Registry.MayWait (registry : Registry) (frame : Octets) : Prop :=
  ∃ interface datagram, registry.get? interface.name = some interface ∧
    Frame.read frame = .ok ⟨⟨.zero, interface.mac, EtherType.ipv4⟩, .ipv4 datagram⟩ ∧
    datagram.checksumHolds = true

namespace Neighbor

/-- An address is asked for only while it is not bound and something waits for it. -/
structure Cache.Justified (registry : Registry) (cache : Cache) : Prop where
  unbound : ∀ address request, cache.request? address = some request →
    cache.lookup? address = none
  behind : ∀ address request, cache.request? address = some request →
    request.waiting ≠ [] ∧ ∀ frame ∈ request.waiting, registry.MayWait frame

theorem Cache.justified_empty (registry : Registry) : Cache.empty.Justified registry :=
  ⟨nofun, nofun⟩

section Steps

variable (registry : Registry) (cache : Cache)

/-- A frame that departs and has to wait joins a request for an address without a binding. -/
theorem justified_departure (after : Cache) (nextHop : Ipv4Address) (out : Interface) (now : Nat)
    (frameTo : MacAddress → Octets) (sent : List (String × Octets))
    (departure : Departure cache after nextHop out now frameTo sent)
    (mayWait : registry.MayWait (frameTo .zero))
    (justified : cache.Justified registry) : after.Justified registry := by
  cases known : cache.lookup? nextHop with
  | some mac =>
    rw [(departure.known mac known).1]
    exact justified
  | none =>
    have sameBindings : ∀ address, after.lookup? address = cache.lookup? address := by
      intro address
      rw [Cache.lookup?, departure.bindings_eq, Cache.lookup?]
    -- only the request for the next hop is new or longer, and the next hop is not bound
    refine ⟨fun address request found => ?_, fun address request found => ?_⟩
    · rw [sameBindings]
      by_cases same : nextHop = address
      · rwa [← same]
      · exact justified.unbound address request ((departure.others address same).symm.trans found)
    · by_cases same : nextHop = address
      · subst same
        cases asked : cache.request? nextHop with
        | some old =>
          obtain ⟨-, mayWaitBefore⟩ := justified.behind nextHop old asked
          have longer := (departure.outstanding old known asked).1
          obtain rfl := Option.some_inj.mp (longer.symm.trans found)
          refine ⟨List.append_ne_nil_of_right_ne_nil _ (List.cons_ne_nil _ _), ?_⟩
          intro frame member
          rcases List.mem_append.mp member with earlier | last
          · exact mayWaitBefore frame earlier
          · rwa [List.mem_singleton.mp last]
        | none =>
          obtain rfl := Option.some_inj.mp ((departure.unasked known asked).1.symm.trans found)
          exact ⟨List.cons_ne_nil _ _, fun frame member => by rwa [List.mem_singleton.mp member]⟩
      · exact justified.behind address request ((departure.others address same).symm.trans found)

/-- A binding that is learned takes the request for its address away. -/
theorem justified_learnReply (packet : ArpPacket) (interface : Interface) (now : Nat)
    (heard : packet.targetAddress = interface.address) (justified : cache.Justified registry) :
    (learnReply cache packet interface now).1.Justified registry := by
  have touches := touches_learnReply cache packet interface now
  have others : ∀ address request,
      (learnReply cache packet interface now).1.request? address = some request →
        packet.senderAddress ≠ address ∧ cache.request? address = some request := by
    intro address request found
    by_cases same : packet.senderAddress = address
    · subst same
      rw [learnReply_heard _ _ _ _ heard, Cache.request?_learn_self] at found
      cases found
    · exact ⟨same, (touches address same).symm.trans found⟩
  refine ⟨fun address request found => ?_, fun address request found => ?_⟩
  · obtain ⟨other, before⟩ := others address request found
    have unbound := justified.unbound address request before
    have kept := binding?_learnReply_other cache packet interface now address other
    rw [Cache.lookup?] at unbound ⊢
    rw [Cache.binding?, Cache.binding?] at kept
    rwa [kept]
  · exact justified.behind address request (others address request found).2

/-- A sweep binds nothing and leaves every queue that it does not give up as it is. -/
theorem justified_sweep (settings : Settings) (now : Nat) (justified : cache.Justified registry) :
    (cache.sweep settings now).1.Justified registry := by
  have before : ∀ address request,
      (cache.sweep settings now).1.request? address = some request →
        ∃ old, cache.request? address = some old ∧ request.waiting = old.waiting := by
    intro address request found
    rw [Cache.request?_sweep] at found
    obtain ⟨old, kept, rfl⟩ := Option.map_eq_some_iff.mp found
    refine ⟨old, (Option.filter_eq_some_iff.mp kept).1, ?_⟩
    unfold Request.swept
    split <;> rfl
  refine ⟨fun address request found => ?_, fun address request found => ?_⟩
  · obtain ⟨old, isOld, -⟩ := before address request found
    have unbound := justified.unbound address old isOld
    rw [Cache.lookup?, Option.map_eq_none_iff, Keyed.find?_eq_none] at unbound ⊢
    exact fun bound => unbound ((List.filter_sublist.map _).subset bound)
  · obtain ⟨old, isOld, sameQueue⟩ := before address request found
    rw [sameQueue]
    exact justified.behind address old isOld

end Steps

end Neighbor

namespace Router

section Steps

variable (router : Router) (octets : Octets) (interfaceName : String) (now : Nat)

/-- What a forwarded datagram would wait as is a frame that may wait. -/
theorem mayWait_of_forwards (passage : Passage)
    (forwards : router.Forwards octets interfaceName passage) :
    router.registry.MayWait (passage.frame passage.out.mac .zero) := by
  obtain ⟨-, -, -, parsed⟩ := Frame.read_ipv4 _ _ _ forwards.accepted.decoded
  have isAged := aged_of_forwards router octets interfaceName passage forwards
  have readBack := Datagram.read_aged _ _ _ parsed isAged
  exact ⟨passage.out, _, forwards.out_registered, Frame.read_ofDatagram _ _ _ _ readBack,
    beq_iff_eq.mpr isAged.checksum_holds⟩

theorem justified_receive (justified : router.neighbors.Justified router.registry) :
    (router.receive octets interfaceName now).1.neighbors.Justified router.registry := by
  cases router.receive_outcome octets interfaceName now with
  | unchanged same => rwa [same]
  | heard response hears => rwa [receive_of_hears _ _ _ _ _ hears]
  | learned interface packet learns =>
    rw [receive_of_learns _ _ _ _ _ _ learns]
    exact Neighbor.justified_learnReply _ _ packet interface now learns.heard justified
  | forwarded passage forwards =>
    exact Neighbor.justified_departure _ _ _ _ _ _ _ _
      (departure_of_forwards router octets interfaceName now passage forwards)
      (mayWait_of_forwards router octets interfaceName passage forwards) justified

/-- Whatever happens to a router, what it asks for stays justified. -/
theorem justified_perform (event : Event)
    (justified : router.neighbors.Justified router.registry) :
    (router.perform now event).1.neighbors.Justified router.registry := by
  cases event with
  | prepare =>
    show (router.prepare now).1.neighbors.Justified router.registry
    rwa [prepare_neighbors]
  | receive octets interfaceName =>
    exact justified_receive router octets interfaceName now justified
  | advertise => exact justified
  | sweep => exact Neighbor.justified_sweep _ _ _ now justified

end Steps

/-- In everything that a fresh router may live through, no address is both bound and asked for,
some frame waits behind every request, and every frame that waits is a datagram with a sound
header from a registered interface to the link address zero. -/
theorem waiting_justified {start router : Router} {history : List Moment} (fresh : start.Fresh)
    (run : Run start history router) :
    (∀ address, router.neighbors.lookup? address = none ∨
      router.neighbors.request? address = none) ∧
    ∀ request ∈ router.neighbors.requests, request.waiting ≠ [] ∧
      ∀ frame ∈ request.waiting, router.registry.MayWait frame := by
  have justified : router.neighbors.Justified router.registry := by
    refine run.keeps (fun router => router.neighbors.Justified router.registry)
      (fun moment before => ?_) ?_
    · rw [Moment.after, (moment.before.perform_keeps moment.now moment.event).1]
      exact justified_perform moment.before moment.now moment.event before
    · rw [fresh.set_up.2]
      exact Neighbor.Cache.justified_empty start.registry
  refine ⟨fun address => ?_, fun request member => ?_⟩
  · cases asked : router.neighbors.request? address with
    | none => exact Or.inr rfl
    | some request => exact Or.inl (justified.unbound address request asked)
  · have found := Keyed.find?_of_mem _ _ router.neighbors.single request member
    exact justified.behind request.target request found

/-! ### A datagram that waits -/

namespace Held

/-- The datagram arrives, and the link address of its next hop is not known. -/
def arrived : Moment := ⟨Stations.prepared.after, 7, .receive Transit.frame "eth0"⟩

/-- The frame in which the datagram waits. -/
def frame : Octets :=
  LinkHeader.frame ⟨.zero, Stations.outer.mac, EtherType.ipv4⟩ (Transit.datagram.withTtl 1)

theorem run : Run Stations.router [Stations.prepared, arrived] arrived.after :=
  .record [Stations.prepared] arrived (.record [] Stations.prepared .begin)

end Held

/-- The datagram waits as it will leave, but for the link address of its next hop. -/
theorem waiting_justified_held :
    Stations.router.Fresh ∧
      Run Stations.router [Stations.prepared, Held.arrived] Held.arrived.after ∧
      Held.arrived.after.neighbors.lookup? (.ofParts 10 0 1 7) = none ∧
      Held.arrived.after.neighbors.request? (.ofParts 10 0 1 7) =
        some ⟨.ofParts 10 0 1 7, "eth1", 7, 1, [Held.frame]⟩ ∧
      Stations.registry.MayWait Held.frame := by
  have asked : Held.arrived.after.neighbors.request? (.ofParts 10 0 1 7) =
      some ⟨.ofParts 10 0 1 7, "eth1", 7, 1, [Held.frame]⟩ := by decide +kernel
  obtain ⟨apart, waits⟩ := waiting_justified Stations.fresh Held.run
  have member := (Keyed.mem_of_find? _ _ _ _ asked).1
  have unbound := (apart (.ofParts 10 0 1 7)).resolve_right (by rw [asked]; exact nofun)
  exact ⟨Stations.fresh, Held.run, unbound, asked, (waits _ member).2 _ List.mem_cons_self⟩

end Router

end Ipv4Router
