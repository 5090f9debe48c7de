/-
This file takes an advertisement from one router to another. What a router advertises
out of an interface goes through messages, segments, datagrams and frames, and back
through all that a received frame must pass; at the other end of the link the route
table takes in the entries as if they had been handed over in one piece. A table of
any length survives, since the entries are cut into messages in their order and every
message is short enough for a frame.
-/

import Ipv4Router.Proofs.DistanceVector.Advertising
import Ipv4Router.Proofs.Router.Schedule

namespace Ipv4Router

/-! ### The frames on one link -/

/-- The frames that are sent out of an interface, in order. -/
def Effect.framesOn (interfaceName : String) (effects : List Effect) : List Octets :=
  ((transmissions effects).filter fun sent => sent.1 == interfaceName).map Prod.snd

namespace DistanceVector

section Links

variable (ttl : UInt8) (registry : Registry) (table : RouteTable)

theorem framesOn_respond (interface : Interface) (recipient : Recipient)
    (entries : List RipEntry) :
    Effect.framesOn interface.name (respond ttl interface recipient entries) =
      (RipMessage.responses entries).filterMap (messageFrame? ttl interface recipient) := by
  have all (frames : List Octets) : (frames.map fun frame => (interface.name, frame)).filter
      (fun sent => sent.1 == interface.name) = frames.map fun frame => (interface.name, frame) := by
    refine List.filter_eq_self.mpr fun sent member => ?_
    obtain ⟨frame, -, rfl⟩ := List.mem_map.mp member
    exact beq_self_eq_true _
  rw [Effect.framesOn, transmissions_respond, all, List.map_map]
  exact List.map_id _

theorem filter_respond_other (interface other : Interface) (recipient : Recipient)
    (entries : List RipEntry) (different : other.name ≠ interface.name) :
    (Effect.transmissions (respond ttl other recipient entries)).filter
      (fun sent => sent.1 == interface.name) = [] := by
  refine List.filter_eq_nil_iff.mpr fun sent member => ?_
  rw [transmissions_respond] at member
  obtain ⟨frame, -, rfl⟩ := List.mem_map.mp member
  exact mt beq_iff_eq.mp different

/-- Out of each interface go the responses that carry what is advertised there. -/
theorem framesOn_advertise (interface : Interface) (member : interface ∈ registry.interfaces) :
    Effect.framesOn interface.name (advertise registry table ttl) =
      (RipMessage.responses (table.advertised interface.name interface.address)).filterMap
        (messageFrame? ttl interface .everyone) := by
  rw [Effect.framesOn, transmissions_advertise, List.filter_flatMap,
    Keyed.flatMap_of_mem Interface.name registry.interfaces registry.named interface member _
      fun other different => filter_respond_other ttl interface other _ _ different]
  exact framesOn_respond ttl interface .everyone _

end Links

end DistanceVector

/-! ### Arrival -/

namespace Router

/-- The router after frames that arrive on one interface, one after the other at one time, and the
effects of all. -/
def receiveAll (router : Router) (frames : List Octets) (interfaceName : String) (now : Nat) :
    Router × List Effect :=
  router.follow (frames.map fun frame => (now, .event (.receive frame interfaceName)))

theorem receiveAll_cons (router : Router) (frame : Octets) (rest : List Octets)
    (interfaceName : String) (now : Nat) :
    router.receiveAll (frame :: rest) interfaceName now =
      (((router.receive frame interfaceName now).1.receiveAll rest interfaceName now).1,
        (router.receive frame interfaceName now).2 ++
          ((router.receive frame interfaceName now).1.receiveAll rest interfaceName now).2) :=
  rfl

/-- The router whose route table took in an advertisement. -/
def absorb (router : Router) (hearing : DistanceVector.Hearing) (entries : List RipEntry) :
    Router :=
  { router with table := (hearing.absorb router.table entries).1 }

theorem absorb_append (router : Router) (hearing : DistanceVector.Hearing)
    (first second : List RipEntry) :
    router.absorb hearing (first ++ second) =
      (router.absorb hearing first).absorb hearing second := by
  rw [absorb, DistanceVector.Hearing.absorb_append]
  rfl

/-- The interface of a router listens to another interface on the link. -/
structure ListensTo (router : Router) (inlet outlet : Interface) : Prop where
  registered : router.registry.get? inlet.name = some inlet
  distinct : outlet.mac ≠ inlet.mac
  foreign : router.registry.isLocal outlet.address = false
  enabled : router.settings.routingEnabled = true

theorem isGroup_groupMac : RipMessage.groupMac.isGroup = true := by decide

section Listening

variable (router : Router) (inlet outlet : Interface) (ttl : UInt8) (now : Nat)

/-- A response to everyone is heard, and brings the entries that it was built from. -/
theorem hears_of_conveys (listens : router.ListensTo inlet outlet) (lives : 2 ≤ ttl)
    (entries : List RipEntry) (frame : Octets) (datagram : Datagram) (segment : UdpSegment)
    (conveys : DistanceVector.Conveys ttl outlet .everyone (.response entries) frame datagram
      segment) :
    router.Hears frame inlet.name ⟨inlet, ⟨RipMessage.groupMac, outlet.mac, EtherType.ipv4⟩,
      datagram, segment, RipMessage.version2, entries⟩ where
  accepted := ⟨listens.registered, conveys.decoded, listens.distinct, Or.inr isGroup_groupMac⟩
  sound := conveys.sound
  addressee := by
    rw [isAddressee, conveys.destination_eq]
    exact Bool.or_true _
  alive := by
    rw [conveys.ttl_eq]
    exact UInt8.lt_of_lt_of_le (by decide) lives
  enabled := listens.enabled
  carried := conveys.carried
  toPort := conveys.toPort
  fromPort := conveys.fromPort
  notOwn := by
    rw [conveys.source_eq]
    exact listens.foreign
  understood := conveys.understood

theorem receive_of_conveys (listens : router.ListensTo inlet outlet) (lives : 2 ≤ ttl)
    (entries : List RipEntry) (frame : Octets) (datagram : Datagram) (segment : UdpSegment)
    (conveys : DistanceVector.Conveys ttl outlet .everyone (.response entries) frame datagram
      segment) :
    (router.receive frame inlet.name now).1 =
        router.absorb ⟨outlet.address, inlet.name, now⟩ entries ∧
      Effect.transmissions (router.receive frame inlet.name now).2 = [] := by
  have hears := router.hears_of_conveys inlet outlet ttl listens lives entries frame datagram
    segment conveys
  rw [receive_eq_absorb _ _ _ _ _ hears, Response.hearing, conveys.source_eq]
  exact ⟨rfl, DistanceVector.Hearing.transmissions_absorb _ _ _⟩

/-- Responses with few entries each are absorbed like one with all the entries. -/
theorem receiveAll_responses (listens : router.ListensTo inlet outlet) (lives : 2 ≤ ttl)
    (messages : List RipMessage)
    (short : ∀ message ∈ messages, ∃ block : List RipEntry,
      message = .response block ∧ block.length ≤ RipMessage.maxEntries) :
    let frames := messages.filterMap (DistanceVector.messageFrame? ttl outlet .everyone)
    (router.receiveAll frames inlet.name now).1 =
        router.absorb ⟨outlet.address, inlet.name, now⟩ (messages.flatMap RipMessage.entries) ∧
      Effect.transmissions (router.receiveAll frames inlet.name now).2 = [] := by
  intro frames
  induction messages generalizing router with
  | nil => exact ⟨rfl, rfl⟩
  | cons message rest inductionHypothesis =>
    obtain ⟨block, rfl, few⟩ := short message List.mem_cons_self
    -- No response is lost, as each is short enough for a frame.
    obtain ⟨frame, datagram, segment, built, conveys⟩ :=
      DistanceVector.messageFrame?_response ttl outlet .everyone block few
    obtain ⟨after, quiet⟩ := router.receive_of_conveys inlet outlet ttl now listens lives block
      frame datagram segment conveys
    obtain ⟨afterRest, quietRest⟩ := inductionHypothesis
      (router.absorb ⟨outlet.address, inlet.name, now⟩ block)
      ⟨listens.registered, listens.distinct, listens.foreign, listens.enabled⟩
      fun message member => short message (List.mem_cons_of_mem _ member)
    have framesAre : frames = frame ::
        rest.filterMap (DistanceVector.messageFrame? ttl outlet .everyone) :=
      List.filterMap_cons_some built
    rw [framesAre, receiveAll_cons, after, List.flatMap_cons, absorb_append,
      Effect.transmissions_append, quiet, List.nil_append]
    exact ⟨afterRest, quietRest⟩

end Listening

/-- An advertisement survives the wire. The frames that a router sends out of an interface when it
advertises, received in their order by an interface that listens, leave the receiver's table
exactly as if it had been handed the advertised entries, change nothing else, and are answered by
nothing. -/
theorem advertisement_survives (sender receiver : Router) (outlet inlet : Interface) (now : Nat)
    (member : outlet ∈ sender.registry.interfaces) (listens : receiver.ListensTo inlet outlet)
    (lives : 2 ≤ sender.settings.routing.ttl) :
    let sent :=
      DistanceVector.advertise sender.registry sender.table sender.settings.routing.ttl
    let outcome := receiver.receiveAll (Effect.framesOn outlet.name sent) inlet.name now
    outcome.1 =
        { receiver with
          table := ((⟨outlet.address, inlet.name, now⟩ : DistanceVector.Hearing).absorb
            receiver.table (sender.table.advertised outlet.name outlet.address)).1 } ∧
      Effect.transmissions outcome.2 = [] := by
  have survives := receiver.receiveAll_responses inlet outlet sender.settings.routing.ttl now
    listens lives
    (RipMessage.responses (sender.table.advertised outlet.name outlet.address))
    (RipMessage.eq_response_of_mem_responses _)
  rw [RipMessage.flatMap_entries_responses] at survives
  intro sent
  rw [← DistanceVector.framesOn_advertise _ _ _ outlet member] at survives
  exact survives

/-! ### Two routers on a link -/

namespace Neighbors

/-- The interface of a second router, on the outer link of the first. -/
def inlet : Interface :=
  ⟨"eth0", .ofParts 10 0 1 2, .ofParts 255 255 255 0, .ofOctets [2, 0, 0, 0, 0, 3]⟩

/-- A router that has not learned a route yet. -/
def receiver : Router where
  registry := ⟨[inlet], by decide⟩
  settings := {}

end Neighbors

/-- The second router learns the way to the inner subnet of the first. -/
theorem advertisement_survives_neighbor :
    Stations.outer ∈ Transit.router.registry.interfaces ∧
      Neighbors.receiver.ListensTo Neighbors.inlet Stations.outer ∧
      2 ≤ Transit.router.settings.routing.ttl ∧
      let sent := DistanceVector.advertise Transit.router.registry Transit.router.table
        Transit.router.settings.routing.ttl
      let outcome := Neighbors.receiver.receiveAll (Effect.framesOn "eth1" sent) "eth0" 7
      (outcome.1.table.find? Stations.inner.network Stations.inner.mask).map Route.gateway =
        some Stations.outer.address := by
  have member : Stations.outer ∈ Transit.router.registry.interfaces := by decide
  have listens : Neighbors.receiver.ListensTo Neighbors.inlet Stations.outer :=
    ⟨by decide, by decide, by decide, rfl⟩
  have lives : 2 ≤ Transit.router.settings.routing.ttl := by decide
  obtain ⟨after, -⟩ := advertisement_survives Transit.router Neighbors.receiver Stations.outer
    Neighbors.inlet 7 member listens lives
  refine ⟨member, listens, lives, ?_⟩
  intro sent outcome
  have afterIs : outcome.1 = _ := after
  rw [afterIs]
  decide +kernel

end Router

end Ipv4Router
