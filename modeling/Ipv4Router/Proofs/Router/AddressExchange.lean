/-
This file lets two routers on a link resolve an address. The frame in which one asks is
read by the other, which answers for its own address, keeps quiet about every other, and
learns nothing from being asked. The frame of the answer tells the asker the link address,
ends its request, and sends what waited for it on its way.
-/

import Ipv4Router.Proofs.Router.Confinement
import Ipv4Router.Proofs.Router.Egress

namespace Ipv4Router

namespace Neighbor

/-- The frame of a packet is read back, between the stations that it was built for. -/
theorem read_packetFrame (linkDestination : MacAddress) (packet : ArpPacket) :
    Frame.read (packetFrame linkDestination packet) =
      .ok ⟨⟨linkDestination, packet.senderMac, EtherType.arp⟩, .arp packet⟩ := by
  have whole : ¬ (packetFrame linkDestination packet).length < LinkHeader.size := by
    rw [packetFrame, LinkHeader.frame, List.length_append, LinkHeader.length_octets]
    exact Nat.not_lt.mpr (Nat.le_add_right _ _)
  rw [Frame.read, if_neg whole, packetFrame, LinkHeader.read_frame, LinkHeader.drop_frame]
  simp only [Frame.readBody, if_pos, ArpPacket.read?_octets]

theorem isGroup_broadcast : MacAddress.broadcast.isGroup = true := by decide

end Neighbor

namespace Router

/-! ### Asking -/

section Asking

variable (answerer : Router) (outlet inlet : Interface) (target : Ipv4Address) (now : Nat)

/-- The packet in which an interface asks for an address. -/
def question : ArpPacket :=
  .overEthernet ArpPacket.request outlet.mac outlet.address .zero target

theorem accepts_question (registered : answerer.registry.get? inlet.name = some inlet)
    (distinct : outlet.mac ≠ inlet.mac) :
    answerer.Accepts (Neighbor.requestFrame outlet target) inlet.name inlet
      ⟨⟨.broadcast, outlet.mac, EtherType.arp⟩, .arp (question outlet target)⟩ :=
  ⟨registered, Neighbor.read_packetFrame _ _, distinct, Or.inr Neighbor.isGroup_broadcast⟩

/-- Being asked changes nothing, and is answered by the interface that has the address. -/
theorem receive_requestFrame (registered : answerer.registry.get? inlet.name = some inlet)
    (distinct : outlet.mac ≠ inlet.mac) :
    answerer.receive (Neighbor.requestFrame outlet target) inlet.name now =
      (answerer, Neighbor.answer (question outlet target) inlet) := by
  rw [receive_accepted _ _ _ _ _ _
    (answerer.accepts_question outlet inlet target registered distinct)]
  rfl

theorem transmissions_answer :
    Effect.transmissions (Neighbor.answer (question outlet target) inlet) =
      if target = inlet.address then
        [(inlet.name, Neighbor.replyFrame inlet outlet.mac outlet.address)]
      else [] := by
  show Effect.transmissions (if target = inlet.address then _ else _) = _
  split <;> rfl

end Asking

/-! ### Learning -/

/-- An interface got the answer of another one on the link: it knows the link address there and
waits for it no longer, and what waited has left, with nothing but the link addresses changed. What
is known or asked of all other stations is as before. -/
structure Acquainted (asker : Router) (outlet inlet : Interface)
    (outcome : Router × List Effect) : Prop where
  bound : outcome.1.neighbors.lookup? inlet.address = some inlet.mac
  answered : outcome.1.neighbors.request? inlet.address = none
  sends : Effect.transmissions outcome.2 =
    (asker.neighbors.queue inlet.address).map fun frame =>
      (outlet.name, inlet.mac.octets ++ outlet.mac.octets ++ frame.drop 12)
  otherBindings : ∀ other, inlet.address ≠ other →
    outcome.1.neighbors.binding? other = asker.neighbors.binding? other
  otherRequests : ∀ other, inlet.address ≠ other →
    outcome.1.neighbors.request? other = asker.neighbors.request? other
  rest_eq : outcome.1 = { asker with neighbors := outcome.1.neighbors }

section Learning

variable (asker : Router) (outlet inlet : Interface) (now : Nat)

/-- The packet in which an interface answers another one. -/
def answerTo : ArpPacket :=
  .overEthernet ArpPacket.reply inlet.mac inlet.address outlet.mac outlet.address

theorem learns_replyFrame (registered : asker.registry.get? outlet.name = some outlet)
    (distinct : outlet.mac ≠ inlet.mac) :
    asker.Learns (Neighbor.replyFrame inlet outlet.mac outlet.address) outlet.name outlet
      (answerTo outlet inlet) where
  accepted := ⟨⟨outlet.mac, inlet.mac, EtherType.arp⟩, registered,
    Neighbor.read_packetFrame _ _, distinct.symm, Or.inl rfl⟩
  isReply := rfl
  heard := rfl

/-- The frame of an answer acquaints the asker. -/
theorem acquainted_replyFrame (registered : asker.registry.get? outlet.name = some outlet)
    (distinct : outlet.mac ≠ inlet.mac)
    (whole : ∀ frame ∈ asker.neighbors.queue inlet.address, LinkHeader.size ≤ frame.length) :
    asker.Acquainted outlet inlet
      (asker.receive (Neighbor.replyFrame inlet outlet.mac outlet.address) outlet.name now) := by
  have learns := asker.learns_replyFrame outlet inlet registered distinct
  have learned := receive_of_learns _ _ _ now _ _ learns
  have cacheIs := congrArg (fun outcome => outcome.1.neighbors) learned
  dsimp only at cacheIs
  have touches :=
    Neighbor.touches_learnReply asker.neighbors (answerTo outlet inlet) outlet now
  -- seen as a moment of the router, the answer releases the queue of the one address
  let moment : Moment :=
    ⟨asker, now, .receive (Neighbor.replyFrame inlet outlet.mac outlet.address) outlet.name⟩
  have binds : moment.Binds inlet.address inlet.mac outlet :=
    ⟨_, answerTo outlet inlet, rfl, learns, rfl, rfl⟩
  refine ⟨?_, ?_, ?_, fun other different => ?_, fun other different => ?_, ?_⟩
  · rw [cacheIs, Neighbor.learnReply_heard _ _ _ _ learns.heard]
    exact congrArg (Option.map Neighbor.Binding.mac)
      (Keyed.find?_put_self Neighbor.Binding.address ⟨inlet.address, inlet.mac, now⟩ _)
  · rw [cacheIs, Neighbor.learnReply_heard _ _ _ _ learns.heard]
    exact Neighbor.Cache.request?_learn_self _ _ _ _
  · refine (moment.sent_of_binds inlet.address inlet.mac outlet binds).trans ?_
    exact List.map_congr_left fun frame waits =>
      congrArg (outlet.name, ·) (readdress_of_whole frame _ _ (whole frame waits))
  · rw [cacheIs]
    exact Neighbor.binding?_learnReply_other _ _ _ _ other different
  · rw [cacheIs]
    exact touches other different
  · rw [learned]

end Learning

/-! ### The exchange -/

/-- Two routers on a link complete the resolution of an address. The frame in which one asks leaves
the other as it was. It is answered by one frame if the address is that of the interface, and by
none otherwise; and that frame acquaints the asker with the interface. -/
theorem exchange_completes (asker answerer : Router) (outlet inlet : Interface)
    (target : Ipv4Address) (now later : Nat)
    (outletRegistered : asker.registry.get? outlet.name = some outlet)
    (inletRegistered : answerer.registry.get? inlet.name = some inlet)
    (distinct : outlet.mac ≠ inlet.mac)
    (whole : ∀ frame ∈ asker.neighbors.queue inlet.address, LinkHeader.size ≤ frame.length) :
    let asked := answerer.receive (Neighbor.requestFrame outlet target) inlet.name now
    asked.1 = answerer ∧
      (target ≠ inlet.address → Effect.transmissions asked.2 = []) ∧
      (target = inlet.address →
        ∃ reply, Effect.transmissions asked.2 = [(inlet.name, reply)] ∧
          asker.Acquainted outlet inlet (asker.receive reply outlet.name later)) := by
  intro asked
  have askedIs : asked = (answerer, Neighbor.answer (question outlet target) inlet) :=
    answerer.receive_requestFrame outlet inlet target now inletRegistered distinct
  rw [askedIs]
  refine ⟨rfl, fun other => ?_, fun own => ?_⟩
  · rw [transmissions_answer, if_neg other]
  · refine ⟨_, (transmissions_answer outlet inlet target).trans (if_pos own), ?_⟩
    exact asker.acquainted_replyFrame outlet inlet later outletRegistered distinct whole

namespace Waiting

/-- The next hop of the datagram, as a router of its own. -/
def answerer : Router where
  registry := ⟨[Stations.host], by decide⟩
  settings := {}

end Waiting

/-- A datagram waits for its next hop, which is asked, answers, and gets it. -/
theorem exchange_completes_waiting :
    let asker := Waiting.entry.after
    asker.registry.get? "eth1" = some Stations.outer ∧
      Waiting.answerer.registry.get? "eth1" = some Stations.host ∧
      Stations.outer.mac ≠ Stations.host.mac ∧
      (∀ frame ∈ asker.neighbors.queue Stations.host.address,
        LinkHeader.size ≤ frame.length) ∧
      (asker.neighbors.queue Stations.host.address).length = 1 ∧
      let asked := Waiting.answerer.receive
        (Neighbor.requestFrame Stations.outer Stations.host.address) "eth1" 4
      ∃ reply, Effect.transmissions asked.2 = [("eth1", reply)] ∧
        asker.Acquainted Stations.outer Stations.host (asker.receive reply "eth1" 5) := by
  intro asker
  have outletRegistered : asker.registry.get? "eth1" = some Stations.outer := by decide +kernel
  have inletRegistered : Waiting.answerer.registry.get? "eth1" = some Stations.host := by decide
  have distinct : Stations.outer.mac ≠ Stations.host.mac := by decide
  have whole : ∀ frame ∈ asker.neighbors.queue Stations.host.address,
      LinkHeader.size ≤ frame.length := by decide +kernel
  obtain ⟨-, -, completes⟩ := exchange_completes asker Waiting.answerer Stations.outer
    Stations.host Stations.host.address 4 5 outletRegistered inletRegistered distinct whole
  exact ⟨outletRegistered, inletRegistered, distinct, whole, by decide +kernel,
    completes rfl⟩

end Router

end Ipv4Router
