/-
This file follows a forwarded datagram to the interface that it leaves by. If the
link address of its next hop is known, it leaves at once and as its route says. Else
it waits in the queue for the next hop, which only grows at its end until an answer
releases it or a sweep gives it up. The answer decides where the queue leaves: through
the interface on which it was heard, whatever interface the route named.
-/

import Ipv4Router.Proofs.Neighbor.Operation
import Ipv4Router.Proofs.Router.Run

namespace Ipv4Router.Router

/-! ### Moments of a queue -/

namespace Moment

/-- An answer arrived at an interface that binds an address. -/
def Binds (moment : Moment) (address : Ipv4Address) (mac : MacAddress) (interface : Interface) :
    Prop :=
  ∃ octets packet, moment.event = .receive octets interface.name ∧
    moment.before.Learns octets interface.name interface packet ∧
    packet.senderAddress = address ∧ packet.senderMac = mac

/-- A sweep gives up the request for an address. -/
def GivesUp (moment : Moment) (address : Ipv4Address) : Prop :=
  moment.event = .sweep ∧ ∃ request, moment.before.neighbors.request? address = some request ∧
    request.isAbandoned moment.before.settings.neighbors moment.now = true

/-- What waits for an address is released or given up. -/
def Settles (moment : Moment) (address : Ipv4Address) : Prop :=
  (∃ mac interface, moment.Binds address mac interface) ∨ moment.GivesUp address

end Moment

section Queues

variable (router : Router) (now : Nat) (octets : Octets) (interfaceName : String)
  (address : Ipv4Address)

/-- A frame that departs joins the end of the queue for its next hop, unless the link address
there is known. -/
theorem queue_of_departure (before after : Neighbor.Cache) (nextHop : Ipv4Address)
    (out : Interface) (frameTo : MacAddress → Octets) (sent : List (String × Octets))
    (departure : Neighbor.Departure before after nextHop out now frameTo sent) :
    after.queue nextHop = before.queue nextHop ++
      if before.lookup? nextHop = none then [frameTo .zero] else [] := by
  cases found : before.lookup? nextHop with
  | some mac => rw [(departure.known mac found).1, if_neg nofun, List.append_nil]
  | none =>
    rw [if_pos rfl]
    cases asked : before.request? nextHop with
    | some request =>
      rw [Neighbor.queue_of_request? _ _ _ (departure.outstanding request found asked).1,
        Neighbor.queue_of_request? _ _ _ asked]
    | none =>
      rw [Neighbor.queue_of_request? _ _ _ (departure.unasked found asked).1,
        Neighbor.queue_of_absent _ _ asked, List.nil_append]

/-- A queue that is neither released nor given up keeps its frames, in front of new ones. -/
theorem queue_receive
    (unbound : ∀ mac interface,
      ¬ Moment.Binds ⟨router, now, .receive octets interfaceName⟩ address mac interface) :
    router.neighbors.queue address <+:
      (router.receive octets interfaceName now).1.neighbors.queue address := by
  cases router.receive_outcome octets interfaceName now with
  | unchanged same => rw [same]
  | heard response hears => rw [receive_of_hears _ _ _ _ _ hears]
  | learned interface packet learns =>
    rw [receive_of_learns _ _ _ _ _ _ learns]
    have other : packet.senderAddress ≠ address := by
      rintro rfl
      obtain ⟨_, accepted⟩ := learns.accepted
      obtain rfl := accepted.name_eq
      exact unbound _ interface ⟨octets, packet, rfl, learns, rfl, rfl⟩
    rw [Neighbor.queue_congr _ _ _ (Neighbor.touches_learnReply _ _ _ _ address other)]
  | forwarded passage forwards =>
    have departure := departure_of_forwards router octets interfaceName now passage forwards
    by_cases same : passage.nextHop = address
    · rw [← same, queue_of_departure _ _ _ _ _ _ _ departure]
      exact List.prefix_append _ _
    · rw [Neighbor.queue_congr _ _ _ (departure.others address same)]

theorem queue_sweep (kept : ¬ Moment.GivesUp ⟨router, now, .sweep⟩ address) :
    (router.sweep now).1.neighbors.queue address = router.neighbors.queue address := by
  have after := Neighbor.Cache.request?_sweep router.neighbors router.settings.neighbors now
    address
  show (router.neighbors.sweep router.settings.neighbors now).1.queue address = _
  cases found : router.neighbors.request? address with
  | none =>
    rw [found] at after
    rw [Neighbor.queue_of_absent _ _ found]
    exact Neighbor.queue_of_absent _ _ after
  | some request =>
    have spared : request.isAbandoned router.settings.neighbors now = false :=
      Bool.eq_false_iff.mpr fun spent => kept ⟨rfl, request, found, spent⟩
    rw [found, Option.filter_some, spared, Bool.not_false, if_pos rfl, Option.map_some] at after
    rw [Neighbor.queue_of_request? _ _ _ after, Neighbor.queue_of_request? _ _ _ found]
    unfold Neighbor.Request.swept
    split <;> rfl

theorem Moment.queue_prefix (moment : Moment) (unsettled : ¬ moment.Settles address) :
    moment.before.neighbors.queue address <+: moment.after.neighbors.queue address := by
  obtain ⟨before, now, event⟩ := moment
  cases event with
  | prepare =>
    show _ <+: (before.prepare now).1.neighbors.queue address
    rw [prepare_neighbors]
  | receive octets interfaceName =>
    exact before.queue_receive now octets interfaceName address
      fun mac interface binds => unsettled (Or.inl ⟨mac, interface, binds⟩)
  | advertise => exact List.prefix_refl _
  | sweep =>
    show _ <+: (before.sweep now).1.neighbors.queue address
    rw [before.queue_sweep now address fun givesUp => unsettled (Or.inr givesUp)]

/-- An answer sends all that waits for its sender, in order, through the interface that heard
it. -/
theorem Moment.sent_of_binds (moment : Moment) (mac : MacAddress) (interface : Interface)
    (binds : moment.Binds address mac interface) :
    moment.sent = (moment.before.neighbors.queue address).map fun frame =>
      (interface.name, readdress frame interface.mac mac) := by
  obtain ⟨octets, packet, event, learns, rfl, rfl⟩ := binds
  have bound : (moment.before.neighbors.moment moment.before.registry
      moment.before.settings.neighbors (.learn packet interface moment.now)).binding?
        packet.senderAddress = some (packet.senderMac, interface) :=
    if_pos ⟨learns.heard, rfl⟩
  have sentIs : moment.sent = Effect.transmissions
      (Neighbor.learnReply moment.before.neighbors packet interface moment.now).2 := by
    rw [sent, event]
    exact congrArg (fun outcome => Effect.transmissions outcome.2)
      (receive_of_learns _ _ _ _ _ _ learns)
  rw [sentIs]
  cases Neighbor.turn_learn moment.before.registry moment.before.settings.neighbors
    moment.before.neighbors packet interface moment.now packet.senderAddress with
  | grows unbound | dropped unbound =>
    rw [bound] at unbound
    cases unbound
  | released mac via boundTo _ _ _ sends =>
    rw [bound] at boundTo
    cases boundTo
    exact sends

end Queues

/-! ### Leaving -/

/-- A transmission goes out of the interface of the route, with the link address of that
interface as its source. -/
def Passage.KeepsRoute (passage : Passage) (sent : String × Octets) : Prop :=
  sent.1 = passage.out.name ∧ (LinkHeader.read sent.2).source = passage.out.mac

/-- The moment at which a datagram leaves that was to be forwarded at an earlier moment, and the
transmission in which it does. If it had to wait, it leaves in the place that it took in the queue,
when the first answer comes; and it never leaves if the request is given up before. -/
inductive Leaves (entry : Moment) (passage : Passage) (later : List Moment) :
    Moment → String × Octets → Prop
  | atOnce (mac : MacAddress) (sent : String × Octets)
    (known : entry.before.neighbors.lookup? passage.nextHop = some mac)
    (isSent : sent ∈ entry.sent) : Leaves entry passage later entry sent
  | released (between rest : List Moment) (answer : Moment) (mac : MacAddress) (via : Interface)
    (sent : String × Octets) (unknown : entry.before.neighbors.lookup? passage.nextHop = none)
    (split : later = between ++ answer :: rest)
    (unsettled : ∀ moment ∈ between, ¬ moment.Settles passage.nextHop)
    (binds : answer.Binds passage.nextHop mac via)
    (isSent : answer.sent[(entry.before.neighbors.queue passage.nextHop).length]? = some sent) :
    Leaves entry passage later answer sent

section Leaving

variable {start router : Router} {history : List Moment}

/-- A queue that is never settled keeps its frames, in front of new ones. -/
theorem Run.queue_prefix (run : Run start history router) (address : Ipv4Address)
    (unsettled : ∀ moment ∈ history, ¬ moment.Settles address) :
    start.neighbors.queue address <+: router.neighbors.queue address := by
  induction run with
  | begin => exact List.prefix_refl _
  | record history moment before inductionHypothesis =>
    have earlier := inductionHypothesis fun earlier member =>
      unsettled earlier (List.mem_append_left _ member)
    exact earlier.trans (moment.queue_prefix address (unsettled moment
      (List.mem_append_right _ List.mem_cons_self)))

variable {entry : Moment} {passage : Passage} {octets : Octets} {interfaceName : String}

/-- A frame with both link addresses rewritten is the frame of the same datagram between other
stations. -/
theorem Passage.readdress_frame (passage : Passage) (source destination newSource
    newDestination : MacAddress) :
    readdress (passage.frame source destination) newSource newDestination =
      passage.frame newSource newDestination := by
  have whole : LinkHeader.size ≤ (passage.frame source destination).length := by
    rw [frame, LinkHeader.frame, List.length_append, LinkHeader.length_octets]
    exact Nat.le_add_right _ _
  rw [readdress_eq_frame _ _ _ whole, frame, LinkHeader.read_frame, LinkHeader.drop_frame, frame]

/-- The frame of the datagram waits at the end of the queue for its next hop. -/
theorem queue_of_waiting (event : entry.event = .receive octets interfaceName)
    (forwards : entry.before.Forwards octets interfaceName passage)
    (unknown : entry.before.neighbors.lookup? passage.nextHop = none) :
    entry.after.neighbors.queue passage.nextHop =
      entry.before.neighbors.queue passage.nextHop ++
        [passage.frame passage.out.mac .zero] := by
  have departure := departure_of_forwards entry.before octets interfaceName entry.now passage
    forwards
  have queued := queue_of_departure _ _ _ _ _ _ _ departure
  rw [if_pos unknown] at queued
  rw [Moment.after, event]
  exact queued

/-- While the queue is not settled, the frame keeps its place; the first answer sends it through
the interface that heard the answer. -/
theorem sent_at_answer (event : entry.event = .receive octets interfaceName)
    (forwards : entry.before.Forwards octets interfaceName passage)
    (unknown : entry.before.neighbors.lookup? passage.nextHop = none)
    (between : List Moment) (answer : Moment)
    (run : Run entry.after between answer.before)
    (unsettled : ∀ moment ∈ between, ¬ moment.Settles passage.nextHop) (mac : MacAddress)
    (via : Interface) (binds : answer.Binds passage.nextHop mac via) :
    answer.sent[(entry.before.neighbors.queue passage.nextHop).length]? =
      some (via.name, passage.frame via.mac mac) := by
  obtain ⟨newer, queueIs⟩ := run.queue_prefix passage.nextHop unsettled
  rw [queue_of_waiting event forwards unknown, List.append_assoc] at queueIs
  rw [answer.sent_of_binds passage.nextHop mac via binds,
    ← queueIs, List.getElem?_map, List.getElem?_append_right (Nat.le_refl _), Nat.sub_self,
    List.singleton_append, List.getElem?_cons_zero, Option.map_some, Passage.readdress_frame]

/-- A datagram whose next hop is known leaves at once, in one frame, as its route says. -/
theorem sent_at_once (event : entry.event = .receive octets interfaceName)
    (forwards : entry.before.Forwards octets interfaceName passage) (mac : MacAddress)
    (known : entry.before.neighbors.lookup? passage.nextHop = some mac) :
    entry.sent = [(passage.out.name, passage.frame passage.out.mac mac)] := by
  have departure := departure_of_forwards entry.before octets interfaceName entry.now passage
    forwards
  rw [Moment.sent, event]
  exact (departure.known mac known).2

/-- Interfaces of one registry are told apart by name. -/
theorem keepsRoute_iff (registry : Registry) (passage : Passage) (via : Interface)
    (mac : MacAddress) (registered : registry.get? passage.out.name = some passage.out)
    (viaRegistered : registry.get? via.name = some via) :
    passage.KeepsRoute (via.name, passage.frame via.mac mac) ↔ via = passage.out := by
  constructor
  · rintro ⟨name, -⟩
    change via.name = passage.out.name at name
    rw [name, registered] at viaRegistered
    exact (Option.some_inj.mp viaRegistered).symm
  · rintro rfl
    refine ⟨rfl, ?_⟩
    show (LinkHeader.read (LinkHeader.frame _ _)).source = _
    rw [LinkHeader.read_frame]

/-- A datagram that leaves does so by the interface of its route at once, or by the one that heard
the answer. -/
theorem via_of_leaves (earlier later : List Moment)
    (run : Run start (earlier ++ entry :: later) router)
    (event : entry.event = .receive octets interfaceName)
    (forwards : entry.before.Forwards octets interfaceName passage) (moment : Moment)
    (sent : String × Octets) (leaves : Leaves entry passage later moment sent) :
    ∃ via mac, (moment = entry ∧ via = passage.out ∨ moment.Binds passage.nextHop mac via) ∧
      sent = (via.name, passage.frame via.mac mac) ∧
      entry.before.registry.get? via.name = some via := by
  cases leaves with
  | atOnce mac _ known isSent =>
    rw [sent_at_once event forwards mac known, List.mem_singleton] at isSent
    exact ⟨passage.out, mac, Or.inl ⟨rfl, rfl⟩, isSent, forwards.out_registered⟩
  | released between rest _ mac via _ unknown split unsettled binds isSent =>
    obtain rfl := split
    obtain ⟨toEntry, toAnswer⟩ := run.between earlier between rest entry moment
    rw [sent_at_answer event forwards unknown between moment
      toAnswer unsettled mac via binds, Option.some_inj] at isSent
    have sameRegistry : moment.before.registry = entry.before.registry :=
      toAnswer.registry_eq.trans (entry.before.perform_keeps entry.now entry.event).1
    have ⟨_, _, _, learns, _, _⟩ := binds
    obtain ⟨_, accepted⟩ := learns.accepted
    exact ⟨via, mac, Or.inr binds, isSent.symm, sameRegistry ▸ accepted.registered⟩

/-- Where a forwarded datagram leaves, whatever happens before and in between. At once it leaves
by the interface of its route. Out of the queue it leaves by the interface that heard the first
answer, so as its route says exactly if that is the interface of the route. In both cases it does
leave, in a frame with nothing but its link addresses changed. -/
theorem leaves_by_route_iff (earlier later : List Moment)
    (run : Run start (earlier ++ entry :: later) router)
    (event : entry.event = .receive octets interfaceName)
    (forwards : entry.before.Forwards octets interfaceName passage) :
    (∀ moment sent, Leaves entry passage later moment sent → ∃ via mac,
      (moment = entry ∧ via = passage.out ∨ moment.Binds passage.nextHop mac via) ∧
      sent = (via.name, passage.frame via.mac mac) ∧
      (passage.KeepsRoute sent ↔ via = passage.out)) ∧
    (entry.before.neighbors.lookup? passage.nextHop ≠ none →
      ∃ sent, Leaves entry passage later entry sent) ∧
    (entry.before.neighbors.lookup? passage.nextHop = none →
      ∀ between answer rest mac via, later = between ++ answer :: rest →
        (∀ moment ∈ between, ¬ moment.Settles passage.nextHop) →
        answer.Binds passage.nextHop mac via →
        ∃ sent, Leaves entry passage later answer sent) := by
  refine ⟨?_, ?_, ?_⟩
  · intro moment sent leaves
    obtain ⟨via, mac, either, sentIs, registered⟩ :=
      via_of_leaves earlier later run event forwards moment sent leaves
    refine ⟨via, mac, either, sentIs, ?_⟩
    rw [sentIs]
    exact keepsRoute_iff entry.before.registry passage via mac forwards.out_registered registered
  · intro known
    obtain ⟨mac, found⟩ := Option.ne_none_iff_exists'.mp known
    have isSent := sent_at_once event forwards mac found
    exact ⟨_, .atOnce mac _ found (isSent ▸ List.mem_singleton_self _)⟩
  · rintro unknown between answer rest mac via rfl unsettled binds
    obtain ⟨toEntry, toAnswer⟩ := run.between earlier between rest entry answer
    exact ⟨_, .released between rest answer mac via _ unknown rfl unsettled binds
      (sent_at_answer event forwards unknown between answer
        toAnswer unsettled mac via binds)⟩

end Leaving

/-! ### One datagram, two places to answer -/

namespace Waiting

/-- The datagram comes in and waits. -/
def entry : Moment := ⟨Transit.router, 3, .receive Transit.frame "eth0"⟩

/-- The next hop answers, and an interface hears it. -/
def answer (via : Interface) : Moment :=
  ⟨entry.after, 5, .receive (Neighbor.replyFrame Stations.host via.mac via.address) via.name⟩

def passage : Passage :=
  ⟨Stations.inner, Transit.link, Transit.datagram, .direct Stations.outer 0, Stations.outer⟩

theorem run (via : Interface) : Run Transit.router [entry, answer via] (answer via).after :=
  .record [entry] (answer via) (.record [] entry .begin)

theorem forwards : entry.before.Forwards Transit.frame "eth0" passage :=
  ⟨⟨rfl, rfl, by decide, .inl rfl⟩, by decide, by decide, by decide, by decide +kernel, rfl⟩

theorem binds (via : Interface) (either : via ∈ [Stations.inner, Stations.outer]) :
    (answer via).Binds passage.nextHop Stations.host.mac via := by
  let packet : ArpPacket :=
    .overEthernet ArpPacket.reply Stations.host.mac Stations.host.address via.mac via.address
  refine ⟨_, packet, rfl, ⟨⟨⟨via.mac, Stations.host.mac, EtherType.arp⟩, ?_⟩, rfl, rfl⟩, ?_, rfl⟩
  · rcases List.mem_pair.mp either with rfl | rfl
    · exact ⟨by decide +kernel, by decide +kernel, by decide, .inl rfl⟩
    · exact ⟨by decide +kernel, by decide +kernel, by decide, .inl rfl⟩
  · show Stations.host.address = passage.nextHop
    decide +kernel

end Waiting

/-- The answer is heard where the datagram is to leave, and there it leaves. -/
theorem leaves_by_route_outer :
    ∃ sent, Leaves Waiting.entry Waiting.passage [Waiting.answer Stations.outer]
        (Waiting.answer Stations.outer) sent ∧
      Waiting.passage.KeepsRoute sent := by
  obtain ⟨leavesBy, -, released⟩ := leaves_by_route_iff [] [Waiting.answer Stations.outer]
    (Waiting.run Stations.outer) rfl Waiting.forwards
  obtain ⟨sent, leaves⟩ := released (by decide +kernel) [] _ [] Stations.host.mac Stations.outer
    rfl nofun (Waiting.binds Stations.outer (by decide))
  obtain ⟨via, mac, either, -, keeps⟩ := leavesBy _ sent leaves
  refine ⟨sent, leaves, keeps.mpr ?_⟩
  rcases either with ⟨-, isOut⟩ | ⟨octets, packet, event, learns, -, -⟩
  · exact isOut
  · obtain ⟨_, accepted⟩ := learns.accepted
    have name : "eth1" = via.name := (Event.receive.inj event).2
    have registered := accepted.registered
    rw [← name] at registered
    have outer : (Waiting.answer Stations.outer).before.registry.get? "eth1" =
      some Stations.outer := by decide +kernel
    exact Option.some_inj.mp (registered.symm.trans outer)

/-- The answer is heard elsewhere, and the datagram leaves there, against its route. -/
theorem not_leaves_by_route_inner :
    Run Transit.router [Waiting.entry, Waiting.answer Stations.inner]
        (Waiting.answer Stations.inner).after ∧
      Waiting.entry.before.Forwards Transit.frame "eth0" Waiting.passage ∧
      ∃ sent, Leaves Waiting.entry Waiting.passage [Waiting.answer Stations.inner]
          (Waiting.answer Stations.inner) sent ∧
        ¬ Waiting.passage.KeepsRoute sent := by
  have unknown : Waiting.entry.before.neighbors.lookup? Waiting.passage.nextHop = none := by
    decide +kernel
  have binds := Waiting.binds Stations.inner (by decide)
  have sent := sent_at_answer rfl Waiting.forwards unknown []
    (Waiting.answer Stations.inner) .begin nofun Stations.host.mac Stations.inner binds
  refine ⟨Waiting.run Stations.inner, Waiting.forwards, _,
    .released [] [] _ Stations.host.mac Stations.inner _ unknown rfl nofun binds sent, ?_⟩
  rintro ⟨name, -⟩
  exact absurd name (by decide)

end Ipv4Router.Router
