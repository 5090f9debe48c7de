/-
This file lists all that a router warns of. Whatever it decides to send is built: a message of the
routing protocol has few entries, a report quotes little, and the echo of a request is no longer
than the request, which came in a datagram. What is left to warn of are the routes and the requests
on interfaces that the router does not have.
-/

import Ipv4Router.Proofs.Router.Delivery
import Ipv4Router.Proofs.Wire.Building

namespace Ipv4Router

/-! ### Effects -/

namespace Effect

/-- The effect is to write a warning. -/
def isWarning : Effect → Bool
  | transmit _ _ => false
  | note notice => notice.level == .warn

/-- None of the effects is to write a warning. -/
def Calm (effects : List Effect) : Prop := ∀ effect ∈ effects, effect.isWarning = false

theorem calm_of_any (effects : List Effect) (none : effects.any isWarning = false) :
    Calm effects :=
  fun effect member => Bool.eq_false_iff.mpr (List.any_eq_false.mp none effect member)

end Effect

/-! ### Control messages -/

/-- The echo of a control message that came in a datagram fits a datagram. -/
theorem ControlMessage.echoFrame?_of_read (ttl : UInt8) (octets : Octets) (datagram : Datagram)
    (interface : Interface) (peer : MacAddress) (message : IcmpMessage)
    (parsed : Datagram.read octets = .ok datagram) (carried : datagram.payload = .icmp message) :
    ∃ frame, echoFrame? ttl datagram interface peer = some frame := by
  have classified := Datagram.readPayload_of_read octets datagram parsed
  rw [carried] at classified
  obtain ⟨frame, built, -⟩ := echoFrame?_isEcho ttl datagram interface peer message
    (Datagram.read?_of_readPayload _ _ message classified).2
    (Datagram.readFrom_of_read octets datagram parsed).room
  exact ⟨frame, built⟩

/-! ### The exchange of routes -/

namespace DistanceVector

section Exchange

variable (ttl : UInt8) (interface : Interface) (recipient : Recipient)

/-- A message with few entries is built, as a segment in a datagram in a frame. -/
theorem layers_of_few (message : RipMessage)
    (few : message.entries.length ≤ RipMessage.maxEntries) : ∃ segment datagram frame,
      UdpSegment.assemble? interface.address recipient.address RipMessage.port recipient.port
          message.encode = some segment ∧
        Datagram.assemble? interface.address recipient.address UdpSegment.protocol ttl segment =
          some datagram ∧
        LinkHeader.assemble? ⟨recipient.mac, interface.mac, EtherType.ipv4⟩ datagram = some frame ∧
        messageFrame? ttl interface recipient message = some frame := by
  obtain ⟨frame, built⟩ := messageFrame?_isSome ttl interface recipient message few
  have assembled := built
  rw [← assembleMessage?_eq] at assembled
  obtain ⟨segment, segmentBuilt, rest⟩ := Option.bind_eq_some_iff.mp assembled
  obtain ⟨datagram, datagramBuilt, framed⟩ := Option.bind_eq_some_iff.mp rest
  exact ⟨segment, datagram, frame, segmentBuilt, datagramBuilt, framed, built⟩

/-- A message with few entries is sent. -/
theorem isWarning_send (message : RipMessage)
    (few : message.entries.length ≤ RipMessage.maxEntries) :
    (send ttl interface recipient message).isWarning = false := by
  obtain ⟨frame, built⟩ := messageFrame?_isSome ttl interface recipient message few
  rw [send, built]
  rfl

theorem calm_respond (entries : List RipEntry) :
    Effect.Calm (respond ttl interface recipient entries) :=
  List.forall_mem_map.mpr fun message member => isWarning_send ttl interface recipient message
    (RipMessage.sendable_of_mem_responses entries message member).2

variable (registry : Registry) (settings : Settings) (table : RouteTable)

theorem calm_askEveryone : Effect.Calm (askEveryone registry ttl) :=
  List.forall_mem_map.mpr fun interface _ => isWarning_send ttl interface _ _ (by decide)

theorem calm_beat (now : Nat) : Effect.Calm (beat registry settings table now).2 := by
  refine List.forall_mem_append.mpr ⟨List.forall_mem_map.mpr fun _ _ => rfl, ?_⟩
  refine List.forall_mem_append.mpr ⟨fun effect member => ?_, List.forall_mem_singleton.mpr rfl⟩
  obtain ⟨interface, -, responds⟩ := List.mem_flatMap.mp member
  exact calm_respond _ _ _ _ effect responds

theorem Hearing.calm_absorb (hearing : Hearing) (entries : List RipEntry) :
    Effect.Calm (hearing.absorb table entries).2.2 := by
  refine List.forall_mem_map.mpr fun notice member => ?_
  rcases List.mem_append.mp member with ofEntry | summary
  · obtain ⟨⟨entry, verdict⟩, -, noted⟩ := List.mem_filterMap.mp ofEntry
    cases verdict <;> cases noted <;> rfl
  · split at summary
    · cases summary
    · rw [List.mem_singleton.mp summary]
      rfl

theorem calm_receive (datagram : Datagram) (peer : MacAddress) (now : Nat) :
    Effect.Calm (receive registry settings table datagram peer interface now).2 := by
  unfold receive
  split
  · dsimp only
    split
    · exact Effect.calm_of_any _ rfl
    · split
      · exact Effect.calm_of_any _ rfl
      · split
        · exact List.forall_mem_cons.mpr ⟨rfl, calm_respond _ _ _ _⟩
        · split
          · exact Effect.calm_of_any _ rfl
          · exact Hearing.calm_absorb table _ _
  · exact Effect.calm_of_any _ rfl

end Exchange

end DistanceVector

/-! ### Neighbours -/

namespace Neighbor

section Asking

variable (registry : Registry) (cache : Cache) (now : Nat)

theorem calm_send (frame : Octets) (nextHop : Ipv4Address) (out : Interface)
    (registered : registry.get? out.name = some out) :
    Effect.Calm (send registry cache frame nextHop out now).2 := by
  cases found : cache.lookup? nextHop with
  | some mac =>
    rw [send_known _ _ _ _ _ _ _ found]
    exact Effect.calm_of_any _ rfl
  | none =>
    obtain ⟨queued, sends, -⟩ := send_unknown registry cache frame nextHop out now found
    rw [sends]
    dsimp only
    split
    · rw [ask, registered]
      exact Effect.calm_of_any _ rfl
    · exact Effect.calm_of_any _ rfl

theorem calm_receive (packet : ArpPacket) (interface : Interface) :
    Effect.Calm (receive cache packet interface now).2 := by
  unfold receive
  split
  · unfold answer
    split <;> exact Effect.calm_of_any _ rfl
  · split
    · by_cases heard : packet.targetAddress = interface.address
      · rw [learnReply_heard _ _ _ _ heard]
        refine List.forall_mem_cons.mpr ⟨rfl, ?_⟩
        split
        · exact List.forall_mem_cons.mpr ⟨rfl, List.forall_mem_map.mpr fun _ _ => rfl⟩
        · exact Effect.calm_of_any _ rfl
      · rw [learnReply, if_neg heard]
        exact Effect.calm_of_any _ rfl
    · exact Effect.calm_of_any _ rfl

/-- A sweep warns of the requests that it would repeat on an interface that there is not. -/
theorem warning_of_sweep (settings : Settings) (effect : Effect)
    (member : effect ∈ (sweep registry settings cache now).2) (warns : effect.isWarning = true) :
    ∃ request ∈ cache.requests, registry.get? request.interface = none ∧
      effect = .note (.cannotAsk request.target request.interface) := by
  rcases List.mem_append.mp member with forgotOrAsked | gaveUp
  · rcases List.mem_append.mp forgotOrAsked with forgot | asked
    · split at forgot
      · cases forgot
      · rw [List.mem_singleton.mp forgot] at warns
        cases warns
    · obtain ⟨⟨target, name⟩, repeated, asks⟩ := List.mem_flatMap.mp asked
      obtain ⟨request, due, same⟩ := List.mem_map.mp repeated
      obtain ⟨rfl, rfl⟩ := Prod.mk.inj same
      have pending := (List.mem_filter.mp due).1
      have asks : effect ∈ ask registry request.target request.interface := asks
      cases missing : registry.get? request.interface with
      | none =>
        rw [ask, missing] at asks
        exact ⟨request, pending, missing, List.mem_singleton.mp asks⟩
      | some interface =>
        rw [ask, missing] at asks
        exact absurd warns (Bool.eq_false_iff.mp (Effect.calm_of_any _ rfl effect asks))
  · obtain ⟨request, -, rfl⟩ := List.mem_map.mp gaveUp
    cases warns

end Asking

end Neighbor

namespace Router

/-! ### Steps -/

section Steps

variable (router : Router)

/-- The effect is to warn that a route or a request of the router names an interface that the router
does not have. -/
inductive Misses : Effect → Prop
  | route (route : Route) (inTable : route ∈ router.table.routes)
    (missing : router.registry.get? route.interface = none) (destination : Ipv4Address) :
    Misses (.note (.routeWithoutInterface destination route.interface))
  | request (request : Neighbor.Request) (pending : request ∈ router.neighbors.requests)
    (missing : router.registry.get? request.interface = none) :
    Misses (.note (.cannotAsk request.target request.interface))

/-- All that the effects warn of are interfaces that the router does not have. -/
def WarnsOfMissing (effects : List Effect) : Prop :=
  ∀ effect ∈ effects, effect.isWarning = true → router.Misses effect

theorem warnsOfMissing_of_calm (effects : List Effect) (calm : Effect.Calm effects) :
    router.WarnsOfMissing effects :=
  fun effect member warns => absurd warns (Bool.eq_false_iff.mp (calm effect member))

section Datagrams

variable (datagram : Datagram) (arrival : Arrival)

theorem calm_report (problem : ControlMessage.Problem) :
    Effect.Calm (router.report problem datagram arrival) := by
  unfold report
  dsimp only
  split <;> exact Effect.calm_of_any _ rfl

/-- A request that came in a datagram is echoed. -/
theorem calm_echo (octets : Octets) (message : IcmpMessage)
    (parsed : Datagram.read octets = .ok datagram) (carried : datagram.payload = .icmp message) :
    Effect.Calm (router.echo datagram message arrival) := by
  obtain ⟨frame, built⟩ := ControlMessage.echoFrame?_of_read router.settings.controlTtl octets
    datagram arrival.interface arrival.peer message parsed carried
  unfold echo
  dsimp only
  split
  · rw [built]
    exact Effect.calm_of_any _ rfl
  · exact Effect.calm_of_any _ rfl

theorem calm_deliver (octets : Octets) (parsed : Datagram.read octets = .ok datagram) :
    Effect.Calm (router.deliver datagram arrival).2 := by
  unfold deliver
  split
  · exact router.calm_report datagram arrival _
  · split
    · rename_i message carried
      exact router.calm_echo datagram arrival octets message parsed carried
    · split
      · unfold exchangeRoutes
        split
        · exact DistanceVector.calm_receive _ _ _ _ _ _ _
        · exact Effect.calm_of_any _ rfl
      · exact router.calm_report datagram arrival _
    · exact router.calm_report datagram arrival _

theorem warnsOfMissing_route (frame : Octets) :
    router.WarnsOfMissing (router.route frame datagram arrival).2 := by
  unfold route
  dsimp only
  split
  · exact router.warnsOfMissing_of_calm _
      (List.forall_mem_cons.mpr ⟨rfl, router.calm_report datagram arrival _⟩)
  · rename_i route chosen
    split
    · rename_i missing
      refine List.forall_mem_singleton.mpr fun _ => ?_
      exact .route route (router.table.lookup?_spec _ _ chosen).1 missing datagram.destination
    · rename_i out registered
      -- A request for the next hop goes out of the same interface, which is there.
      have named := (Keyed.mem_of_find? _ _ _ _ registered).2
      exact router.warnsOfMissing_of_calm _ (List.forall_mem_cons.mpr ⟨rfl,
        Neighbor.calm_send _ _ _ _ _ out (named.symm ▸ registered)⟩)

theorem warnsOfMissing_handleDatagram (frame octets : Octets)
    (parsed : Datagram.read octets = .ok datagram) :
    router.WarnsOfMissing (router.handleDatagram frame datagram arrival).2 := by
  unfold handleDatagram
  split
  · exact router.warnsOfMissing_of_calm _ (Effect.calm_of_any _ rfl)
  · split
    · exact router.warnsOfMissing_of_calm _ (router.calm_deliver datagram arrival octets parsed)
    · unfold forward
      split
      · exact router.warnsOfMissing_of_calm _ (router.calm_report datagram arrival _)
      · split
        · exact router.warnsOfMissing_of_calm _ (Effect.calm_of_any _ rfl)
        · exact router.warnsOfMissing_route datagram arrival _

end Datagrams

variable (now : Nat)

theorem warnsOfMissing_receive (octets : Octets) (interfaceName : String) :
    router.WarnsOfMissing (router.receive octets interfaceName now).2 := by
  have silent (effects : List Effect) (calm : Effect.Calm effects) :=
    router.warnsOfMissing_of_calm effects calm
  unfold receive
  split
  · exact silent _ (Effect.calm_of_any _ rfl)
  · split
    · exact silent _ (Effect.calm_of_any _ rfl)
    · rename_i frame decoded
      unfold handleFrame
      dsimp only
      split
      · exact silent _ (Effect.calm_of_any _ rfl)
      · split
        · exact silent _ (Effect.calm_of_any _ rfl)
        · split
          · exact silent _ (Neighbor.calm_receive router.neighbors now _ _)
          · rename_i datagram carried
            have whole : Frame.read octets = .ok ⟨frame.link, .ipv4 datagram⟩ := by
              rw [← carried]
              exact decoded
            exact router.warnsOfMissing_handleDatagram datagram _ octets _
              (Frame.read_ipv4 octets _ datagram whole).2.2.2
          · exact silent _ (Effect.calm_of_any _ rfl)

/-- Whatever happens, a router warns of nothing but interfaces that it does not have. -/
theorem warnsOfMissing_perform (event : Event) :
    router.WarnsOfMissing (router.perform now event).2 := by
  cases event with
  | prepare =>
    show router.WarnsOfMissing (router.prepare now).2
    unfold prepare
    split
    · exact router.warnsOfMissing_of_calm _
        (List.forall_mem_cons.mpr ⟨rfl, DistanceVector.calm_askEveryone _ _⟩)
    · exact router.warnsOfMissing_of_calm _ (Effect.calm_of_any _ rfl)
  | receive octets interfaceName => exact router.warnsOfMissing_receive now octets interfaceName
  | advertise => exact router.warnsOfMissing_of_calm _ (DistanceVector.calm_beat _ _ _ _)
  | sweep =>
    intro effect member warns
    obtain ⟨request, pending, missing, rfl⟩ :=
      Neighbor.warning_of_sweep _ _ _ _ effect member warns
    exact .request request pending missing

end Steps

theorem Misses.not_unbuilt {router : Router} {effect : Effect} (misses : router.Misses effect) :
    (∀ command name, effect ≠ .note (.unbuiltMessage command name)) ∧
      ∀ source, effect ≠ .note (.unbuiltEcho source) := by
  cases misses <;> exact ⟨nofun, nofun⟩

/-- A router can build whatever it decides to send, and does so within its buffers. A control
message that came in a datagram, of whatever length, is echoed; a report about a datagram is built
unless the datagram may not be reported about; so are the requests for link addresses and the
answers to them. The messages of the routing protocol have at most 504 octets and are built as a
segment, as a datagram and as a frame. So nothing that ever happens to a router makes it warn that
it could not build a message: all that it warns of are interfaces that it does not have. -/
theorem builds_what_it_sends :
    (∀ (ttl : UInt8) (octets : Octets) (datagram : Datagram) (interface : Interface)
        (peer : MacAddress), Datagram.read octets = .ok datagram →
      (∀ message, datagram.payload = .icmp message → ∃ frame,
        ControlMessage.assembleEcho? ttl datagram interface peer = some frame ∧
          ControlMessage.echoFrame? ttl datagram interface peer = some frame) ∧
      ∀ problem,
        ControlMessage.assembleReport? ttl problem datagram interface peer =
            ControlMessage.reportFrame? ttl problem datagram interface peer ∧
          (ControlMessage.reportFrame? ttl problem datagram interface peer = none ↔
            ControlMessage.isReportable datagram ≠ true)) ∧
    (∀ (interface : Interface) (target : Ipv4Address),
      Neighbor.assembleRequest? interface target =
        some (Neighbor.requestFrame interface target)) ∧
    (∀ (interface : Interface) (requesterMac : MacAddress) (requesterAddress : Ipv4Address),
      Neighbor.assembleReply? interface requesterMac requesterAddress =
        some (Neighbor.replyFrame interface requesterMac requesterAddress)) ∧
    (∀ (ttl : UInt8) (interface : Interface) (recipient : DistanceVector.Recipient)
        (message : RipMessage), message = .wholeTableRequest ∨
          (∃ entries, message ∈ RipMessage.responses entries) →
      message.encode.length ≤ 504 ∧ ∃ segment datagram frame,
        UdpSegment.assemble? interface.address recipient.address RipMessage.port recipient.port
            message.encode = some segment ∧
          Datagram.assemble? interface.address recipient.address UdpSegment.protocol ttl segment =
            some datagram ∧
          LinkHeader.assemble? ⟨recipient.mac, interface.mac, EtherType.ipv4⟩ datagram =
            some frame ∧
          DistanceVector.messageFrame? ttl interface recipient message = some frame) ∧
    ∀ (moment : Moment), ∀ effect ∈ (moment.before.perform moment.now moment.event).2,
      (∀ command name, effect ≠ .note (.unbuiltMessage command name)) ∧
        (∀ source, effect ≠ .note (.unbuiltEcho source)) ∧
        (effect.isWarning = true → moment.before.Misses effect) := by
  refine ⟨fun ttl octets datagram interface peer parsed => ⟨fun message carried => ?_,
      fun problem => ⟨ControlMessage.assembleReport?_eq _ _ _ _ _,
        ControlMessage.reportFrame?_eq_none_iff _ _ _ _ _⟩⟩,
    fun interface target => Neighbor.assemblePacket?_eq _ _,
    fun interface requesterMac requesterAddress => Neighbor.assemblePacket?_eq _ _,
    fun ttl interface recipient message sent => ?_, fun moment effect member => ?_⟩
  · obtain ⟨frame, built⟩ := ControlMessage.echoFrame?_of_read ttl octets datagram interface peer
      message parsed carried
    exact ⟨frame, (ControlMessage.assembleEcho?_eq _ _ _ _).trans built, built⟩
  · have few : message.entries.length ≤ RipMessage.maxEntries := by
      rcases sent with rfl | ⟨entries, member⟩
      · decide
      · exact (RipMessage.sendable_of_mem_responses entries message member).2
    exact ⟨message.length_encode_le few, DistanceVector.layers_of_few _ _ _ message few⟩
  · have misses := moment.before.warnsOfMissing_perform moment.now moment.event effect member
    refine ⟨?_, ?_, misses⟩
    · rintro command name rfl
      exact (misses rfl).not_unbuilt.1 command name rfl
    · rintro source rfl
      exact (misses rfl).not_unbuilt.2 source rfl

namespace Longest

/-- An echo request that fills the longest datagram. -/
def request : IcmpMessage := .build IcmpMessage.echoRequest 0 (List.replicate 65511 0)

theorem length_request : request.octets.length = 65515 := by
  have body : request.body = List.replicate 65511 0 := rfl
  rw [IcmpMessage.octets, List.length_append, List.length_append, Octets.length_ofWord16, body,
    List.length_replicate]
  rfl

end Longest

/-- The longest datagram is echoed. -/
theorem builds_what_it_sends_longest :
    ∃ octets, octets.length = 65535 ∧
      Datagram.read octets = .ok ⟨octets, .icmp Longest.request⟩ ∧
      ∃ frame, ControlMessage.echoFrame? 64 ⟨octets, .icmp Longest.request⟩ Stations.inner
        Stations.outer.mac = some frame := by
  have room : Ipv4Header.size + Longest.request.octets.length < 65536 := by
    rw [Longest.length_request]
    decide
  obtain ⟨octets, built⟩ : ∃ octets, Datagram.encode? (.ofParts 10 0 0 9) (.ofParts 10 0 0 1)
      IcmpMessage.protocol 64 Longest.request.octets = some octets :=
    ⟨_, Datagram.encode?_eq_some _ _ _ _ _ room⟩
  have encloses := Datagram.encloses_of_encode? _ _ _ _ _ _ built
  have parsed := encloses.read _ (Datagram.readPayload_icmp Longest.request)
  obtain ⟨frame, -, echoed⟩ := (builds_what_it_sends.1 64 octets ⟨octets, .icmp Longest.request⟩
    Stations.inner Stations.outer.mac parsed).1 Longest.request rfl
  refine ⟨octets, ?_, parsed, frame, echoed⟩
  rw [encloses.size_eq, Longest.length_request]

end Router

end Ipv4Router
