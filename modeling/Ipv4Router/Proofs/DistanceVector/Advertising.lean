/-
This file describes what one beat of the exchange of routes sends. Every interface
sends responses that together carry the routes that do not lead through it, those that
just went stale left out; each response is short enough to be sent, and can be read
from its frame. Whoever takes in an advertisement sends nothing.
-/

import Ipv4Router.Proofs.Neighbor.Resolution
import Ipv4Router.Proofs.Route.Table
import Ipv4Router.Proofs.Wire.Messages

namespace Ipv4Router

/-! ### Responses -/

namespace RipMessage

/-- The blocks that entries are sent in; one empty block if there are none. -/
def blocks (entries : List RipEntry) : List (List RipEntry) :=
  if entries.isEmpty then [[]] else Blocks.split maxEntries entries

section InBlocks

variable (entries : List RipEntry)

theorem responses_eq : responses entries = (blocks entries).map response := by
  unfold responses blocks
  split <;> rfl

theorem flatten_blocks : (blocks entries).flatten = entries := by
  unfold blocks
  split
  · rename_i empty
    rw [List.isEmpty_iff.mp empty]
    rfl
  · exact Blocks.flatten_split maxEntries (by decide) entries

theorem blocks_ne_nil : blocks entries ≠ [] := by
  unfold blocks
  split
  · exact List.cons_ne_nil _ _
  · rename_i nonempty
    exact Blocks.split_ne_nil maxEntries (by decide) entries (mt List.isEmpty_iff.mpr nonempty)

theorem length_le_of_mem_blocks (block : List RipEntry) (member : block ∈ blocks entries) :
    block.length ≤ maxEntries := by
  unfold blocks at member
  split at member
  · rw [List.mem_singleton.mp member]
    exact Nat.zero_le _
  · exact Blocks.length_le_of_mem_split maxEntries entries block member

/-- Only the last block may have room for more. -/
theorem length_of_mem_dropLast_blocks (block : List RipEntry)
    (member : block ∈ (blocks entries).dropLast) : block.length = maxEntries := by
  unfold blocks at member
  split at member
  · cases member
  · exact Blocks.length_of_mem_dropLast_split maxEntries (by decide) entries block member

end InBlocks

/-- Every response that the router builds has one block of the entries. -/
theorem eq_response_of_mem_responses (entries : List RipEntry) (message : RipMessage)
    (member : message ∈ responses entries) :
    ∃ block : List RipEntry, message = response block ∧ block.length ≤ maxEntries := by
  rw [responses_eq] at member
  obtain ⟨block, isBlock, rfl⟩ := List.mem_map.mp member
  exact ⟨block, rfl, length_le_of_mem_blocks entries block isBlock⟩

/-- A response that the router builds is one that it can send and that can be read. -/
theorem sendable_of_mem_responses (entries : List RipEntry) (message : RipMessage)
    (member : message ∈ responses entries) :
    message.version ≠ 0 ∧ message.entries.length ≤ maxEntries := by
  have versioned : version2 ≠ 0 := by decide
  obtain ⟨block, rfl, few⟩ := eq_response_of_mem_responses entries message member
  exact ⟨versioned, few⟩

/-- The responses carry the entries, all of them in order. -/
theorem flatMap_entries_responses (entries : List RipEntry) :
    (responses entries).flatMap RipMessage.entries = entries := by
  rw [responses_eq, List.flatMap_map]
  exact List.flatMap_id.trans (flatten_blocks entries)

/-- The responses carry the entries and no others. -/
theorem mem_responses (entries : List RipEntry) (entry : RipEntry) :
    (∃ message ∈ responses entries, entry ∈ message.entries) ↔ entry ∈ entries := by
  rw [← List.mem_flatMap, flatMap_entries_responses]

end RipMessage

namespace DistanceVector

/-! ### Sending -/

section Sending

variable (ttl : UInt8)

theorem transmission?_send (interface : Interface) (recipient : Recipient)
    (message : RipMessage) :
    (send ttl interface recipient message).transmission? =
      (messageFrame? ttl interface recipient message).map fun frame => (interface.name, frame) := by
  unfold send
  split <;> rename_i built <;> rw [built] <;> rfl

theorem transmissions_respond (interface : Interface) (recipient : Recipient)
    (entries : List RipEntry) :
    Effect.transmissions (respond ttl interface recipient entries) =
      ((RipMessage.responses entries).filterMap (messageFrame? ttl interface recipient)).map
        fun frame => (interface.name, frame) := by
  rw [Effect.transmissions, respond, List.filterMap_map, List.map_filterMap]
  exact List.filterMap_congr fun message _ => transmission?_send ttl interface recipient message

/-- A response with one block of entries is built, and conveyed. -/
theorem messageFrame?_response (interface : Interface) (recipient : Recipient)
    (block : List RipEntry) (few : block.length ≤ RipMessage.maxEntries) :
    ∃ frame datagram segment,
      messageFrame? ttl interface recipient (.response block) = some frame ∧
        Conveys ttl interface recipient (.response block) frame datagram segment := by
  have versioned : RipMessage.version2 ≠ 0 := by decide
  obtain ⟨frame, built⟩ := messageFrame?_isSome ttl interface recipient (.response block) few
  obtain ⟨datagram, segment, conveys⟩ :=
    messageFrame?_conveys ttl interface recipient (.response block) frame versioned built
  exact ⟨frame, datagram, segment, built, conveys⟩

/-- Every frame that entries are sent in conveys a message to the recipient. -/
theorem conveys_of_mem_respond (interface : Interface) (recipient : Recipient)
    (entries : List RipEntry) (sent : String × Octets)
    (member : sent ∈ Effect.transmissions (respond ttl interface recipient entries)) :
    sent.1 = interface.name ∧ ∃ message datagram segment,
      Conveys ttl interface recipient message sent.2 datagram segment := by
  rw [transmissions_respond] at member
  obtain ⟨frame, among, rfl⟩ := List.mem_map.mp member
  obtain ⟨message, isResponse, built⟩ := List.mem_filterMap.mp among
  have versioned := (RipMessage.sendable_of_mem_responses entries message isResponse).1
  exact ⟨rfl, message, messageFrame?_conveys ttl interface recipient message frame versioned built⟩

/-- Every interface sends what it advertises to everyone, one interface after the other. -/
theorem transmissions_advertise (registry : Registry) (table : RouteTable) :
    Effect.transmissions (advertise registry table ttl) =
      registry.interfaces.flatMap fun interface => Effect.transmissions
        (respond ttl interface .everyone (table.advertised interface.name interface.address)) := by
  rw [advertise, Effect.transmissions_append, Effect.transmissions_note]
  exact (List.append_nil _).trans List.filterMap_flatMap

end Sending

/-- An advertisement is absorbed in silence. -/
theorem Hearing.transmissions_absorb (hearing : Hearing) (table : RouteTable)
    (entries : List RipEntry) :
    Effect.transmissions (hearing.absorb table entries).2.2 = [] :=
  Effect.transmissions_map_note id _

/-- Whoever sends a message of the protocol is sent messages of the protocol only. -/
theorem conveys_of_mem_receive (registry : Registry) (settings : Settings) (table : RouteTable)
    (datagram : Datagram) (segment : UdpSegment) (peer : MacAddress) (interface : Interface)
    (now : Nat) (carried : datagram.payload = .udp segment) (sent : String × Octets)
    (member : sent ∈ Effect.transmissions
      (receive registry settings table datagram peer interface now).2) :
    sent.1 = interface.name ∧ ∃ message reply answer,
      Conveys settings.ttl interface ⟨datagram.source, peer, segment.sourcePort⟩ message sent.2
        reply answer := by
  unfold receive at member
  simp only [carried] at member
  split at member
  · cases member
  · split at member
    · cases member
    · split at member
      · exact conveys_of_mem_respond settings.ttl interface _ _ sent member
      · split at member
        · cases member
        · change sent ∈ Effect.transmissions (Hearing.absorb _ _ _).2.2 at member
          rw [Hearing.transmissions_absorb] at member
          cases member

/-! ### Telling -/

/-- The frames tell a recipient the entries. Each conveys one response with a block of at most 25
entries; all blocks but the last are full; and one after the other they are the entries. -/
structure Tells (ttl : UInt8) (interface : Interface) (recipient : Recipient)
    (entries : List RipEntry) (blocks : List (List RipEntry)) (frames : List Octets) : Prop where
  nonempty : frames ≠ []
  whole : blocks.flatten = entries
  short : ∀ block ∈ blocks, block.length ≤ 25
  full : ∀ block ∈ blocks.dropLast, block.length = 25
  conveyed : List.Forall₂
    (fun block frame => ∃ datagram segment,
      Conveys ttl interface recipient ⟨.response, 2, block⟩ frame datagram segment)
    blocks frames

section Telling

variable (ttl : UInt8) (interface : Interface) (recipient : Recipient)

/-- None of the blocks is lost on the way into a frame. -/
theorem forall₂_conveys (blocks : List (List RipEntry))
    (short : ∀ block ∈ blocks, block.length ≤ RipMessage.maxEntries) :
    List.Forall₂
      (fun block frame => ∃ datagram segment,
        Conveys ttl interface recipient (.response block) frame datagram segment)
      blocks
      ((blocks.map RipMessage.response).filterMap (messageFrame? ttl interface recipient)) := by
  induction blocks with
  | nil => exact .nil
  | cons block rest inductionHypothesis =>
    obtain ⟨frame, datagram, segment, built, conveys⟩ := messageFrame?_response ttl interface
      recipient block (short block List.mem_cons_self)
    rw [List.map_cons, List.filterMap_cons_some built]
    exact .cons ⟨datagram, segment, conveys⟩
      (inductionHypothesis fun block member => short block (List.mem_cons_of_mem _ member))

/-- Whatever the entries are, the responses tell the recipient all of them. -/
theorem tells_responses (entries : List RipEntry) :
    Tells ttl interface recipient entries (RipMessage.blocks entries)
      ((RipMessage.responses entries).filterMap (messageFrame? ttl interface recipient)) := by
  have conveyed := forall₂_conveys ttl interface recipient (RipMessage.blocks entries)
    (RipMessage.length_le_of_mem_blocks entries)
  rw [← RipMessage.responses_eq] at conveyed
  refine ⟨fun silent => ?_, RipMessage.flatten_blocks entries,
    RipMessage.length_le_of_mem_blocks entries,
    RipMessage.length_of_mem_dropLast_blocks entries, conveyed⟩
  rw [silent] at conveyed
  exact RipMessage.blocks_ne_nil entries (List.forall₂_nil_right_iff.mp conveyed)

/-- Everyone on each link is told what is advertised there. -/
theorem tells_advertise (registry : Registry) (table : RouteTable) :
    ∃ frames : Interface → List Octets,
      Effect.transmissions (advertise registry table ttl) =
          (registry.interfaces.flatMap fun interface =>
            (frames interface).map fun frame => (interface.name, frame)) ∧
        ∀ interface : Interface, ∃ blocks, Tells ttl interface .everyone
          (table.advertised interface.name interface.address) blocks (frames interface) := by
  let frames (interface : Interface) : List Octets :=
    (RipMessage.responses (table.advertised interface.name interface.address)).filterMap
      (messageFrame? ttl interface .everyone)
  refine ⟨frames, ?_, fun interface => ⟨_, tells_responses ttl interface .everyone _⟩⟩
  rw [transmissions_advertise]
  exact List.flatMap_congr fun interface _ => transmissions_respond ttl interface .everyone _

end Telling

/-! ### One beat -/

section Beat

variable (registry : Registry) (settings : Settings) (table : RouteTable) (now : Nat)

/-- Taking out the stale routes sends nothing. -/
theorem transmissions_beat :
    Effect.transmissions (beat registry settings table now).2 =
      Effect.transmissions
        (advertise registry (table.expire now settings.timeout).1 settings.ttl) := by
  have quiet : Effect.transmissions ((table.expire now settings.timeout).2.map fun route =>
      .note (.timedOut route.destination route.mask route.gateway)) = [] :=
    Effect.transmissions_map_note _ _
  show Effect.transmissions (((table.expire now settings.timeout).2.map fun route =>
    .note (.timedOut route.destination route.mask route.gateway)) ++
      advertise registry (table.expire now settings.timeout).1 settings.ttl) = _
  rw [Effect.transmissions_append, quiet, List.nil_append]

/-- The frames of a beat are those of the responses to everyone, on every interface. -/
theorem mem_beat (sent : String × Octets) :
    sent ∈ Effect.transmissions (beat registry settings table now).2 ↔
      ∃ interface ∈ registry.interfaces,
        ∃ message ∈ RipMessage.responses ((table.expire now settings.timeout).1.advertised
          interface.name interface.address),
        messageFrame? settings.ttl interface .everyone message = some sent.2 ∧
          sent.1 = interface.name := by
  rw [transmissions_beat, transmissions_advertise]
  simp only [List.mem_flatMap, transmissions_respond, List.mem_map, List.mem_filterMap]
  constructor
  · rintro ⟨interface, registered, frame, ⟨message, isResponse, built⟩, rfl⟩
    exact ⟨interface, registered, message, isResponse, built, rfl⟩
  · rintro ⟨interface, registered, message, isResponse, built, named⟩
    exact ⟨interface, registered, sent.2, ⟨message, isResponse, built⟩, by rw [← named]⟩

/-- The entries that can be read from the frames of a beat are what every interface advertises of
the routes that did not go stale. -/
theorem carried_by_beat (entry : RipEntry) :
    (∃ sent ∈ Effect.transmissions (beat registry settings table now).2,
        ∃ message, Carries sent.2 message ∧ entry ∈ message.entries) ↔
      ∃ interface ∈ registry.interfaces, entry ∈
        (table.expire now settings.timeout).1.advertised interface.name interface.address := by
  constructor
  · rintro ⟨sent, isSent, message, carries, member⟩
    obtain ⟨interface, registered, response, isResponse, built, -⟩ :=
      (mem_beat registry settings table now sent).mp isSent
    have versioned := (RipMessage.sendable_of_mem_responses _ response isResponse).1
    obtain rfl := carries_unique sent.2 message response carries
      (messageFrame?_carries _ _ _ response sent.2 versioned built)
    exact ⟨interface, registered,
      (RipMessage.mem_responses _ entry).mp ⟨message, isResponse, member⟩⟩
  · rintro ⟨interface, registered, advertised⟩
    obtain ⟨message, isResponse, member⟩ := (RipMessage.mem_responses _ entry).mpr advertised
    obtain ⟨versioned, few⟩ := RipMessage.sendable_of_mem_responses _ message isResponse
    obtain ⟨frame, built⟩ := messageFrame?_isSome settings.ttl interface .everyone message few
    exact ⟨(interface.name, frame), (mem_beat registry settings table now _).mpr
      ⟨interface, registered, message, isResponse, built, rfl⟩, message,
      messageFrame?_carries _ _ _ message frame versioned built, member⟩

end Beat

end DistanceVector

end Ipv4Router
