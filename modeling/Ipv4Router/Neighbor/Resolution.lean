/-
This file resolves the link addresses of neighbours. A frame for a known neighbour
is sent at once; a frame for an unknown one waits in the cache behind a broadcast
request. An answer releases the waiting frames, in order, through the interface on
which it came. Requests for an interface's own address are answered.
-/

import Ipv4Router.Effect
import Ipv4Router.Interface.Registry
import Ipv4Router.Neighbor.Cache

namespace Ipv4Router.Neighbor

/-! ### Frames -/

/-- The frame of an address resolution packet. -/
def packetFrame (linkDestination : MacAddress) (packet : ArpPacket) : Octets :=
  LinkHeader.frame ⟨linkDestination, packet.senderMac, EtherType.arp⟩ packet.octets

/-- The broadcast that asks who has an address. -/
def requestFrame (interface : Interface) (target : Ipv4Address) : Octets :=
  packetFrame .broadcast
    (.overEthernet ArpPacket.request interface.mac interface.address .zero target)

/-- The answer to a station that asked for the address of an interface. -/
def replyFrame (interface : Interface) (requesterMac : MacAddress)
    (requesterAddress : Ipv4Address) : Octets :=
  packetFrame requesterMac
    (.overEthernet ArpPacket.reply interface.mac interface.address requesterMac requesterAddress)

/-! ### Asking -/

/-- Asks for an address on an interface. -/
def ask (registry : Registry) (target : Ipv4Address) (interfaceName : String) : List Effect :=
  match registry.get? interfaceName with
  | none => [.note (.cannotAsk target interfaceName)]
  | some interface =>
    [.note (.askedFor target interfaceName),
      .transmit interfaceName (requestFrame interface target)]

/-- Starts to resolve an address, unless a request for it is outstanding. -/
def resolve (registry : Registry) (cache : Cache) (target : Ipv4Address) (interfaceName : String)
    (now : Nat) : Cache × List Effect :=
  match cache.startRequest target interfaceName now with
  | (cache, true) => (cache, ask registry target interfaceName)
  | (cache, false) => (cache, [])

/-- Lets a frame wait for an address that is being resolved; the frame is dropped if none is. -/
def hold (cache : Cache) (target : Ipv4Address) (frame : Octets) : Cache × Bool × List Effect :=
  match cache.enqueue? target frame with
  | some cache => (cache, true, [])
  | none => (cache, false, [.note (.refusedFrame target)])

/-- Sends a frame to the next hop out of an interface, or lets it wait behind a request. Only its
link addresses are rewritten. -/
def send (registry : Registry) (cache : Cache) (frame : Octets) (nextHop : Ipv4Address)
    (out : Interface) (now : Nat) : Cache × List Effect :=
  match cache.lookup? nextHop with
  | some mac => (cache, [.transmit out.name (readdress frame out.mac mac)])
  | none =>
    let (requested, isNew) := cache.startRequest nextHop out.name now
    let queued := (requested.enqueue? nextHop (readdress frame out.mac .zero)).getD requested
    (queued, if isNew then ask registry nextHop out.name else [.note (.heldFrame nextHop)])

/-! ### Answering and learning -/

/-- Answers a request for the interface's own address. -/
def answer (packet : ArpPacket) (interface : Interface) : List Effect :=
  if packet.targetAddress = interface.address then
    [.note (.answered packet.senderAddress interface.name),
      .transmit interface.name (replyFrame interface packet.senderMac packet.senderAddress)]
  else []

/-- The effects of releasing a request that was answered. -/
def release (request : Request) (address : Ipv4Address) (mac : MacAddress)
    (interface : Interface) : List Effect :=
  .note (.releasedFrames request.waiting.length address) ::
    request.waiting.map fun frame => .transmit interface.name (readdress frame interface.mac mac)

/-- Learns from a reply to the interface, and releases what waited for it. -/
def learnReply (cache : Cache) (packet : ArpPacket) (interface : Interface) (now : Nat) :
    Cache × List Effect :=
  if packet.targetAddress = interface.address then
    let address := packet.senderAddress
    let mac := packet.senderMac
    let (cache, request) := cache.learn address mac now
    (cache, .note (.learnedNeighbor address mac interface.name) ::
      match request with
      | some request => release request address mac interface
      | none => [])
  else (cache, [])

/-- Handles an address resolution packet received on an interface. -/
def receive (cache : Cache) (packet : ArpPacket) (interface : Interface) (now : Nat) :
    Cache × List Effect :=
  if packet.operation = ArpPacket.request then (cache, answer packet interface)
  else if packet.operation = ArpPacket.reply then learnReply cache packet interface now
  else (cache, [.note (.ignoredArpOperation packet.operation)])

/-! ### Sweeping -/

/-- The effects of what a sweep decided. -/
def Sweep.effects (registry : Registry) (sweep : Sweep) : List Effect :=
  (if sweep.forgotten = 0 then [] else [.note (.forgotBindings sweep.forgotten)]) ++
    (sweep.repeated.flatMap fun (target, interfaceName) => ask registry target interfaceName) ++
    sweep.abandoned.map fun request =>
      .note (.gaveUp request.target request.sent request.waiting.length)

/-- Sweeps the cache and acts on what the sweep decided. -/
def sweep (registry : Registry) (settings : Settings) (cache : Cache) (now : Nat) :
    Cache × List Effect :=
  let (cache, decided) := cache.sweep settings now
  (cache, decided.effects registry)

end Ipv4Router.Neighbor
