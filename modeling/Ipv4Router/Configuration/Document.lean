/-
This file says how a configuration is written: the fields of its records in their
order, which of them may be left out, and how each is read. A file is read as UTF-8
text, and what was read must also make sense.
-/

import Ipv4Router.Configuration.Validation
import Ipv4Router.Json.Record

namespace Ipv4Router

open Json

/-! ### Scalars -/

/-- Reads an octet. -/
def readOctet : Reader UInt8 := fun text => do
  let (value, rest) ← readNatural 255 text
  return (UInt8.ofNat value, rest)

/-- Reads a 32-bit word. -/
def readWord32 : Reader UInt32 := fun text => do
  let (value, rest) ← readNatural 4294967295 text
  return (UInt32.ofNat value, rest)

/-- Reads a 64-bit number. -/
def readWord64 : Reader Nat := readNatural Number.greatest

/-! ### Interfaces -/

namespace InterfaceSetting

structure Draft where
  name : Option String := none
  subnet : Option Subnet := none
  mac : Option (Option String) := none

def fields : List (RecordField Draft) := [
  .of "name" Draft.name (fun draft value => { draft with name := some value }) readText,
  .of "address" Draft.subnet (fun draft value => { draft with subnet := some value })
    (readWritten Subnet.ofText?),
  .of "mac" Draft.mac (fun draft value => { draft with mac := some value })
    (readNullable readText)]

/-- An interface has a name and an address. -/
def ofDraft? (draft : Draft) : Option InterfaceSetting := do
  return { name := ← draft.name, subnet := ← draft.subnet, mac := draft.mac.getD none }

def read : Reader InterfaceSetting := readRecord fields {} ofDraft?

end InterfaceSetting

/-! ### Exchange of routes -/

namespace RoutingSetting

structure Draft where
  enabled : Option Bool := none
  updateSeconds : Option Nat := none
  timeoutSeconds : Option Nat := none
  ttl : Option UInt8 := none

def fields : List (RecordField Draft) := [
  .of "enabled" Draft.enabled (fun draft value => { draft with enabled := some value }) readBool,
  .of "update_interval_secs" Draft.updateSeconds
    (fun draft value => { draft with updateSeconds := some value }) readWord64,
  .of "timeout_secs" Draft.timeoutSeconds
    (fun draft value => { draft with timeoutSeconds := some value }) readWord64,
  .of "ttl" Draft.ttl (fun draft value => { draft with ttl := some value }) readOctet]

def ofDraft (draft : Draft) : RoutingSetting :=
  let default : RoutingSetting := {}
  { enabled := draft.enabled.getD default.enabled
    updateSeconds := draft.updateSeconds.getD default.updateSeconds
    timeoutSeconds := draft.timeoutSeconds.getD default.timeoutSeconds
    ttl := draft.ttl.getD default.ttl }

def read : Reader RoutingSetting := readRecord fields {} (some ∘ ofDraft)

end RoutingSetting

/-! ### Resolution of link addresses -/

namespace NeighborSetting

structure Draft where
  retryMilliseconds : Option Nat := none
  maxRequests : Option UInt32 := none
  bindingTimeoutSeconds : Option Nat := none

def fields : List (RecordField Draft) := [
  .of "retry_interval_ms" Draft.retryMilliseconds
    (fun draft value => { draft with retryMilliseconds := some value }) readWord64,
  .of "max_retries" Draft.maxRequests
    (fun draft value => { draft with maxRequests := some value }) readWord32,
  .of "entry_timeout_secs" Draft.bindingTimeoutSeconds
    (fun draft value => { draft with bindingTimeoutSeconds := some value }) readWord64]

def ofDraft (draft : Draft) : NeighborSetting :=
  let default : NeighborSetting := {}
  { retryMilliseconds := draft.retryMilliseconds.getD default.retryMilliseconds
    maxRequests := (draft.maxRequests.map UInt32.toNat).getD default.maxRequests
    bindingTimeoutSeconds := draft.bindingTimeoutSeconds.getD default.bindingTimeoutSeconds }

def read : Reader NeighborSetting := readRecord fields {} (some ∘ ofDraft)

end NeighborSetting

/-! ### Routes -/

namespace RouteSetting

structure Draft where
  destination : Option Subnet := none
  gateway : Option Ipv4Address := none
  interface : Option String := none
  cost : Option UInt32 := none

def fields : List (RecordField Draft) := [
  .of "destination" Draft.destination
    (fun draft value => { draft with destination := some value }) (readWritten Subnet.ofText?),
  .of "gateway" Draft.gateway (fun draft value => { draft with gateway := some value })
    (readWritten Ipv4Address.ofText?),
  .of "interface" Draft.interface (fun draft value => { draft with interface := some value })
    readText,
  .of "cost" Draft.cost (fun draft value => { draft with cost := some value }) readWord32]

/-- A route has a destination and an interface. -/
def ofDraft? (draft : Draft) : Option RouteSetting := do
  return {
    destination := ← draft.destination
    gateway := draft.gateway.getD .unspecified
    interface := ← draft.interface
    cost := draft.cost.getD 0 }

def read : Reader RouteSetting := readRecord fields {} ofDraft?

end RouteSetting

/-! ### Configurations -/

namespace Configuration

structure Draft where
  interfaces : Option (List InterfaceSetting) := none
  routing : Option RoutingSetting := none
  neighbors : Option NeighborSetting := none
  staticRoutes : Option (List RouteSetting) := none
  controlTtl : Option UInt8 := none

def fields : List (RecordField Draft) := [
  .of "interfaces" Draft.interfaces (fun draft value => { draft with interfaces := some value })
    (readList InterfaceSetting.read),
  .of "rip" Draft.routing (fun draft value => { draft with routing := some value })
    RoutingSetting.read,
  .of "arp" Draft.neighbors (fun draft value => { draft with neighbors := some value })
    NeighborSetting.read,
  .of "static_routes" Draft.staticRoutes
    (fun draft value => { draft with staticRoutes := some value }) (readList RouteSetting.read),
  .of "icmp_ttl" Draft.controlTtl (fun draft value => { draft with controlTtl := some value })
    readOctet]

/-- A configuration lists its interfaces. -/
def ofDraft? (draft : Draft) : Option Configuration := do
  return {
    interfaces := ← draft.interfaces
    routing := draft.routing.getD {}
    neighbors := draft.neighbors.getD {}
    staticRoutes := draft.staticRoutes.getD []
    controlTtl := draft.controlTtl.getD ControlMessage.defaultTtl }

def read : Reader Configuration := readRecord fields {} ofDraft?

/-- Reads a configuration from a text, without asking whether it makes sense. -/
def ofText (text : String) : Except ConfigurationFault Configuration :=
  match readWhole read text.toList with
  | .ok configuration => .ok configuration
  | .error fault => .error (.unparsable fault)

/-- Reads a configuration from the contents of a file, if there is one. -/
def load (contents : Option ByteArray) : Except ConfigurationFault Configuration := do
  match contents with
  | none => throw (.unreadable .notFound)
  | some octets =>
    match String.fromUTF8? octets with
    | none => throw (.unreadable .notText)
    | some text =>
      let configuration ← ofText text
      configuration.validate
      return configuration

end Configuration

end Ipv4Router
