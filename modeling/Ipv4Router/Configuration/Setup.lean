/-
This file sets a router up from its configuration. Interfaces without a configured
link address take the host's. Configured routes are put into the table at once, and a
router with configured routes does not exchange routes.
-/

import Ipv4Router.Configuration.Validation
import Ipv4Router.Router.Basic

namespace Ipv4Router

namespace InterfaceSetting

/-- The link address of a configured interface. -/
def macAddress (hostMac? : String → Option MacAddress) (setting : InterfaceSetting) :
    Except ConfigurationFault MacAddress :=
  match setting.mac with
  | some written =>
    match MacAddress.ofText? written with
    | some mac => .ok mac
    | none => .error (.invalidMac setting.name written)
  | none =>
    match hostMac? setting.name with
    | some mac => .ok mac
    | none => .error (.missingMac setting.name)

/-- The configured interface. -/
def build (hostMac? : String → Option MacAddress) (setting : InterfaceSetting) :
    Except ConfigurationFault Interface := do
  return {
    name := setting.name
    address := setting.subnet.address
    mask := setting.subnet.mask
    mac := ← setting.macAddress hostMac? }

end InterfaceSetting

/-- The route that a setting puts into the table. -/
def RouteSetting.route (setting : RouteSetting) (now : Nat) : Route where
  destination := setting.destination.network
  mask := setting.destination.mask
  gateway := setting.gateway
  interface := setting.interface
  cost := setting.cost
  updatedAt := now
  origin := .static

namespace Configuration

/-- The configured interfaces. -/
def registry (configuration : Configuration) (hostMac? : String → Option MacAddress) :
    Except ConfigurationFault Registry := do
  return .ofList (← configuration.interfaces.mapM (InterfaceSetting.build hostMac?))

/-- The configured routes. -/
def routes (configuration : Configuration) (now : Nat) : List Route :=
  configuration.staticRoutes.map fun setting => setting.route now

/-- The table of the configured routes. -/
def table (configuration : Configuration) (now : Nat) : RouteTable :=
  (configuration.routes now).foldl (fun table route => (table.insert route).1) .empty

/-- Routes are exchanged only where none are configured. -/
def routingEnabled (configuration : Configuration) : Bool :=
  configuration.routing.enabled && configuration.staticRoutes.isEmpty

/-- The configured settings. -/
def settings (configuration : Configuration) : RouterSettings where
  routing := {
    updateInterval := 1000 * configuration.routing.updateSeconds
    timeout := 1000 * configuration.routing.timeoutSeconds
    ttl := configuration.routing.ttl }
  neighbors := {
    retryInterval := configuration.neighbors.retryMilliseconds
    maxRequests := configuration.neighbors.maxRequests
    bindingTimeout := 1000 * configuration.neighbors.bindingTimeoutSeconds }
  controlTtl := configuration.controlTtl
  routingEnabled := configuration.routingEnabled

end Configuration

/-- The configured router. -/
def Router.ofConfiguration (configuration : Configuration)
    (hostMac? : String → Option MacAddress) (now : Nat) :
    Except ConfigurationFault Router := do
  configuration.validate
  return {
    registry := ← configuration.registry hostMac?
    settings := configuration.settings
    table := configuration.table now }

end Ipv4Router
