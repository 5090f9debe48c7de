import Ipv4Router.Octets
import Ipv4Router.Blocks
import Ipv4Router.Checksum
import Ipv4Router.Keyed
import Ipv4Router.Column
import Ipv4Router.Address.Digits
import Ipv4Router.Address.Ipv4
import Ipv4Router.Address.Mac
import Ipv4Router.Address.Subnet
import Ipv4Router.Wire.Malformed
import Ipv4Router.Wire.Link
import Ipv4Router.Wire.Arp
import Ipv4Router.Wire.Udp
import Ipv4Router.Wire.Icmp
import Ipv4Router.Wire.Datagram
import Ipv4Router.Wire.Rip
import Ipv4Router.Wire.Frame
import Ipv4Router.Interface.Basic
import Ipv4Router.Interface.Registry
import Ipv4Router.Route.Basic
import Ipv4Router.Route.Table
import Ipv4Router.Neighbor.Cache
import Ipv4Router.ControlMessage
import Ipv4Router.Notice
import Ipv4Router.Effect
import Ipv4Router.Neighbor.Resolution
import Ipv4Router.DistanceVector.Relaxation
import Ipv4Router.DistanceVector.Exchange
import Ipv4Router.Router.Basic
import Ipv4Router.Router.Reception
import Ipv4Router.Timeline
import Ipv4Router.Json.Reader
import Ipv4Router.Json.Quoted
import Ipv4Router.Json.Number
import Ipv4Router.Json.Skipping
import Ipv4Router.Json.Value
import Ipv4Router.Json.Record
import Ipv4Router.Configuration.Basic
import Ipv4Router.Configuration.Validation
import Ipv4Router.Configuration.Document
import Ipv4Router.Configuration.Setup
import Ipv4Router.LinkPorts
import Ipv4Router.Hex
import Ipv4Router.FrameLine
import Ipv4Router.CommandLine
import Ipv4Router.Main
import Ipv4Router.Proofs.Checksum
import Ipv4Router.Proofs.Wire.Built
import Ipv4Router.Proofs.Wire.Ageing
import Ipv4Router.Proofs.Wire.Received
import Ipv4Router.Proofs.Reporting
import Ipv4Router.Proofs.Keyed
import Ipv4Router.Proofs.Interface.History
import Ipv4Router.Proofs.Blocks
import Ipv4Router.Proofs.Route.Lookup
import Ipv4Router.Proofs.Neighbor.Cache
import Ipv4Router.Proofs.Forwarding
import Ipv4Router.Proofs.Neighbor.Ledger
import Ipv4Router.Proofs.Neighbor.Conservation
import Ipv4Router.Proofs.DistanceVector.Relaxation
import Ipv4Router.Proofs.DistanceVector.BestOffers
import Ipv4Router.Proofs.DistanceVector.Confluence
import Ipv4Router.Proofs.DistanceVector.Network
import Ipv4Router.Proofs.DistanceVector.Soundness
import Ipv4Router.Proofs.DistanceVector.LoopFreedom
import Ipv4Router.Proofs.DistanceVector.FixedPoint
import Ipv4Router.Proofs.Wire.Segments
import Ipv4Router.Proofs.Wire.Messages
import Ipv4Router.Proofs.Wire.Grammar
import Ipv4Router.Proofs.DistanceVector.Advertising
import Ipv4Router.Proofs.Router.Acceptance
import Ipv4Router.Proofs.Router.Run
import Ipv4Router.Proofs.Router.Provenance
import Ipv4Router.Proofs.Router.Unambiguous
import Ipv4Router.Proofs.Router.Ageing
import Ipv4Router.Proofs.Router.Egress
import Ipv4Router.Proofs.Router.TransitPayload
import Ipv4Router.Proofs.Router.Confinement
import Ipv4Router.Proofs.Router.AddressExchange
import Ipv4Router.Proofs.Router.Preparation
import Ipv4Router.Proofs.Router.Schedule
import Ipv4Router.Proofs.Timeline
import Ipv4Router.Proofs.Router.Permanence
import Ipv4Router.Proofs.Router.Loopback
import Ipv4Router.Proofs.Router.Advertisement
import Ipv4Router.Proofs.Wire.Canonical
import Ipv4Router.Proofs.Wire.Building
import Ipv4Router.Proofs.Router.Warnings
import Ipv4Router.Proofs.Router.KnownInterfaces
import Ipv4Router.Proofs.Router.Delivery
import Ipv4Router.Proofs.Router.ErrorReports
import Ipv4Router.Proofs.Wire.Reading
import Ipv4Router.Proofs.Wire.RoundTrip
import Ipv4Router.Proofs.Neighbor.Retries
import Ipv4Router.Proofs.Router.Waiting
import Ipv4Router.Proofs.Router.Vigil
import Ipv4Router.Proofs.Timeline.Beats
import Ipv4Router.Proofs.Router.Staleness
import Ipv4Router.Proofs.Timeline.Host
import Ipv4Router.Proofs.Timeline.Lifecycle
import Ipv4Router.Proofs.Route.Specificity
import Ipv4Router.Proofs.Route.History
import Ipv4Router.Proofs.Configuration.Validation
import Ipv4Router.Proofs.Configuration
import Ipv4Router.Proofs.Router.Specificity
import Ipv4Router.Proofs.Router.Queries
import Ipv4Router.Proofs.Router.Corruption
