/-
This file applies a neighbour's advertisement to the route table. Every advertised
entry gets a verdict: it installs a route, improves one, refreshes the one that it
once made, or changes nothing. Only routes learned from neighbours are changed, and
the cost of a route is one more than the metric it was advertised with.
-/

import Ipv4Router.Effect

namespace Ipv4Router.DistanceVector

/-- What an advertised entry does to the table. -/
inductive Verdict
  | malformed
  | unreachable
  | install (cost : UInt32)
  | improve (cost : UInt32) (previous : Route)
  | refresh
  | keep
deriving DecidableEq

/-- Where an advertisement comes from: the neighbour, the interface, and the time. -/
structure Hearing where
  advertiser : Ipv4Address
  interface : String
  now : Nat
deriving DecidableEq

namespace Hearing

/-- What an entry does to the route that the table has for its destination. -/
def judge (hearing : Hearing) (existing : Option Route) (entry : RipEntry) : Verdict :=
  if !entry.isInet || !entry.isNetwork then .malformed
  else if RipEntry.infinity - 1 ≤ entry.metric then .unreachable
  else
    let cost := entry.metric + 1
    match existing with
    | none => .install cost
    | some route =>
      if route.origin ≠ .learned then .keep
      else if cost < route.cost then .improve cost route
      else if route.gateway = hearing.advertiser ∧ route.interface = hearing.interface ∧
          cost = route.cost then .refresh
      else .keep

/-- The table after a verdict on an entry. -/
def apply (hearing : Hearing) (table : RouteTable) (entry : RipEntry) : Verdict → RouteTable
  | .install cost =>
    (table.insert (.learned entry.address entry.mask hearing.advertiser hearing.interface cost
      hearing.now)).1
  | .improve cost _ =>
    (table.update entry.address entry.mask hearing.advertiser hearing.interface hearing.now
      (some cost)).1
  | .refresh =>
    (table.update entry.address entry.mask hearing.advertiser hearing.interface hearing.now
      none).1
  | _ => table

/-- What is noted about a verdict on an entry. -/
def notice? (hearing : Hearing) (entry : RipEntry) : Verdict → Option Notice
  | .malformed => some (.ignoredEntry entry hearing.advertiser)
  | .install cost =>
    some (.newRoute entry.address entry.mask hearing.advertiser hearing.interface cost)
  | .improve cost previous =>
    some (.betterRoute entry.address entry.mask hearing.advertiser hearing.interface cost
      previous.cost previous.gateway)
  | _ => none

end Hearing

/-- The verdict added a route or made one better. -/
def Verdict.isChange : Verdict → Bool
  | .install _ => true
  | .improve _ _ => true
  | _ => false

namespace Hearing

/-- The verdict on an entry, and the table after it. -/
def relax (hearing : Hearing) (table : RouteTable) (entry : RipEntry) : RouteTable × Verdict :=
  let verdict := hearing.judge (table.find? entry.address entry.mask) entry
  (hearing.apply table entry verdict, verdict)

/-- The verdicts on the entries of an advertisement, one after the other, and the table after
them. -/
def relaxAll (hearing : Hearing) : RouteTable → List RipEntry → RouteTable × List Verdict
  | table, [] => (table, [])
  | table, entry :: rest =>
    let (table, verdict) := hearing.relax table entry
    let (table, verdicts) := hearing.relaxAll table rest
    (table, verdict :: verdicts)

/-- The number of routes that an advertisement adds or makes better. -/
def changes (verdicts : List Verdict) : Nat := verdicts.countP Verdict.isChange

/-- Applies an advertisement: the new table, the number of routes added or made better, and what
is noted. -/
def absorb (hearing : Hearing) (table : RouteTable) (entries : List RipEntry) :
    RouteTable × Nat × List Effect :=
  let (table, verdicts) := hearing.relaxAll table entries
  let changed := changes verdicts
  let notices := (entries.zip verdicts).filterMap fun (entry, verdict) =>
    hearing.notice? entry verdict
  let summary := if changed = 0 then [] else [.routesAfter hearing.advertiser table]
  (table, changed, (notices ++ summary).map .note)

end Hearing

end Ipv4Router.DistanceVector
