/-
This file shows that a router leaves alone what it did not learn. An advertisement adds
routes behind all others and changes learned ones only, and no route ages out that is
configured or leads to an attached subnet. So once it is prepared, a router keeps these
routes as they are and in their order, whatever it receives and does; and where routes
are not exchanged at all, it keeps the whole table.
-/

import Ipv4Router.Proofs.Router.Confinement
import Ipv4Router.Proofs.Router.Schedule
import Ipv4Router.Proofs.Timeline

namespace Ipv4Router

/-! ### Routes that were not learned -/

/-- The route was not learned. -/
def Route.isConfigured (route : Route) : Bool := route.origin != .learned

theorem Route.isConfigured_of_learned (route : Route) (learned : route.origin = .learned) :
    route.isConfigured = false := by
  rw [isConfigured, learned]
  rfl

namespace RouteTable

/-- The routes of the table that were not learned, in order. -/
def configured (table : RouteTable) : List Route := table.routes.filter Route.isConfigured

/-- The routes to attached subnets have no gateway. -/
def Attached (table : RouteTable) : Prop :=
  ∀ route ∈ table.routes, route.origin = .direct → route.gateway = .unspecified

section Configured

variable (table : RouteTable)

theorem mem_configured (route : Route) :
    route ∈ table.configured ↔ route ∈ table.routes ∧ route.origin ≠ .learned := by
  rw [configured, List.mem_filter, Route.isConfigured, bne_iff_ne]

/-- Whether routes to attached subnets have gateways depends on what was not learned only. -/
theorem attached_congr (other : RouteTable) (same : other.configured = table.configured)
    (attached : table.Attached) : other.Attached := by
  intro route member direct
  have isConfigured : route ∈ other.configured :=
    (other.mem_configured route).mpr ⟨member, by rw [direct]; exact nofun⟩
  rw [same] at isConfigured
  exact attached route ((table.mem_configured route).mp isConfigured).1 direct

theorem configured_insert (route : Route) (learned : route.origin = .learned)
    (absent : table.find? route.destination route.mask = none) :
    (table.insert route).1.configured = table.configured := by
  have left := route.isConfigured_of_learned learned
  show (Keyed.put Route.key route table.routes).filter _ = table.routes.filter _
  rw [Keyed.put_of_absent Route.key route table.routes absent, List.filter_append,
    List.filter_cons_of_neg (Bool.eq_false_iff.mp left), List.filter_nil, List.append_nil]

theorem configured_update (destination mask gateway : Ipv4Address) (interface : String)
    (now : Nat) (cost : Option UInt32) (route : Route)
    (found : table.find? destination mask = some route) (learned : route.origin = .learned) :
    (table.update destination mask gateway interface now cost).1.configured =
      table.configured := by
  have left := route.isConfigured_of_learned learned
  refine Keyed.filter_adjust Route.key _ _ _ _ fun other foundOther => ?_
  obtain rfl := Option.some_inj.mp (found.symm.trans foundOther)
  exact ⟨left, left⟩

/-- No route that was not learned ages out. -/
theorem configured_expire (now timeout : Nat) (attached : table.Attached) :
    (table.expire now timeout).1.configured = table.configured := by
  show (table.routes.filter fun route => !route.isStale now timeout).filter _ =
    table.routes.filter _
  rw [List.filter_filter]
  refine List.filter_congr fun route member => ?_
  cases origin : route.origin with
  | learned => rw [route.isConfigured_of_learned origin, Bool.false_and]
  | static =>
    rw [Route.isStale, Route.canExpire, origin, show (Origin.static != .static) = false from rfl,
      Bool.and_false, Bool.false_and, Bool.not_false, Bool.and_true]
  | direct =>
    have unspecified := attached route member origin
    rw [Route.isStale, Route.canExpire, Route.isAttached, unspecified, beq_self_eq_true,
      Bool.not_true, Bool.false_and, Bool.false_and, Bool.not_false, Bool.and_true]

end Configured

end RouteTable

/-! ### Advertisements -/

namespace DistanceVector.Hearing

variable (hearing : Hearing) (table : RouteTable)

theorem configured_relax (entry : RipEntry) :
    (hearing.relax table entry).1.configured = table.configured := by
  have relaxes := hearing.relaxes_relax table entry
  generalize (hearing.relax table entry).1 = after at relaxes ⊢
  cases relaxes with
  | kept => rfl
  | added offers absent => exact table.configured_insert _ rfl absent
  | redirected route cost offers found learned costs notCheaper =>
    exact table.configured_update _ _ _ _ _ cost route found learned

/-- An advertisement leaves alone what was not learned. -/
theorem configured_absorb (entries : List RipEntry) :
    (hearing.absorb table entries).1.configured = table.configured :=
  hearing.absorb_keeps table (fun after => after.configured = table.configured) entries
    (fun before entry _ same => (hearing.configured_relax before entry).trans same) rfl

end DistanceVector.Hearing

namespace Router

/-! ### One action -/

section Step

variable (router : Router) (now : Nat)

theorem configured_receive (octets : Octets) (interfaceName : String) :
    (router.receive octets interfaceName now).1.table.configured = router.table.configured := by
  by_cases same : (router.receive octets interfaceName now).1.table = router.table
  · rw [same]
  · obtain ⟨response, hears⟩ := router.hears_of_table_ne octets interfaceName now same
    rw [receive_of_hears _ _ _ _ _ hears]
    exact (response.hearing now).configured_absorb router.table response.entries

theorem configured_act (action : Action) (notPrepare : action ≠ .event .prepare)
    (attached : router.table.Attached) :
    (router.act now action).1.table.configured = router.table.configured := by
  cases action with
  | ask => rfl
  | expire => exact router.table.configured_expire now _ attached
  | event event =>
    cases event with
    | prepare => exact absurd rfl notPrepare
    | receive octets interfaceName => exact router.configured_receive now octets interfaceName
    | advertise => exact router.table.configured_expire now _ attached
    | sweep => rfl

/-- A frame does not reach the route table of a router that does not exchange routes. -/
theorem table_receive_of_disabled (octets : Octets) (interfaceName : String)
    (disabled : router.settings.routingEnabled = false) :
    (router.receive octets interfaceName now).1.table = router.table := by
  refine Decidable.byContradiction fun changed => ?_
  obtain ⟨response, hears⟩ := router.hears_of_table_ne octets interfaceName now changed
  cases disabled.symm.trans hears.enabled

end Step

/-! ### Runs -/

/-- A frame arrives, or what is known of the neighbours is swept. -/
def Action.IsPassive (action : Action) : Prop :=
  action = .event .sweep ∨ ∃ octets interfaceName, action = .event (.receive octets interfaceName)

section Runs

variable (router : Router)

theorem configured_follow (schedule : List (Nat × Action))
    (prepared : ∀ turn ∈ schedule, turn.2 ≠ .event .prepare) (attached : router.table.Attached) :
    (router.follow schedule).1.table.configured = router.table.configured := by
  refine router.follow_keeps
    (fun after => after.table.configured = router.table.configured) schedule
    (fun before turn member same => ?_) rfl
  have stillAttached := router.table.attached_congr before.table same attached
  exact (before.configured_act turn.1 turn.2 (prepared turn member) stillAttached).trans same

/-- What a disabled exchange of routes keeps: the settings, which say so, and the table. -/
theorem table_follow_of_disabled (schedule : List (Nat × Action))
    (passive : ∀ turn ∈ schedule, turn.2.IsPassive)
    (disabled : router.settings.routingEnabled = false) :
    (router.follow schedule).1.table = router.table := by
  refine (router.follow_keeps
    (fun after => after.settings.routingEnabled = false ∧ after.table = router.table) schedule
    ?_ ⟨disabled, rfl⟩).2
  rintro before ⟨now, action⟩ member ⟨stillDisabled, same⟩
  rw [(before.act_keeps now action).2]
  refine ⟨stillDisabled, ?_⟩
  rcases passive _ member with rfl | ⟨octets, interfaceName, rfl⟩
  · exact same
  · exact (before.table_receive_of_disabled now octets interfaceName stillDisabled).trans same

/-- The background tasks of a router that does not exchange routes sweep and do nothing else. -/
theorem table_obeyAll_of_disabled (now : Nat) (commands : List Timeline.Command)
    (disabled : router.settings.routingEnabled = false) :
    (Timeline.obeyAll ⟨router, now, []⟩ commands).router.table = router.table := by
  refine (Timeline.obeyAll_keeps (· = .sweep)
    (fun after => after.settings.routingEnabled = false ∧ after.table = router.table)
    ?_ ?_ ?_ ⟨router, now, []⟩ commands (fun _ none => absurd none List.not_mem_nil)
    ⟨disabled, rfl⟩).2
  · rintro duty before now rfl holds
    exact holds
  · rintro before octets interfaceName now ⟨stillDisabled, same⟩
    rw [(before.receive_keeps now octets interfaceName).2]
    exact ⟨stillDisabled,
      (before.table_receive_of_disabled now octets interfaceName stillDisabled).trans same⟩
  · rintro before now ⟨stillDisabled, -⟩ task member
    rw [Timeline.startTasks, if_neg (Bool.eq_false_iff.mp stillDisabled)] at member
    exact List.mem_singleton.mp member ▸ rfl

/-- What a router did not learn it keeps, in order and with every field, whatever it receives and
does once it is prepared, as long as its routes to attached subnets have no gateway. And if it
does not exchange routes, neither frames and sweeps at any times nor its background tasks change
anything in its table. -/
theorem configured_permanent :
    (router.table.Attached → ∀ schedule : List (Nat × Action),
      (∀ turn ∈ schedule, turn.2 ≠ .event .prepare) →
      (router.follow schedule).1.table.configured = router.table.configured) ∧
    (router.settings.routingEnabled = false →
      (∀ schedule : List (Nat × Action), (∀ turn ∈ schedule, turn.2.IsPassive) →
        (router.follow schedule).1.table = router.table) ∧
      ∀ now commands,
        (Timeline.obeyAll ⟨router, now, []⟩ commands).router.table = router.table) :=
  ⟨fun attached schedule prepared => router.configured_follow schedule prepared attached,
    fun disabled =>
      ⟨fun schedule passive => router.table_follow_of_disabled schedule passive disabled,
        fun now commands => router.table_obeyAll_of_disabled now commands disabled⟩⟩

end Runs

/-! ### A rival -/

namespace Rival

/-- The neighbour offers a subnet that is attached to the router, and one that is not. -/
def frame : Octets :=
  (DistanceVector.messageFrame? 16 Stations.neighbor .everyone (.response
    [.inet (.ofParts 10 0 1 0) (.ofParts 255 255 255 0) .unspecified 0,
      .inet (.ofParts 10 9 0 0) (.ofParts 255 255 0 0) .unspecified 1])).getD []

/-- The offer is heard, and later the router advertises and sweeps. -/
def schedule : List (Nat × Action) :=
  [(5, .event (.receive frame "eth0")), (20, .event .advertise), (21, .event .sweep)]

/-- The router with the exchange of routes disabled. -/
def deaf : Router := { Transit.router with settings := { routingEnabled := false } }

end Rival

/-- The offer changes the table, but neither the routes of the router that were there before nor
anything in the table of a router that does not exchange routes. -/
theorem configured_permanent_rival :
    (Transit.router.table.Attached ∧
      (Transit.router.follow Rival.schedule).1.table ≠ Transit.router.table ∧
      (Transit.router.follow Rival.schedule).1.table.configured =
        Transit.router.table.configured) ∧
    Rival.deaf.settings.routingEnabled = false ∧
      (Timeline.obeyAll ⟨Rival.deaf, 0, []⟩
        [.start, .receive Rival.frame "eth0", .advance 60000]).router.table =
          Rival.deaf.table := by
  have attached : Transit.router.table.Attached := by
    unfold RouteTable.Attached
    decide
  have changed : (Transit.router.follow Rival.schedule).1.table ≠ Transit.router.table := by
    decide +kernel
  have disabled : Rival.deaf.settings.routingEnabled = false := rfl
  exact ⟨⟨attached, changed,
      (configured_permanent Transit.router).1 attached Rival.schedule (by decide)⟩,
    disabled, ((configured_permanent Rival.deaf).2 disabled).2 0 _⟩

end Router

end Ipv4Router
