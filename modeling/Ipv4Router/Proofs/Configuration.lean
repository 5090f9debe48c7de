/-
This file says what a configuration must be for a router to be set up from it, and what
that router is. The names of its interfaces differ, so the registry has them all and in
their order; and every configured route leads out of one of them. The table has a route
to every configured network, which covers the addresses of this network and no others.
-/

import Mathlib.Data.List.Forall2
import Ipv4Router.Proofs.Configuration.Validation
import Ipv4Router.Proofs.Interface.History

namespace Ipv4Router

/-- The interface is what the setting tells, with the configured link address or the host's. -/
structure InterfaceSetting.Describes (hostMac? : String → Option MacAddress)
    (setting : InterfaceSetting) (interface : Interface) : Prop where
  name : interface.name = setting.name
  address : interface.address = setting.subnet.address
  mask : interface.mask = setting.subnet.mask
  mac : setting.macAddress hostMac? = .ok interface.mac

/-- A table to which routes were added has under each key the last one of them. -/
theorem RouteTable.routes_foldl_insert (routes : List Route) :
    (routes.foldl (fun table route => (table.insert route).1) empty).routes =
      Keyed.putAll Route.key routes :=
  (List.foldl_hom RouteTable.routes fun _ _ => rfl).symm

namespace Configuration

/-! ### Building -/

theorem bind_eq_ok {Fault First Second : Type} (first : Except Fault First)
    (next : First → Except Fault Second) (result : Second) :
    (first >>= next) = .ok result ↔ ∃ middle, first = .ok middle ∧ next middle = .ok result := by
  cases first with
  | error fault => exact ⟨nofun, fun ⟨_, fails, _⟩ => nomatch fails⟩
  | ok middle => exact ⟨fun succeeds => ⟨middle, rfl, succeeds⟩, fun ⟨_, rfl, succeeds⟩ => succeeds⟩

theorem forall₂_of_mapM {Fault Setting Result : Type} (build : Setting → Except Fault Result)
    (settings : List Setting) (results : List Result) (built : settings.mapM build = .ok results) :
    List.Forall₂ (fun setting result => build setting = .ok result) settings results := by
  induction settings generalizing results with
  | nil =>
    cases built
    exact .nil
  | cons setting rest inductionHypothesis =>
    rw [List.mapM_cons, bind_eq_ok] at built
    obtain ⟨result, builtFirst, others⟩ := built
    obtain ⟨later, builtRest, whole⟩ := (bind_eq_ok _ _ _).mp others
    cases whole
    exact .cons builtFirst (inductionHypothesis later builtRest)

theorem map_eq_of_forall₂ {First Second Part : Type} {relation : First → Second → Prop}
    {firsts : List First} {seconds : List Second} {ofFirst : First → Part}
    {ofSecond : Second → Part} (related : List.Forall₂ relation firsts seconds)
    (same : ∀ first second, relation first second → ofFirst first = ofSecond second) :
    firsts.map ofFirst = seconds.map ofSecond := by
  rw [← List.forall₂_eq_eq_eq]
  exact List.rel_map same related

theorem describes_of_build (hostMac? : String → Option MacAddress) (setting : InterfaceSetting)
    (interface : Interface) (built : setting.build hostMac? = .ok interface) :
    setting.Describes hostMac? interface := by
  obtain ⟨mac, hasMac, isBuilt⟩ := (bind_eq_ok _ _ _).mp built
  cases isBuilt
  exact ⟨rfl, rfl, rfl, hasMac⟩

/-! ### Setting up -/

section Setup

variable (configuration : Configuration)

/-- A configuration without a fault names every interface once, and only configured interfaces in
its routes. -/
theorem names_of_validate (valid : configuration.validate = .ok ()) :
    configuration.names.Nodup ∧
      ∀ setting ∈ configuration.staticRoutes, setting.interface ∈ configuration.names := by
  have sound := configuration.validate_eq_ok_iff.mp valid
  exact ⟨sound.different, fun setting member => (sound.routes setting member).known⟩

/-- The registry has the configured interfaces, in the order of the configuration. -/
theorem describes_of_registry (hostMac? : String → Option MacAddress) (registry : Registry)
    (different : configuration.names.Nodup)
    (built : configuration.registry hostMac? = .ok registry) :
    List.Forall₂ (InterfaceSetting.Describes hostMac?) configuration.interfaces
      registry.interfaces := by
  obtain ⟨interfaces, each, whole⟩ := (bind_eq_ok _ _ _).mp built
  have described : List.Forall₂ (InterfaceSetting.Describes hostMac?) configuration.interfaces
      interfaces :=
    (forall₂_of_mapM _ _ _ each).imp (describes_of_build hostMac?)
  have names : interfaces.map Interface.name = configuration.names :=
    (map_eq_of_forall₂ described fun _ _ describes => describes.name.symm).symm
  cases whole
  rw [Registry.interfaces_ofList interfaces (names ▸ different)]
  exact described

theorem built_of_registry (hostMac? : String → Option MacAddress) (registry : Registry)
    (different : configuration.names.Nodup)
    (built : configuration.registry hostMac? = .ok registry) :
    registry.interfaces.map (fun interface => (interface.name, interface.address, interface.mask)) =
      configuration.interfaces.map fun setting =>
        (setting.name, setting.subnet.address, setting.subnet.mask) :=
  (map_eq_of_forall₂ (configuration.describes_of_registry hostMac? registry different built)
    fun _ _ describes => by rw [describes.name, describes.address, describes.mask]).symm

/-- The registry has the configured names, in the order of the configuration. -/
theorem names_of_registry (hostMac? : String → Option MacAddress) (registry : Registry)
    (different : configuration.names.Nodup)
    (built : configuration.registry hostMac? = .ok registry) :
    registry.names = configuration.names :=
  (map_eq_of_forall₂ (configuration.describes_of_registry hostMac? registry different built)
    fun _ _ describes => describes.name.symm).symm

theorem mem_table (now : Nat) (route : Route) (member : route ∈ (configuration.table now).routes) :
    ∃ setting ∈ configuration.staticRoutes, route = setting.route now := by
  have configured := RouteTable.mem_foldl_insert .empty (configuration.routes now) route member
  obtain ⟨setting, among, rfl⟩ := List.mem_map.mp (configured.resolve_right List.not_mem_nil)
  exact ⟨setting, among, rfl⟩

/-- The table has, for every configured route, the last one that is configured for its network. -/
theorem find?_table (now : Nat) (setting : RouteSetting)
    (member : setting ∈ configuration.staticRoutes) : ∃ route,
      (configuration.table now).find? setting.destination.network setting.destination.mask =
          some route ∧
        Keyed.Last Route.key (configuration.routes now) route ∧
        ∀ address, route.covers address = true ↔ setting.destination.Contains address := by
  have among : (setting.route now).key ∈ (configuration.routes now).map Route.key :=
    List.mem_map_of_mem (List.mem_map_of_mem member)
  -- What is found need not be the setting's own route, but it has the same key.
  cases found : Keyed.find? Route.key (setting.route now).key
      (Keyed.putAll Route.key (configuration.routes now)) with
  | none => exact absurd among ((Keyed.find?_putAll_eq_none Route.key _ _).mp found)
  | some route =>
    obtain ⟨sameKey, last⟩ := (Keyed.find?_putAll_eq_some Route.key _ _ _).mp found
    obtain ⟨sameDestination, sameMask⟩ := Prod.mk.inj sameKey
    refine ⟨route, ?_, last, fun address => ?_⟩
    · rw [table, RouteTable.find?, RouteTable.routes_foldl_insert]
      exact found
    · rw [← setting.covers_route_iff now, Route.covers, Route.covers, sameDestination, sameMask]

/-- A configuration is accepted exactly if nothing is wrong with it, and refused with what is wrong
first. The registry that an accepted one is set up with has every configured interface once and in
the configured order; and the table has a route for every configured network, which covers the
addresses that begin with the bits of this network and no others. -/
theorem validate_exact :
    (configuration.validate = .ok () ↔ configuration.Sound) ∧
      (∀ fault, configuration.validate = .error fault ↔ configuration.FirstFault fault) ∧
      ∀ hostMac? registry, configuration.validate = .ok () →
        configuration.registry hostMac? = .ok registry →
          registry.names.Nodup ∧
          List.Forall₂ (InterfaceSetting.Describes hostMac?) configuration.interfaces
            registry.interfaces ∧
          ∀ now, ∀ setting ∈ configuration.staticRoutes, ∃ route,
            (configuration.table now).find? setting.destination.network setting.destination.mask =
                some route ∧
              Keyed.Last Route.key (configuration.routes now) route ∧
              ∀ address, route.covers address = true ↔ setting.destination.Contains address := by
  refine ⟨configuration.validate_eq_ok_iff, configuration.validate_eq_error_iff,
    fun hostMac? registry valid built => ?_⟩
  have different := (configuration.validate_eq_ok_iff.mp valid).different
  exact ⟨registry.named, configuration.describes_of_registry hostMac? registry different built,
    configuration.find?_table⟩

end Setup

/-! ### A network that is configured twice -/

namespace Twice

/-- The second route leads to the network of the first one. -/
def configuration : Configuration where
  interfaces :=
    [⟨"eth0", ⟨.ofParts 10 0 0 1, 25, by decide⟩, none⟩,
      ⟨"eth1", ⟨.ofParts 10 0 0 129, 25, by decide⟩, some "02:00:00:00:00:02"⟩]
  staticRoutes :=
    [⟨⟨.ofParts 172 16 0 0, 12, by decide⟩, .ofParts 10 0 0 9, "eth0", 1⟩,
      ⟨⟨.ofParts 172 16 0 0, 12, by decide⟩, .ofParts 10 0 0 139, "eth1", 2⟩]

/-- The link address of the host's only port. -/
def hostMac? (name : String) : Option MacAddress :=
  if name = "eth0" then some (.ofOctets [2, 0, 0, 0, 0, 1]) else none

def registry : Registry :=
  ⟨[⟨"eth0", .ofParts 10 0 0 1, .ofParts 255 255 255 128, .ofOctets [2, 0, 0, 0, 0, 1]⟩,
      ⟨"eth1", .ofParts 10 0 0 129, .ofParts 255 255 255 128, .ofOctets [2, 0, 0, 0, 0, 2]⟩],
    by decide⟩

end Twice

theorem validate_exact_twice :
    Twice.configuration.Sound ∧
      List.Forall₂ (InterfaceSetting.Describes Twice.hostMac?) Twice.configuration.interfaces
        Twice.registry.interfaces ∧
      ∀ setting ∈ Twice.configuration.staticRoutes, ∃ route,
        (Twice.configuration.table 0).find? setting.destination.network setting.destination.mask =
            some route ∧
          Keyed.Last Route.key (Twice.configuration.routes 0) route ∧
          ∀ address, route.covers address = true ↔ setting.destination.Contains address := by
  have valid : Twice.configuration.validate = .ok () := by decide +kernel
  obtain ⟨accepted, -, setUp⟩ := validate_exact Twice.configuration
  obtain ⟨-, described, routes⟩ := setUp Twice.hostMac? Twice.registry valid (by decide +kernel)
  exact ⟨accepted.mp valid, described, routes 0⟩

end Configuration

/-- A router is set up from a configuration without a fault, with its interfaces, its settings and
its routes, and knows no neighbour. -/
theorem Router.eq_of_ofConfiguration (configuration : Configuration)
    (hostMac? : String → Option MacAddress) (now : Nat) (router : Router)
    (setup : ofConfiguration configuration hostMac? now = .ok router) :
    configuration.validate = .ok () ∧ ∃ registry,
      configuration.registry hostMac? = .ok registry ∧ router =
        { registry, settings := configuration.settings, table := configuration.table now } := by
  obtain ⟨⟨⟩, valid, rest⟩ := (Configuration.bind_eq_ok _ _ _).mp setup
  obtain ⟨registry, built, whole⟩ := (Configuration.bind_eq_ok _ _ _).mp rest
  exact ⟨valid, registry, built, (Except.ok.inj whole).symm⟩

end Ipv4Router
