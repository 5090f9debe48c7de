/-
This file says which configurations are accepted, and which fault is reported of the others.
A configuration is accepted exactly if nothing is wrong with it. Of one that is refused the
first fault is reported: a repeated name before the times, these before the routes, and of the
routes the first one with a fault. Each kind of fault is described by what was found in order
up to it and by what is wrong there.
-/

import Ipv4Router.Configuration.Setup
import Ipv4Router.Proofs.Route.Specificity

namespace Ipv4Router

/-! ### Subnets -/

namespace Ipv4Address

theorem getMsbD_maskOfLength (length position : Nat) (short : length ≤ 32) :
    (maskOfLength length).bits.getMsbD position = decide (position < length) := by
  rw [maskOfLength, BitVec.getMsbD_shiftLeft, BitVec.getMsbD_allOnes, decide_eq_decide]
  omega

/-- Two addresses are the same under a prefix exactly if they begin with the same bits. -/
theorem masked_maskOfLength_eq_iff (length : Nat) (short : length ≤ 32)
    (address other : Ipv4Address) :
    address.masked (maskOfLength length) = other.masked (maskOfLength length) ↔
      ∀ position < length, address.bits.getMsbD position = other.bits.getMsbD position := by
  rw [masked, masked, Ipv4Address.mk.injEq]
  constructor
  · intro same position inside
    have bits := congrArg (BitVec.getMsbD · position) same
    simpa only [BitVec.getMsbD_and, getMsbD_maskOfLength length position short,
      decide_eq_true inside, Bool.and_true] using bits
  · intro same
    refine BitVec.eq_of_getMsbD_eq fun position _ => ?_
    rw [BitVec.getMsbD_and, BitVec.getMsbD_and, getMsbD_maskOfLength length position short]
    by_cases inside : position < length
    · rw [same position inside]
    · rw [decide_eq_false inside, Bool.and_false, Bool.and_false]

end Ipv4Address

namespace Subnet

variable (subnet : Subnet)

/-- The address begins with the bits that name the subnet. -/
def Contains (address : Ipv4Address) : Prop :=
  ∀ position < subnet.length, address.bits.getMsbD position = subnet.address.bits.getMsbD position

/-- The subnet's address has a one bit behind those that name the subnet. -/
def HasHostBits : Prop :=
  ∃ position, subnet.length ≤ position ∧ subnet.address.bits.getMsbD position = true

theorem address_eq_network_iff : subnet.address = subnet.network ↔ ¬ subnet.HasHostBits := by
  -- The network has the address's bits within the prefix, and zeros behind it.
  have bit (position : Nat) : subnet.network.bits.getMsbD position =
      (subnet.address.bits.getMsbD position && decide (position < subnet.length)) := by
    rw [← Ipv4Address.getMsbD_maskOfLength subnet.length position subnet.length_le]
    exact BitVec.getMsbD_and
  constructor
  · rintro same ⟨position, behind, isOne⟩
    have isZero := bit position
    rw [← same, isOne, decide_eq_false (Nat.not_lt.mpr behind)] at isZero
    cases isZero
  · intro noHostBits
    refine congrArg Ipv4Address.mk (BitVec.eq_of_getMsbD_eq fun position _ => ?_)
    refine Eq.trans ?_ (bit position).symm
    by_cases inside : position < subnet.length
    · rw [decide_eq_true inside, Bool.and_true]
    · rw [decide_eq_false inside, Bool.and_false]
      exact Bool.eq_false_iff.mpr fun isOne =>
        noHostBits ⟨position, Nat.not_lt.mp inside, isOne⟩

end Subnet

/-- A configured route covers the addresses of its network, and no others. -/
theorem RouteSetting.covers_route_iff (setting : RouteSetting) (now : Nat)
    (address : Ipv4Address) :
    (setting.route now).covers address = true ↔ setting.destination.Contains address := by
  have twice : setting.destination.network.masked setting.destination.mask =
      setting.destination.network := by
    show Ipv4Address.mk (setting.destination.address.bits &&& _ &&& _) = _
    rw [BitVec.and_assoc, BitVec.and_self]
    rfl
  rw [Route.covers, beq_iff_eq]
  show address.masked setting.destination.mask =
    setting.destination.network.masked setting.destination.mask ↔ _
  rw [twice]
  exact Ipv4Address.masked_maskOfLength_eq_iff _ setting.destination.length_le _ _

namespace Configuration

/-! ### Checks in order -/

section Guards

variable {Fault : Type} (condition : Prop) [Decidable condition] (fault : Fault)
  (others : Option Fault)

theorem guard_eq_none :
    (if condition then some fault else others) = none ↔ ¬ condition ∧ others = none := by
  by_cases holds : condition
  · rw [if_pos holds]
    exact ⟨nofun, fun absent => absurd holds absent.1⟩
  · rw [if_neg holds]
    exact (and_iff_right holds).symm

theorem guard_eq_some (found : Fault) :
    (if condition then some fault else others) = some found ↔
      (condition ∧ fault = found) ∨ (¬ condition ∧ others = some found) := by
  rw [ite_eq_iff, Option.some_inj]

end Guards

/-! ### Repeated names -/

section Names

variable (seen : List String)

/-- No name repeats another one or one that was seen before. -/
def Unrepeated (names : List String) : Prop := names.Nodup ∧ ∀ name ∈ names, name ∉ seen

theorem unrepeated_cons (first : String) (rest : List String) :
    Unrepeated seen (first :: rest) ↔ first ∉ seen ∧ Unrepeated (first :: seen) rest := by
  rw [Unrepeated, List.nodup_cons, List.forall_mem_cons]
  constructor
  · rintro ⟨⟨once, different⟩, unseen, restUnseen⟩
    refine ⟨unseen, different, fun name member seenBefore => ?_⟩
    rcases List.mem_cons.mp seenBefore with rfl | inSeen
    · exact once member
    · exact restUnseen name member inSeen
  · rintro ⟨unseen, different, restUnseen⟩
    exact ⟨⟨fun again => restUnseen first again List.mem_cons_self, different⟩, unseen,
      fun name member inSeen => restUnseen name member (List.mem_cons_of_mem _ inSeen)⟩

theorem firstRepeated?_eq_none (names : List String) :
    firstRepeated? seen names = none ↔ Unrepeated seen names := by
  induction names generalizing seen with
  | nil => exact ⟨fun _ => ⟨List.nodup_nil, nofun⟩, fun _ => rfl⟩
  | cons first rest inductionHypothesis =>
    rw [firstRepeated?, guard_eq_none, unrepeated_cons, inductionHypothesis]

/-- The name that is reported is the first one that repeats an earlier one. -/
theorem firstRepeated?_eq_some (names : List String) (name : String) :
    firstRepeated? seen names = some name ↔ ∃ earlier later, names = earlier ++ name :: later ∧
      Unrepeated seen earlier ∧ (name ∈ earlier ∨ name ∈ seen) := by
  induction names generalizing seen with
  | nil =>
    refine ⟨nofun, ?_⟩
    rintro ⟨earlier, later, place, -⟩
    exact absurd place.symm (List.append_ne_nil_of_right_ne_nil _ (List.cons_ne_nil _ _))
  | cons first rest inductionHypothesis =>
    -- The first name goes over from the names that come to those that were seen.
    have moved (earlier : List String) : name ∈ earlier ∨ name ∈ first :: seen ↔
        name ∈ first :: earlier ∨ name ∈ seen := by
      rw [List.mem_cons, List.mem_cons, or_left_comm, or_assoc]
    rw [firstRepeated?, guard_eq_some, inductionHypothesis]
    constructor
    · rintro (⟨repeated, rfl⟩ | ⟨unseen, earlier, later, rfl, unrepeated, again⟩)
      · exact ⟨[], rest, rfl, ⟨List.nodup_nil, nofun⟩, Or.inr repeated⟩
      · exact ⟨first :: earlier, later, rfl,
          (unrepeated_cons seen first earlier).mpr ⟨unseen, unrepeated⟩, (moved earlier).mp again⟩
    · rintro ⟨_ | ⟨head, earlier⟩, later, place, unrepeated, again⟩
      · obtain ⟨rfl, -⟩ := List.cons.inj place
        exact Or.inl ⟨again.resolve_left List.not_mem_nil, rfl⟩
      · obtain ⟨rfl, rfl⟩ := List.cons.inj place
        obtain ⟨unseen, restUnrepeated⟩ := (unrepeated_cons seen first earlier).mp unrepeated
        exact Or.inr ⟨unseen, earlier, later, rfl, restUnrepeated, (moved earlier).mpr again⟩

theorem unrepeated_nil_iff (names : List String) : Unrepeated [] names ↔ names.Nodup :=
  and_iff_left fun _ _ => List.not_mem_nil

end Names

/-! ### Times -/

section Faults

variable (configuration : Configuration)

/-- The configured times are positive, and routes live at least until the next update. -/
structure SoundTimers : Prop where
  updatePositive : 1 ≤ configuration.routing.updateSeconds
  updateInTime : configuration.routing.updateSeconds ≤ configuration.routing.timeoutSeconds
  retryPositive : 1 ≤ configuration.neighbors.retryMilliseconds
  requestsPositive : 1 ≤ configuration.neighbors.maxRequests

/-- What is wrong with the times first. -/
inductive FirstTimerProblem : TimerProblem → Prop
  | updateNotPositive (zero : configuration.routing.updateSeconds = 0) :
    FirstTimerProblem .updateNotPositive
  | timeoutBelowUpdate (updatePositive : 1 ≤ configuration.routing.updateSeconds)
    (below : configuration.routing.timeoutSeconds < configuration.routing.updateSeconds) :
    FirstTimerProblem .timeoutBelowUpdate
  | retryNotPositive (updatePositive : 1 ≤ configuration.routing.updateSeconds)
    (updateInTime : configuration.routing.updateSeconds ≤ configuration.routing.timeoutSeconds)
    (zero : configuration.neighbors.retryMilliseconds = 0 ∨
      configuration.neighbors.maxRequests = 0) :
    FirstTimerProblem .retryNotPositive

theorem timerProblem?_eq_none :
    configuration.timerProblem? = none ↔ configuration.SoundTimers := by
  simp only [timerProblem?, guard_eq_none, not_or, ← ne_eq, ← Nat.pos_iff_ne_zero, Nat.not_lt,
    and_true]
  constructor
  · rintro ⟨updatePositive, updateInTime, retryPositive, requestsPositive⟩
    exact ⟨updatePositive, updateInTime, retryPositive, requestsPositive⟩
  · rintro ⟨updatePositive, updateInTime, retryPositive, requestsPositive⟩
    exact ⟨updatePositive, updateInTime, retryPositive, requestsPositive⟩

theorem timerProblem?_eq_some (problem : TimerProblem) :
    configuration.timerProblem? = some problem ↔ configuration.FirstTimerProblem problem := by
  simp only [timerProblem?, guard_eq_some, ← ne_eq, ← Nat.pos_iff_ne_zero, Nat.not_lt]
  constructor
  · rintro (⟨zero, rfl⟩ |
      ⟨updatePositive, ⟨below, rfl⟩ | ⟨updateInTime, ⟨zero, rfl⟩ | ⟨-, absent⟩⟩⟩)
    · exact .updateNotPositive zero
    · exact .timeoutBelowUpdate updatePositive below
    · exact .retryNotPositive updatePositive updateInTime zero
    · cases absent
  · rintro (zero | ⟨updatePositive, below⟩ | ⟨updatePositive, updateInTime, zero⟩)
    · exact Or.inl ⟨zero, rfl⟩
    · exact Or.inr ⟨updatePositive, Or.inl ⟨below, rfl⟩⟩
    · exact Or.inr ⟨updatePositive, Or.inr ⟨updateInTime, Or.inl ⟨zero, rfl⟩⟩⟩

/-! ### Routes -/

variable (names : List String) (setting : RouteSetting)

/-- The configured route leads out of an interface that has one of the names, to a network, not
through a group of gateways. -/
structure SoundRoute : Prop where
  known : setting.interface ∈ names
  isNetwork : ¬ setting.destination.HasHostBits
  notMulticast : setting.gateway.isMulticast = false
  notBroadcast : setting.gateway ≠ .broadcast

/-- What is wrong with a configured route first. -/
inductive FirstRouteFault : ConfigurationFault → Prop
  | unknownInterface (unknown : setting.interface ∉ names) :
    FirstRouteFault (.unknownRouteInterface setting.destination setting.interface)
  | hostBits (known : setting.interface ∈ names) (hostBits : setting.destination.HasHostBits) :
    FirstRouteFault (.hostBitsSet setting.destination)
  | gateway (known : setting.interface ∈ names) (isNetwork : ¬ setting.destination.HasHostBits)
    (isGroup : setting.gateway.isMulticast = true ∨ setting.gateway = .broadcast) :
    FirstRouteFault (.invalidGateway setting.gateway)

theorem routeFault?_eq_none : routeFault? names setting = none ↔ SoundRoute names setting := by
  simp only [routeFault?, guard_eq_none, not_not, Subnet.address_eq_network_iff, Bool.or_eq_true,
    beq_iff_eq, not_or, Bool.not_eq_true, and_true]
  constructor
  · rintro ⟨known, isNetwork, notMulticast, notBroadcast⟩
    exact ⟨known, isNetwork, notMulticast, notBroadcast⟩
  · rintro ⟨known, isNetwork, notMulticast, notBroadcast⟩
    exact ⟨known, isNetwork, notMulticast, notBroadcast⟩

theorem routeFault?_eq_some (fault : ConfigurationFault) :
    routeFault? names setting = some fault ↔ FirstRouteFault names setting fault := by
  simp only [routeFault?, guard_eq_some, ne_eq, not_not, Subnet.address_eq_network_iff,
    Bool.or_eq_true, beq_iff_eq]
  constructor
  · rintro (⟨unknown, rfl⟩ | ⟨known, ⟨hostBits, rfl⟩ | ⟨isNetwork, ⟨isGroup, rfl⟩ | ⟨-, absent⟩⟩⟩)
    · exact .unknownInterface unknown
    · exact .hostBits known hostBits
    · exact .gateway known isNetwork isGroup
    · cases absent
  · rintro (unknown | ⟨known, hostBits⟩ | ⟨known, isNetwork, isGroup⟩)
    · exact Or.inl ⟨unknown, rfl⟩
    · exact Or.inr ⟨known, Or.inl ⟨hostBits, rfl⟩⟩
    · exact Or.inr ⟨known, Or.inr ⟨isNetwork, Or.inl ⟨isGroup, rfl⟩⟩⟩

/-! ### Configurations -/

/-- Nothing is wrong with the configuration. -/
structure Sound : Prop where
  different : configuration.names.Nodup
  timers : configuration.SoundTimers
  routes : ∀ setting ∈ configuration.staticRoutes, SoundRoute configuration.names setting

/-- What is wrong with the configuration first: a name that repeats an earlier one, where those
before it differ; then what is wrong with the times; then what is wrong with a configured route,
where nothing is wrong with those before it. -/
inductive FirstFault : ConfigurationFault → Prop
  | duplicate (name : String) (earlier later : List String)
    (place : configuration.names = earlier ++ name :: later) (different : earlier.Nodup)
    (repeated : name ∈ earlier) : FirstFault (.duplicateInterface name)
  | timers (different : configuration.names.Nodup) (problem : TimerProblem)
    (first : configuration.FirstTimerProblem problem) : FirstFault (.invalidTimers problem)
  | route (different : configuration.names.Nodup) (timers : configuration.SoundTimers)
    (setting : RouteSetting) (earlier later : List RouteSetting)
    (place : configuration.staticRoutes = earlier ++ setting :: later)
    (sound : ∀ other ∈ earlier, SoundRoute configuration.names other) (fault : ConfigurationFault)
    (first : FirstRouteFault configuration.names setting fault) : FirstFault fault

theorem fault?_eq_none : configuration.fault? = none ↔ configuration.Sound := by
  rw [fault?, Option.or_eq_none_iff, Option.or_eq_none_iff, Option.map_eq_none_iff,
    Option.map_eq_none_iff, List.findSome?_eq_none_iff, firstRepeated?_eq_none, unrepeated_nil_iff,
    timerProblem?_eq_none]
  simp only [routeFault?_eq_none]
  exact ⟨fun ⟨different, timers, routes⟩ => ⟨different, timers, routes⟩,
    fun ⟨different, timers, routes⟩ => ⟨different, timers, routes⟩⟩

theorem fault?_eq_some (fault : ConfigurationFault) :
    configuration.fault? = some fault ↔ configuration.FirstFault fault := by
  rw [fault?, Option.or_eq_some_iff, Option.or_eq_some_iff]
  simp only [Option.map_eq_some_iff, Option.map_eq_none_iff, List.findSome?_eq_some_iff,
    firstRepeated?_eq_some, firstRepeated?_eq_none, timerProblem?_eq_some, timerProblem?_eq_none,
    routeFault?_eq_some, routeFault?_eq_none, unrepeated_nil_iff, List.not_mem_nil, or_false]
  constructor
  · rintro (⟨name, ⟨earlier, later, place, different, repeated⟩, rfl⟩ |
      ⟨different, ⟨problem, first, rfl⟩ | ⟨timers, earlier, setting, later, place, first, sound⟩⟩)
    · exact .duplicate name earlier later place different repeated
    · exact .timers different problem first
    · exact .route different timers setting earlier later place sound fault first
  · intro first
    cases first with
    | duplicate name earlier later place different repeated =>
      exact Or.inl ⟨name, ⟨earlier, later, place, different, repeated⟩, rfl⟩
    | timers different problem first => exact Or.inr ⟨different, Or.inl ⟨problem, first, rfl⟩⟩
    | route different timers setting earlier later place sound fault first =>
      exact Or.inr ⟨different, Or.inr ⟨timers, earlier, setting, later, place, first, sound⟩⟩

theorem validate_eq_ok_iff : configuration.validate = .ok () ↔ configuration.Sound := by
  rw [← fault?_eq_none, validate]
  cases configuration.fault? with
  | none => exact iff_of_true rfl rfl
  | some fault => exact iff_of_false nofun nofun

theorem validate_eq_error_iff (fault : ConfigurationFault) :
    configuration.validate = .error fault ↔ configuration.FirstFault fault := by
  rw [← fault?_eq_some, validate]
  cases configuration.fault? with
  | none => exact iff_of_false nofun nofun
  | some found => rw [Except.error.injEq, Option.some_inj]

end Faults

end Configuration

end Ipv4Router
