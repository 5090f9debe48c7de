/-
This file proves that no frame is lost, duplicated or reordered while it waits for a
link address. Every moment of a run enters the frames that it accepts into the ledger of
their address and settles those that it releases or drops; so after any run the ledger
still agrees with the cache on what waits, and with every moment on what was sent or
lost in it.
-/

import Ipv4Router.Proofs.Interface.History
import Ipv4Router.Proofs.Neighbor.Confinement
import Ipv4Router.Proofs.Neighbor.Ledger
import Ipv4Router.Proofs.Wire.Built

namespace Ipv4Router.Neighbor

/-! ### Accounts -/

/-- The ledger accounts for the queue of an address: it lists every frame that was accepted, once
and in order, and the frames of each fate are those that are found where it says. A released frame
was sent with the link addresses of the binding, on the interface that heard it. -/
structure Accounts (settings : Settings) (journal : Journal) (address : Ipv4Address)
    (ledger : Ledger) : Prop where
  accepted : ledger.map Prod.fst = journal.history.flatMap (·.accepted address)
  waiting : ledger.frames .waiting = journal.cache.queue address
  released : ∀ place moment, journal.history[place]? = some moment →
    ∀ mac interface, moment.binding? address = some (mac, interface) →
      Effect.transmissions moment.effects = (ledger.frames (.released place)).map fun frame =>
        (interface.name, mac.octets ++ interface.mac.octets ++ frame.drop 12)
  unbound : ∀ place moment, journal.history[place]? = some moment →
    moment.binding? address = none → ledger.frames (.released place) = []
  dropped : ∀ place moment, journal.history[place]? = some moment →
    (moment.abandoned settings address).flatMap Request.waiting = ledger.frames (.dropped place)
  inHistory : ledger.SettledBefore journal.history.length
  ordered : ledger.Ordered

theorem getElem?_append_moment (history : List Moment) (moment found : Moment) (place : Nat)
    (member : (history ++ [moment])[place]? = some found) :
    history[place]? = some found ∧ place ≠ history.length ∨
      place = history.length ∧ found = moment := by
  rcases Nat.lt_trichotomy place history.length with before | rfl | beyond
  · rw [List.getElem?_append_left before] at member
    exact Or.inl ⟨member, Nat.ne_of_lt before⟩
  · rw [List.getElem?_append_right le_rfl, Nat.sub_self] at member
    exact Or.inr ⟨rfl, (Option.some_inj.mp member).symm⟩
  · have outside : (history ++ [moment]).length ≤ place := by
      rw [List.length_append, List.length_singleton]; exact beyond
    rw [List.getElem?_eq_none outside] at member
    cases member

section Steps

variable (settings : Settings) (journal : Journal) (address : Ipv4Address) (ledger : Ledger)
  (moment : Moment)

/-- The journal with one more moment. -/
def Journal.append : Journal := ⟨journal.history ++ [moment], moment.after⟩

/-- A ledger of one more moment accounts for it if it agrees with the old one on all earlier
moments and is right about this one. -/
theorem accounts_append (accounts : Accounts settings journal address ledger) (after : Ledger)
    (entered : after.map Prod.fst = ledger.map Prod.fst ++ moment.accepted address)
    (waits : after.frames .waiting = moment.after.queue address)
    (agrees : ∀ fate, fate ≠ .waiting → fate.settled? ≠ some journal.history.length →
      after.frames fate = ledger.frames fate)
    (released : ∀ mac interface, moment.binding? address = some (mac, interface) →
      Effect.transmissions moment.effects =
        (after.frames (.released journal.history.length)).map fun frame =>
          (interface.name, mac.octets ++ interface.mac.octets ++ frame.drop 12))
    (unbound : moment.binding? address = none →
      after.frames (.released journal.history.length) = [])
    (dropped : (moment.abandoned settings address).flatMap Request.waiting =
      after.frames (.dropped journal.history.length))
    (inHistory : after.SettledBefore (journal.history.length + 1)) (ordered : after.Ordered) :
    Accounts settings (journal.append moment) address after := by
  refine ⟨?_, waits, ?_, ?_, ?_, ?_, ordered⟩
  · rw [entered, accounts.accepted, Journal.append, List.flatMap_append]
    exact congrArg _ (List.append_nil _).symm
  · intro place found member mac interface bound
    rcases getElem?_append_moment _ _ _ _ member with ⟨old, earlier⟩ | ⟨rfl, rfl⟩
    · rw [agrees (.released place) nofun fun same => earlier (Option.some_inj.mp same)]
      exact accounts.released place found old mac interface bound
    · exact released mac interface bound
  · intro place found member notBound
    rcases getElem?_append_moment _ _ _ _ member with ⟨old, earlier⟩ | ⟨rfl, rfl⟩
    · rw [agrees (.released place) nofun fun same => earlier (Option.some_inj.mp same)]
      exact accounts.unbound place found old notBound
    · exact unbound notBound
  · intro place found member
    rcases getElem?_append_moment _ _ _ _ member with ⟨old, earlier⟩ | ⟨rfl, rfl⟩
    · rw [agrees (.dropped place) nofun fun same => earlier (Option.some_inj.mp same)]
      exact accounts.dropped place found old
    · exact dropped
  · rw [Journal.append, List.length_append]
    exact inHistory

theorem accounts_grows (accounts : Accounts settings journal address ledger)
    (continues : moment.before = journal.cache) (unbound : moment.binding? address = none)
    (kept : moment.abandoned settings address = [])
    (queue_eq : moment.after.queue address =
      moment.before.queue address ++ moment.accepted address) :
    Accounts settings (journal.append moment) address
      (ledger.enter (moment.accepted address)) := by
  have agrees (fate : Fate) (settled : fate ≠ .waiting) :
      (ledger.enter (moment.accepted address)).frames fate = ledger.frames fate := by
    rw [Ledger.frames_enter, if_neg settled, List.append_nil]
  refine accounts_append settings journal address ledger moment accounts _
    (ledger.map_fst_enter _) ?_ (fun fate settled _ => agrees fate settled) ?_ ?_ ?_
    (ledger.settledBefore_enter _ _ accounts.inHistory) (ledger.ordered_enter _ accounts.ordered)
  · rw [Ledger.frames_enter, if_pos rfl, accounts.waiting, ← continues, queue_eq]
  · intro mac interface bound
    cases unbound.symm.trans bound
  · intro _
    rw [agrees _ (Fate.released_ne_waiting _), ledger.frames_eq_nil _ _ accounts.inHistory rfl]
  · rw [agrees _ (Fate.dropped_ne_waiting _), ledger.frames_eq_nil _ _ accounts.inHistory rfl, kept,
      List.flatMap_nil]

/-- What waited, a moment that settles it finds under the fate that it gives. -/
theorem frames_settle_here (accounts : Accounts settings journal address ledger)
    (continues : moment.before = journal.cache) (fate : Fate)
    (atPlace : fate.settled? = some journal.history.length) :
    (ledger.settle fate).frames fate = moment.before.queue address ∧
      ∀ other, other ≠ fate → other.settled? = some journal.history.length →
        (ledger.settle fate).frames other = [] := by
  have earlier := accounts.inHistory
  refine ⟨?_, fun other different otherAtPlace => ?_⟩
  · rw [ledger.frames_settle_self _ (ledger.unsettled_at _ _ earlier atPlace), accounts.waiting,
      continues]
  · have settled : other ≠ .waiting := fun waits => by
      rw [waits] at otherAtPlace
      cases otherAtPlace
    rw [ledger.frames_settle_other _ _ (Ne.symm different) settled.symm,
      ledger.frames_eq_nil _ _ earlier otherAtPlace]

/-- A moment that leaves no frame waiting settles the ledger. -/
theorem accounts_settle (accounts : Accounts settings journal address ledger) (fate : Fate)
    (settled : fate ≠ .waiting) (atPlace : fate.settled? = some journal.history.length)
    (refused : moment.accepted address = []) (emptied : moment.after.queue address = [])
    (released : ∀ mac interface, moment.binding? address = some (mac, interface) →
      Effect.transmissions moment.effects =
        ((ledger.settle fate).frames (.released journal.history.length)).map fun frame =>
          (interface.name, mac.octets ++ interface.mac.octets ++ frame.drop 12))
    (unbound : moment.binding? address = none →
      (ledger.settle fate).frames (.released journal.history.length) = [])
    (dropped : (moment.abandoned settings address).flatMap Request.waiting =
      (ledger.settle fate).frames (.dropped journal.history.length)) :
    Accounts settings (journal.append moment) address (ledger.settle fate) := by
  refine accounts_append settings journal address ledger moment accounts _ ?_ ?_ ?_ released
    unbound dropped (ledger.settledBefore_settle _ _ atPlace accounts.inHistory)
    (ledger.ordered_settle _ _ atPlace accounts.inHistory accounts.ordered)
  · rw [Ledger.map_fst_settle, refused, List.append_nil]
  · rw [ledger.frames_settle_waiting _ settled, emptied]
  · intro other otherSettled elsewhere
    refine ledger.frames_settle_other _ _ ?_ otherSettled.symm
    rintro rfl
    exact elsewhere atPlace

theorem accounts_released (accounts : Accounts settings journal address ledger)
    (continues : moment.before = journal.cache) (mac : MacAddress) (interface : Interface)
    (bound : moment.binding? address = some (mac, interface))
    (kept : moment.abandoned settings address = []) (refused : moment.accepted address = [])
    (emptied : moment.after.queue address = [])
    (sent : Effect.transmissions moment.effects = (moment.before.queue address).map fun frame =>
      (interface.name, readdress frame interface.mac mac))
    (whole : ∀ frame ∈ journal.cache.queue address, LinkHeader.size ≤ frame.length) :
    Accounts settings (journal.append moment) address
      (ledger.settle (.released journal.history.length)) := by
  obtain ⟨self, others⟩ := frames_settle_here settings journal address ledger moment accounts
    continues (.released journal.history.length) rfl
  refine accounts_settle settings journal address ledger moment accounts _
    (Fate.released_ne_waiting _) rfl refused emptied ?_ ?_ ?_
  · intro mac' interface' bound'
    cases bound.symm.trans bound'
    rw [self, sent]
    refine List.map_congr_left fun frame member => ?_
    rw [continues] at member
    rw [readdress_of_whole _ _ _ (whole frame member)]
  · intro notBound
    cases notBound.symm.trans bound
  · rw [others _ (Fate.released_ne_dropped _ _).symm rfl, kept, List.flatMap_nil]

theorem accounts_dropped (accounts : Accounts settings journal address ledger)
    (continues : moment.before = journal.cache) (unbound : moment.binding? address = none)
    (refused : moment.accepted address = []) (emptied : moment.after.queue address = [])
    (lost : (moment.abandoned settings address).flatMap Request.waiting =
      moment.before.queue address) :
    Accounts settings (journal.append moment) address
      (ledger.settle (.dropped journal.history.length)) := by
  obtain ⟨self, others⟩ := frames_settle_here settings journal address ledger moment accounts
    continues (.dropped journal.history.length) rfl
  refine accounts_settle settings journal address ledger moment accounts _
    (Fate.dropped_ne_waiting _) rfl refused emptied ?_ ?_ ?_
  · intro mac interface bound
    cases unbound.symm.trans bound
  · intro _
    exact others _ (Fate.released_ne_dropped _ _) rfl
  · rw [self, lost]

end Steps

/-! ### Whole frames -/

theorem length_readdress (frame : Octets) (source destination : MacAddress) :
    (readdress frame source destination).length = frame.length := by
  unfold readdress readdress?
  split
  · rfl
  · rename_i whole
    rw [Option.getD_some, List.length_append, List.length_append, MacAddress.length_octets,
      MacAddress.length_octets, List.length_drop]
    unfold LinkHeader.size at whole
    omega

section Whole

variable (registry : Registry) (settings : Settings) (cache : Cache)

theorem whole_accepted (operation : Operation) (whole : operation.Whole) (address : Ipv4Address) :
    ∀ frame ∈ (cache.moment registry settings operation).accepted address,
      LinkHeader.size ≤ frame.length := by
  intro frame member
  cases operation with
  | send given nextHop out now =>
    change frame ∈ (if _ then _ else _) at member
    split at member
    · rw [List.mem_singleton.mp member, length_readdress]
      exact whole
    · cases member
  | hold target given =>
    change frame ∈ (if _ then _ else _) at member
    split at member
    · rw [List.mem_singleton.mp member]
      exact whole
    · cases member
  | resolve _ _ _ | learn _ _ _ | sweep _ => cases member

theorem queue_moment (operation : Operation) (address : Ipv4Address) (frame : Octets)
    (member : frame ∈ (cache.moment registry settings operation).after.queue address) :
    frame ∈ cache.queue address ∨
      frame ∈ (cache.moment registry settings operation).accepted address := by
  rcases turn_moment registry settings cache operation address with
    ⟨-, -, queue_eq⟩ | ⟨_, _, -, -, -, emptied, -⟩ | ⟨-, -, emptied, -⟩
  · rw [queue_eq] at member
    exact List.mem_append.mp member
  · rw [emptied] at member
    cases member
  · rw [emptied] at member
    cases member

/-- Whole frames wait in the queues. -/
def Cache.Whole (cache : Cache) : Prop :=
  ∀ address, ∀ frame ∈ cache.queue address, LinkHeader.size ≤ frame.length

theorem Cache.whole_empty : Cache.empty.Whole := nofun

/-- After an operation that is given whole frames, still only whole frames wait. -/
theorem whole_moment (operation : Operation) (given : operation.Whole) (whole : cache.Whole) :
    (cache.moment registry settings operation).after.Whole := by
  intro address frame member
  rcases queue_moment registry settings cache operation address frame member with old | fresh
  · exact whole address frame old
  · exact whole_accepted registry settings cache operation given address frame fresh

end Whole

/-! ### Runs -/

section Runs

variable (registry : Registry) (settings : Settings)

/-- What holds after every run: the ledger of every address accounts for its queue, and every
moment kept to its subject. -/
structure Journal.Sound (journal : Journal) : Prop where
  whole : journal.cache.Whole
  confined : ∀ moment ∈ journal.history, moment.Confined registry settings
  accounts : ∀ address, ∃ ledger, Accounts settings journal address ledger

theorem accounts_start (address : Ipv4Address) : Accounts settings {} address [] :=
  ⟨rfl, rfl, nofun, nofun, nofun, nofun, .nil⟩

theorem sound_start : Journal.Sound registry settings {} :=
  ⟨Cache.whole_empty, nofun, fun address => ⟨[], accounts_start settings address⟩⟩

variable (journal : Journal)

theorem accounts_moment (operation : Operation) (address : Ipv4Address) (ledger : Ledger)
    (sound : journal.Sound registry settings)
    (accounts : Accounts settings journal address ledger) :
    ∃ ledger, Accounts settings (journal.record registry settings operation) address ledger := by
  rcases turn_moment registry settings journal.cache operation address with
    ⟨unbound, kept, queue_eq⟩ | ⟨mac, interface, bound, kept, refused, emptied, sent⟩ |
    ⟨unbound, refused, emptied, lost⟩
  · exact ⟨_, accounts_grows settings journal address ledger _ accounts rfl unbound kept queue_eq⟩
  · exact ⟨_, accounts_released settings journal address ledger _ accounts rfl mac interface bound
      kept refused emptied sent (sound.whole address)⟩
  · exact ⟨_, accounts_dropped settings journal address ledger _ accounts rfl unbound refused
      emptied lost⟩

theorem sound_record (operation : Operation) (given : operation.Whole)
    (sound : journal.Sound registry settings) :
    (journal.record registry settings operation).Sound registry settings := by
  refine ⟨whole_moment registry settings journal.cache operation given sound.whole, ?_, ?_⟩
  · intro moment member
    rcases List.mem_append.mp member with old | fresh
    · exact sound.confined moment old
    · rw [List.mem_singleton.mp fresh]
      exact confined_moment registry settings _ operation
  · intro address
    obtain ⟨ledger, accounts⟩ := sound.accounts address
    exact accounts_moment registry settings journal operation address ledger sound accounts

theorem sound_foldl (operations : List Operation)
    (given : ∀ operation ∈ operations, operation.Whole)
    (sound : journal.Sound registry settings) :
    (operations.foldl (Journal.record registry settings) journal).Sound registry settings := by
  induction operations generalizing journal with
  | nil => exact sound
  | cons operation rest inductionHypothesis =>
    have wholeFirst := given operation List.mem_cons_self
    refine inductionHypothesis _ (fun later member => ?_)
      (sound_record registry settings journal operation wholeFirst sound)
    exact given later (List.mem_cons_of_mem _ member)

end Runs

/-- No frame is lost, duplicated or reordered while it waits. After any run from an empty cache,
every frame that an address accepted has one fate: it waits, the binding of one moment released
it, or the sweep of one moment dropped it. Frames are released in the order in which they were
accepted, changed in their link addresses only, and no operation touches another queue. -/
theorem queue_conservation (registry : Registry) (settings : Settings)
    (operations : List Operation) (given : ∀ operation ∈ operations, operation.Whole) :
    let journal := Journal.ofOperations registry settings operations
    (∀ address, ∃ ledger, Accounts settings journal address ledger) ∧
      ∀ moment ∈ journal.history, moment.Confined registry settings := by
  have sound := sound_foldl registry settings {} operations given (sound_start registry settings)
  exact ⟨sound.accounts, sound.confined⟩

/-! ### A run -/

namespace Exchange

/-- The answer of the neighbour to the interface. -/
def answer : ArpPacket :=
  .overEthernet ArpPacket.reply Stations.neighbor.mac Stations.neighbor.address Stations.inner.mac
    Stations.inner.address

/-- A frame is sent, another one held, and the neighbour answers. -/
def operations : List Operation :=
  [.send (List.replicate 14 0) Stations.neighbor.address Stations.inner 0,
    .hold Stations.neighbor.address (List.replicate 15 1), .learn answer Stations.inner 5]

end Exchange

/-- Both frames were accepted, and none of them waits after the answer. -/
theorem queue_conservation_exchange :
    (∀ operation ∈ Exchange.operations, operation.Whole) ∧
      let journal := Journal.ofOperations Stations.registry {} Exchange.operations
      ∃ ledger, Accounts {} journal Stations.neighbor.address ledger ∧ ledger.length = 2 ∧
        ledger.frames .waiting = [] := by
  have given : ∀ operation ∈ Exchange.operations, operation.Whole := by
    intro operation member
    simp only [Exchange.operations, List.mem_cons, List.mem_nil_iff, or_false] at member
    rcases member with rfl | rfl | rfl
    · exact le_refl 14
    · exact Nat.le_succ 14
    · trivial
  obtain ⟨ledger, accounts⟩ :=
    (queue_conservation Stations.registry {} Exchange.operations given).1 Stations.neighbor.address
  refine ⟨given, ledger, accounts, ?_, ?_⟩
  · rw [← List.length_map (f := Prod.fst), accounts.accepted]
    decide
  · rw [accounts.waiting]
    decide

end Ipv4Router.Neighbor
