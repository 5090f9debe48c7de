/-
This file lets time pass for a router whose neighbours are swept. The sweep happens at
the moment of the start and after every interval, no sooner and no later; in between,
and at the moments of the sweeps themselves, frames may come in whenever they like. A
router on a clock that was started and not shut down is kept in this way, whatever it
receives and however time is passed.
-/

import Ipv4Router.Proofs.Router.Run
import Ipv4Router.Proofs.Timeline

namespace Ipv4Router

namespace Router

/-! ### Vigils -/

/-- What a router lives through from the moment on at which the sweeping of its neighbours began:
the history, the time, when the next sweep is due, and the router now. Time passes no further than
to the next sweep. -/
inductive Vigil (start : Router) (began : Nat) : List Moment → Nat → Nat → Router → Prop
  | begin : Vigil start began [] began began start
  | wait (history : List Moment) (now later due : Nat) (router : Router)
    (before : Vigil start began history now due router) (passes : now ≤ later)
    (inTime : later ≤ due) : Vigil start began history later due router
  | live (history : List Moment) (due : Nat) (moment : Moment)
    (before : Vigil start began history moment.now due moment.before)
    (other : moment.event ≠ .sweep) :
    Vigil start began (history ++ [moment]) moment.now due moment.after
  | sweep (history : List Moment) (moment : Moment)
    (before : Vigil start began history moment.now moment.now moment.before)
    (sweeps : moment.event = .sweep) :
    Vigil start began (history ++ [moment]) moment.now
      (moment.now + start.settings.neighbors.retryInterval) moment.after

namespace Vigil

variable {start router : Router} {began now due : Nat} {history : List Moment}

theorem run (vigil : Vigil start began history now due router) : Run start history router := by
  induction vigil with
  | begin => exact .begin
  | wait _ _ _ _ _ _ _ _ inductionHypothesis => exact inductionHypothesis
  | live history _ moment _ _ inductionHypothesis | sweep history moment _ _ inductionHypothesis =>
    exact .record history moment inductionHypothesis

/-- The next sweep is never overdue and never more than an interval away. -/
theorem due_bounds (vigil : Vigil start began history now due router) :
    now ≤ due ∧ due ≤ now + start.settings.neighbors.retryInterval := by
  induction vigil with
  | begin => exact ⟨Nat.le_refl _, Nat.le_add_right _ _⟩
  | wait _ _ _ _ _ _ passes inTime inductionHypothesis => omega
  | live _ _ _ _ _ inductionHypothesis => exact inductionHypothesis
  | sweep _ _ _ _ _ => exact ⟨Nat.le_add_right _ _, Nat.le_refl _⟩

/-- Every moment was met by a vigil that lasted until then. -/
theorem at_moment (vigil : Vigil start began history now due router) :
    ∀ moment ∈ history,
      ∃ earlier due, Vigil start began earlier moment.now due moment.before := by
  induction vigil with
  | begin => exact nofun
  | wait _ _ _ _ _ _ _ _ inductionHypothesis => exact inductionHypothesis
  | live history due last before _ inductionHypothesis =>
    intro moment member
    rcases List.mem_append.mp member with old | isLast
    · exact inductionHypothesis moment old
    · obtain rfl := List.mem_singleton.mp isLast
      exact ⟨history, due, before⟩
  | sweep history last before _ inductionHypothesis =>
    intro moment member
    rcases List.mem_append.mp member with old | isLast
    · exact inductionHypothesis moment old
    · obtain rfl := List.mem_singleton.mp isLast
      exact ⟨history, moment.now, before⟩

end Vigil

/-! ### What is heard during a vigil -/

/-- A frame that came in, with the time and the interface. -/
structure Reception where
  time : Nat
  octets : Octets
  interfaceName : String
deriving DecidableEq

/-- The frame that came in at the moment, if one did. -/
def Moment.reception? (moment : Moment) : Option Reception :=
  match moment.event with
  | .receive octets interfaceName => some ⟨moment.now, octets, interfaceName⟩
  | _ => none

/-- The router has kept a vigil during which just these frames came in. -/
def Attends (start : Router) (began : Nat) (heard : List Reception) (now due : Nat)
    (router : Router) : Prop :=
  ∃ history, Vigil start began history now due router ∧
    history.filterMap Moment.reception? = heard

namespace Attends

variable {start router : Router} {began now due : Nat} {heard : List Reception}

theorem wait (later : Nat) (attends : Attends start began heard now due router)
    (passes : now ≤ later) (inTime : later ≤ due) : Attends start began heard later due router := by
  obtain ⟨history, vigil, heard_eq⟩ := attends
  exact ⟨history, .wait history now later due router vigil passes inTime, heard_eq⟩

theorem advertise (attends : Attends start began heard now due router) :
    Attends start began heard now due (router.advertise now).1 := by
  obtain ⟨history, vigil, rfl⟩ := attends
  refine ⟨_, .live history due ⟨router, now, .advertise⟩ vigil nofun, ?_⟩
  rw [List.filterMap_append]
  exact List.append_nil _

theorem sweep (attends : Attends start began heard now now router) :
    Attends start began heard now (now + start.settings.neighbors.retryInterval)
      (router.sweep now).1 := by
  obtain ⟨history, vigil, rfl⟩ := attends
  refine ⟨_, .sweep history ⟨router, now, .sweep⟩ vigil rfl, ?_⟩
  rw [List.filterMap_append]
  exact List.append_nil _

theorem receive (octets : Octets) (interfaceName : String)
    (attends : Attends start began heard now due router) :
    Attends start began (heard ++ [⟨now, octets, interfaceName⟩]) now due
      (router.receive octets interfaceName now).1 := by
  obtain ⟨history, vigil, rfl⟩ := attends
  refine ⟨_, .live history due ⟨router, now, .receive octets interfaceName⟩ vigil nofun, ?_⟩
  rw [List.filterMap_append]
  rfl

end Attends

end Router

/-! ### Clocks -/

namespace Timeline

open Router (Attends Reception)

/-- Among tasks that advertise, one task sweeps after every interval, and next when it is due. -/
inductive Guarded (interval due : Nat) : List BackgroundTask → Prop
  | sweeping (others : List BackgroundTask)
    (advertise : ∀ task ∈ others, task.duty = .advertise) :
    Guarded interval due (⟨.sweep, interval, due⟩ :: others)
  | advertising (task : BackgroundTask) (others : List BackgroundTask)
    (advertises : task.duty = .advertise) (rest : Guarded interval due others) :
    Guarded interval due (task :: others)

/-- No task that beats at all should have beaten before a moment. -/
def NoneOverdue (moment : Nat) (tasks : List BackgroundTask) : Prop :=
  ∀ task ∈ tasks, 0 < task.period → moment ≤ task.due

theorem Guarded.mem {interval due : Nat} {tasks : List BackgroundTask}
    (guarded : Guarded interval due tasks) : ⟨.sweep, interval, due⟩ ∈ tasks := by
  induction guarded with
  | sweeping => exact List.mem_cons_self
  | advertising _ _ _ _ inductionHypothesis => exact List.mem_cons_of_mem _ inductionHypothesis

theorem guarded_startTasks (settings : RouterSettings) (now : Nat) :
    Guarded settings.neighbors.retryInterval now (startTasks settings now) ∧
      NoneOverdue now (startTasks settings now) := by
  have guarded : Guarded settings.neighbors.retryInterval now
      [⟨.sweep, settings.neighbors.retryInterval, now⟩] := .sweeping [] nofun
  unfold startTasks
  split
  · refine ⟨.advertising _ _ rfl guarded, fun task member _ => ?_⟩
    simp only [List.mem_cons, List.not_mem_nil, or_false] at member
    rcases member with rfl | rfl <;> exact Nat.le_refl _
  · refine ⟨guarded, fun task member _ => ?_⟩
    obtain rfl := List.mem_singleton.mp member
    exact Nat.le_refl _

/-! ### Beats -/

/-- The next moment is one at which a task beats, and no task should have beaten before. -/
theorem nextMoment?_eq_some (limit moment : Nat) (tasks : List BackgroundTask)
    (found : nextMoment? limit tasks = some moment) :
    (∃ task ∈ tasks, 0 < task.period ∧ task.due = moment) ∧ moment ≤ limit ∧
      NoneOverdue moment tasks := by
  obtain ⟨member, least⟩ := List.min?_eq_some_iff.mp found
  simp only [List.mem_map, List.mem_filter, BackgroundTask.isDueBy, Bool.and_eq_true,
    decide_eq_true_eq] at member least
  obtain ⟨first, ⟨inTasks, beats, early⟩, rfl⟩ := member
  refine ⟨⟨first, inTasks, beats, rfl⟩, early, fun task member beats => ?_⟩
  rcases Nat.le_total task.due limit with before | beyond
  · exact least task.due ⟨task, ⟨member, beats, before⟩, rfl⟩
  · exact Nat.le_trans early beyond

theorem nextMoment?_eq_none_iff (limit : Nat) (tasks : List BackgroundTask) :
    nextMoment? limit tasks = none ↔ ∀ task ∈ tasks, ¬ task.isDueBy limit = true := by
  rw [nextMoment?, List.min?_eq_none_iff, List.map_eq_nil_iff, List.filter_eq_nil_iff]

theorem noneOverdue_of_none (limit : Nat) (tasks : List BackgroundTask)
    (none : nextMoment? limit tasks = none) : NoneOverdue limit tasks := by
  intro task member beats
  have notDue := (nextMoment?_eq_none_iff limit tasks).mp none task member
  simp only [BackgroundTask.isDueBy, Bool.and_eq_true, decide_eq_true_eq, not_and] at notDue
  exact Nat.le_of_not_le (notDue beats)

/-- The beats of a moment make no task overdue. -/
theorem noneOverdue_beat (moment : Nat) (router : Router) (tasks : List BackgroundTask)
    (noneOverdue : NoneOverdue moment tasks) :
    NoneOverdue moment (beat moment router tasks).2.1 := by
  intro task member beats
  rw [beat_tasks] at member
  obtain ⟨before, inTasks, rfl⟩ := List.mem_map.mp member
  split at beats
  · rename_i dueNow
    rw [if_pos dueNow]
    exact Nat.le_add_right_of_le (Nat.le_of_eq dueNow.2.symm)
  · rename_i notNow
    rw [if_neg notNow]
    exact noneOverdue before inTasks beats

section Beats

variable {start : Router} {began : Nat} {heard : List Reception}

/-- Advertising leaves the next sweep as it is. -/
theorem attends_beat_advertise (moment due : Nat) (router : Router) (tasks : List BackgroundTask)
    (advertise : ∀ task ∈ tasks, task.duty = .advertise)
    (attends : Attends start began heard moment due router) :
    Attends start began heard moment due (beat moment router tasks).1 := by
  induction tasks generalizing router with
  | nil => exact attends
  | cons task rest inductionHypothesis =>
    have advertiseRest := fun later member => advertise later (List.mem_cons_of_mem task member)
    simp only [beat]
    split
    · rw [advertise task List.mem_cons_self]
      exact inductionHypothesis _ advertiseRest attends.advertise
    · exact inductionHypothesis _ advertiseRest attends

/-- The beats of a moment up to which the vigil lasted let it last, and if the sweep was due, it
happened. -/
theorem attends_beat (moment due : Nat) (router : Router) (tasks : List BackgroundTask)
    (guarded : Guarded start.settings.neighbors.retryInterval due tasks)
    (attends : Attends start began heard moment due router) :
    ∃ due, Attends start began heard moment due (beat moment router tasks).1 ∧
      Guarded start.settings.neighbors.retryInterval due (beat moment router tasks).2.1 := by
  induction guarded generalizing router with
  | sweeping others advertise =>
    simp only [beat]
    split
    · rename_i sweepsNow
      obtain rfl : due = moment := sweepsNow.2
      exact ⟨_, attends_beat_advertise due _ _ others advertise attends.sweep,
        .sweeping _ (duty_beat (· = .advertise) due _ others advertise)⟩
    · exact ⟨_, attends_beat_advertise moment due _ others advertise attends,
        .sweeping _ (duty_beat (· = .advertise) moment _ others advertise)⟩
  | advertising task others advertises rest inductionHypothesis =>
    simp only [beat]
    split
    · rw [advertises]
      obtain ⟨_, kept, guarded⟩ := inductionHypothesis _ attends.advertise
      exact ⟨_, kept, .advertising task.next _ advertises guarded⟩
    · obtain ⟨_, kept, guarded⟩ := inductionHypothesis _ attends
      exact ⟨_, kept, .advertising task _ advertises guarded⟩

/-- Running all beats up to a limit lets the vigil last until then. -/
theorem attends_run (positive : 0 < start.settings.neighbors.retryInterval) (limit : Nat)
    (router : Router) (tasks : List BackgroundTask) (now due : Nat)
    (guarded : Guarded start.settings.neighbors.retryInterval due tasks)
    (noneOverdue : NoneOverdue now tasks) (ahead : now ≤ limit)
    (attends : Attends start began heard now due router) :
    ∃ due, Attends start began heard limit due (run limit router tasks).1 ∧
      Guarded start.settings.neighbors.retryInterval due (run limit router tasks).2.1 ∧
      NoneOverdue limit (run limit router tasks).2.1 := by
  fun_induction run limit router tasks generalizing now due with
  | case1 router tasks none =>
    have noneLate := noneOverdue_of_none limit tasks none
    exact ⟨due, attends.wait limit ahead (noneLate _ guarded.mem positive), guarded, noneLate⟩
  | case2 router tasks moment found after last lastTasks later ran inductionHypothesis =>
    -- the next moment is not past the sweep, as the sweeping task beats too
    obtain ⟨⟨first, inTasks, beats, dueNow⟩, early, noneLate⟩ :=
      nextMoment?_eq_some limit moment tasks found
    have reached := attends.wait moment (dueNow ▸ noneOverdue first inTasks beats)
      (noneLate _ guarded.mem positive)
    obtain ⟨due, kept, guarded⟩ := attends_beat moment due router tasks guarded reached
    rw [ran] at inductionHypothesis
    exact inductionHypothesis moment due guarded
      (noneOverdue_beat moment router tasks noneLate) early kept

end Beats

/-! ### Commands -/

/-- The frames that come in with some commands, if the clock shows a time at first. -/
def heardBy (now : Nat) : List Command → List Reception
  | [] => []
  | .advance duration :: rest => heardBy (now + duration) rest
  | .receive octets interfaceName :: rest => ⟨now, octets, interfaceName⟩ :: heardBy now rest
  | .start :: rest | .shutdown :: rest => heardBy now rest

/-- The clock of a router that keeps the vigil that it began, as its next sweep is a beat. -/
def Watches (start : Router) (began : Nat) (heard : List Reception) (timeline : Timeline) : Prop :=
  ∃ due, Attends start began heard timeline.now due timeline.router ∧
    Guarded start.settings.neighbors.retryInterval due timeline.tasks ∧
    NoneOverdue timeline.now timeline.tasks

section Commands

theorem watches_start (router : Router) (began : Nat)
    (positive : 0 < router.settings.neighbors.retryInterval) :
    Watches router began [] (start ⟨router, began, []⟩).1 := by
  obtain ⟨guarded, noneOverdue⟩ := guarded_startTasks router.settings began
  exact attends_run positive began router _ began began guarded noneOverdue (Nat.le_refl _)
    ⟨[], .begin, rfl⟩

variable {start : Router} {began : Nat} {heard : List Reception} {timeline : Timeline}

theorem Watches.advance (watches : timeline.Watches start began heard)
    (positive : 0 < start.settings.neighbors.retryInterval) (duration : Nat) :
    (timeline.advance duration).1.Watches start began heard := by
  obtain ⟨due, attends, guarded, noneOverdue⟩ := watches
  exact attends_run positive (timeline.now + duration) timeline.router timeline.tasks timeline.now
    due guarded noneOverdue (Nat.le_add_right _ _) attends

theorem Watches.receive (watches : timeline.Watches start began heard) (octets : Octets)
    (interfaceName : String) :
    (timeline.receive octets interfaceName).1.Watches start began
      (heard ++ [⟨timeline.now, octets, interfaceName⟩]) := by
  obtain ⟨due, attends, guarded, noneOverdue⟩ := watches
  exact ⟨due, attends.receive octets interfaceName, guarded, noneOverdue⟩

/-- A router that receives frames and lets time pass, in any order, keeps its vigil. -/
theorem Watches.obeyAll (watches : timeline.Watches start began heard)
    (positive : 0 < start.settings.neighbors.retryInterval) (commands : List Command)
    (steady : ∀ command ∈ commands, command ≠ .start ∧ command ≠ .shutdown) :
    (timeline.obeyAll commands).Watches start began (heard ++ heardBy timeline.now commands) := by
  induction commands generalizing timeline heard with
  | nil => exact (List.append_nil heard).symm ▸ watches
  | cons command rest inductionHypothesis =>
    obtain ⟨first, steadyRest⟩ := List.forall_mem_cons.mp steady
    cases command with
    | start => exact absurd rfl first.1
    | shutdown => exact absurd rfl first.2
    | advance duration => exact inductionHypothesis (watches.advance positive duration) steadyRest
    | receive octets interfaceName =>
      have later := inductionHypothesis (watches.receive octets interfaceName) steadyRest
      rwa [List.append_assoc] at later

end Commands

end Timeline

end Ipv4Router
