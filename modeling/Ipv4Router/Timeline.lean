/-
This file runs a router on a clock. Starting the router adds background tasks that
beat at the moment of the start and then after every period; passing time runs every
beat that falls due, in order of time. Shutting down ends all tasks. A task with
period zero never beats.
-/

import Ipv4Router.Router.Reception

namespace Ipv4Router

/-- What a background task does at each beat. -/
inductive Duty
  | advertise
  | sweep
deriving DecidableEq

/-- A background task and the moment of its next beat. -/
structure BackgroundTask where
  duty : Duty
  period : Nat
  due : Nat
deriving DecidableEq

/-- A router with its clock and background tasks. -/
structure Timeline where
  router : Router
  now : Nat := 0
  tasks : List BackgroundTask := []
deriving DecidableEq

/-- An effect and the moment at which it happens. -/
structure Timed where
  time : Nat
  effect : Effect
deriving DecidableEq

namespace Duty

/-- One beat of the duty. -/
def perform (duty : Duty) (router : Router) (now : Nat) : Router × List Effect :=
  match duty with
  | advertise => router.advertise now
  | sweep => router.sweep now

/-- What is noted when the task ends. -/
def stopNotice : Duty → Notice
  | advertise => .advertisingStopped
  | sweep => .sweepStopped

end Duty

namespace BackgroundTask

/-- The task beats no later than a moment. -/
def isDueBy (limit : Nat) (task : BackgroundTask) : Bool := 0 < task.period && task.due ≤ limit

/-- The task after its beat. -/
def next (task : BackgroundTask) : BackgroundTask := { task with due := task.due + task.period }

/-- The time that a task has left until a limit; less after each beat up to the limit. -/
def remaining (limit : Nat) (task : BackgroundTask) : Nat := limit + 1 - task.due

/-- What is noted when the task ends. -/
def stopNotice (task : BackgroundTask) : Notice :=
  if 0 < task.period then task.duty.stopNotice else .taskFailed

theorem remaining_next_le (limit : Nat) (task : BackgroundTask) :
    task.next.remaining limit ≤ task.remaining limit := by
  simp only [next, remaining]
  omega

theorem remaining_next_lt (limit : Nat) (task : BackgroundTask) (due : task.isDueBy limit = true) :
    task.next.remaining limit < task.remaining limit := by
  simp only [isDueBy, Bool.and_eq_true, decide_eq_true_eq] at due
  simp only [next, remaining]
  omega

end BackgroundTask

namespace Timeline

/-- A router that has not started, at time zero. -/
def ofRouter (router : Router) : Timeline := { router }

/-! ### Beats -/

/-- The moment of the next beat up to a limit. -/
def nextMoment? (limit : Nat) (tasks : List BackgroundTask) : Option Nat :=
  ((tasks.filter (BackgroundTask.isDueBy limit)).map BackgroundTask.due).min?

/-- Lets every task that is due at a moment beat, one after the other. -/
def beat (moment : Nat) :
    Router → List BackgroundTask → Router × List BackgroundTask × List Effect
  | router, [] => (router, [], [])
  | router, task :: rest =>
    if 0 < task.period ∧ task.due = moment then
      let (router, effects) := task.duty.perform router moment
      let (router, rest, others) := beat moment router rest
      (router, task.next :: rest, effects ++ others)
    else
      let (router, rest, others) := beat moment router rest
      (router, task :: rest, others)

/-- The tasks after the beats of a moment. -/
theorem beat_tasks (moment : Nat) (router : Router) (tasks : List BackgroundTask) :
    (beat moment router tasks).2.1 = tasks.map fun task =>
      if 0 < task.period ∧ task.due = moment then task.next else task := by
  induction tasks generalizing router with
  | nil => rfl
  | cons task rest inductionHypothesis =>
    simp only [beat, List.map_cons]
    split <;> simp [inductionHypothesis]

/-- The time that all tasks together have left until a limit. -/
def remaining (limit : Nat) : List BackgroundTask → Nat
  | [] => 0
  | task :: rest => task.remaining limit + remaining limit rest

/-- The beats of the next moment use time up. -/
theorem remaining_beat_lt (limit moment : Nat) (router : Router) (tasks : List BackgroundTask)
    (found : nextMoment? limit tasks = some moment) :
    remaining limit (beat moment router tasks).2.1 < remaining limit tasks := by
  have member := List.min?_mem found
  simp only [List.mem_map, List.mem_filter] at member
  obtain ⟨first, ⟨inTasks, due⟩, atMoment⟩ := member
  rw [beat_tasks]
  clear found
  induction tasks with
  | nil => cases inTasks
  | cons task rest inductionHypothesis =>
    have headLe : BackgroundTask.remaining limit
        (if 0 < task.period ∧ task.due = moment then task.next else task) ≤
          task.remaining limit := by
      split
      · exact BackgroundTask.remaining_next_le limit task
      · exact Nat.le_refl _
    have restLe : ∀ others : List BackgroundTask,
        remaining limit (others.map fun task =>
          if 0 < task.period ∧ task.due = moment then task.next else task) ≤
            remaining limit others := by
      intro others
      induction others with
      | nil => exact Nat.le_refl _
      | cons other others hypothesis =>
        simp only [remaining, List.map_cons]
        refine Nat.add_le_add ?_ hypothesis
        split
        · exact BackgroundTask.remaining_next_le limit other
        · exact Nat.le_refl _
    simp only [remaining, List.map_cons]
    rcases List.mem_cons.mp inTasks with rfl | inRest
    · have positive : 0 < first.period := by
        simp only [BackgroundTask.isDueBy, Bool.and_eq_true, decide_eq_true_eq] at due
        exact due.1
      rw [if_pos ⟨positive, atMoment⟩]
      exact Nat.add_lt_add_of_lt_of_le (BackgroundTask.remaining_next_lt limit first due)
        (restLe rest)
    · exact Nat.add_lt_add_of_le_of_lt headLe (inductionHypothesis inRest)

/-- Runs all beats up to a limit, in order of time. -/
def run (limit : Nat) (router : Router) (tasks : List BackgroundTask) :
    Router × List BackgroundTask × List Timed :=
  match _ : nextMoment? limit tasks with
  | none => (router, tasks, [])
  | some moment =>
    let after := beat moment router tasks
    let (router, tasks, later) := run limit after.1 after.2.1
    (router, tasks, after.2.2.map (Timed.mk moment) ++ later)
termination_by remaining limit tasks
decreasing_by exact remaining_beat_lt limit moment router tasks (by assumption)

/-! ### Steps -/

/-- Lets time pass. -/
def advance (timeline : Timeline) (duration : Nat) : Timeline × List Timed :=
  let limit := timeline.now + duration
  let (router, tasks, effects) := run limit timeline.router timeline.tasks
  (⟨router, limit, tasks⟩, effects)

/-- The tasks of a router that starts at a moment. -/
def startTasks (settings : RouterSettings) (now : Nat) : List BackgroundTask :=
  let advertising := ⟨.advertise, settings.routing.updateInterval, now⟩
  let sweeping := ⟨.sweep, settings.neighbors.retryInterval, now⟩
  if settings.routingEnabled then [advertising, sweeping] else [sweeping]

/-- Starts the background tasks; their first beats happen at once. -/
def start (timeline : Timeline) : Timeline × List Timed :=
  let now := timeline.now
  let tasks := timeline.tasks ++ startTasks timeline.router.settings now
  let (router, tasks, effects) := run now timeline.router tasks
  (⟨router, now, tasks⟩, ⟨now, .note (.started router.registry.size)⟩ :: effects)

/-- Ends the background tasks. -/
def shutdown (timeline : Timeline) : Timeline × List Timed :=
  ({ timeline with tasks := [] },
    (timeline.tasks.map BackgroundTask.stopNotice ++ [Notice.stopped]).map fun notice =>
      ⟨timeline.now, .note notice⟩)

/-- Handles the octets received on a named interface. -/
def receive (timeline : Timeline) (octets : Octets) (interfaceName : String) :
    Timeline × List Effect :=
  let (router, effects) := timeline.router.receive octets interfaceName timeline.now
  ({ timeline with router }, effects)

/-- Puts in the attached subnets. -/
def prepare (timeline : Timeline) : Timeline × List Effect :=
  let (router, effects) := timeline.router.prepare timeline.now
  ({ timeline with router }, effects)

end Timeline

end Ipv4Router
