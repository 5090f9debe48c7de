/-
This file proves that time can be passed in any portions and that it does not matter in
which order the tasks of one moment beat. A task beats when it is due and then after
every period; letting time pass performs just these beats, in order of time. The two
duties never read what the other one writes, so their beats may change places, and two
beats of one duty at one moment are the same beat.
-/

import Ipv4Router.Proofs.Router.Vigil

namespace Ipv4Router

/-- One beat of some task. -/
structure Beat where
  moment : Nat
  duty : Duty
deriving DecidableEq

namespace Timeline

/-- Performs beats in the order in which they are listed. -/
def performAll : Router → List Beat → Router × List Timed
  | router, [] => (router, [])
  | router, first :: rest =>
    let (router, effects) := first.duty.perform router first.moment
    let (router, later) := performAll router rest
    (router, effects.map (Timed.mk first.moment) ++ later)

/-- Two outcomes with the same router, and with the same effects at the same times, in any
order. -/
structure SameOutcome (outcome other : Router × List Timed) : Prop where
  router : outcome.1 = other.1
  effects : outcome.2.Perm other.2

theorem SameOutcome.rfl {outcome : Router × List Timed} : SameOutcome outcome outcome :=
  ⟨Eq.refl _, .refl _⟩

theorem SameOutcome.symm {outcome other : Router × List Timed}
    (same : SameOutcome outcome other) : SameOutcome other outcome :=
  ⟨same.router.symm, same.effects.symm⟩

theorem SameOutcome.trans {first second third : Router × List Timed}
    (same : SameOutcome first second) (next : SameOutcome second third) :
    SameOutcome first third :=
  ⟨same.router.trans next.router, same.effects.trans next.effects⟩

/-! ### Beats that change places -/

section Order

variable (router : Router)

/-- No beat changes the interfaces or the settings. -/
theorem performAll_keeps (beats : List Beat) :
    (performAll router beats).1.registry = router.registry ∧
      (performAll router beats).1.settings = router.settings := by
  induction beats generalizing router with
  | nil => exact ⟨rfl, rfl⟩
  | cons first rest inductionHypothesis =>
    obtain ⟨moment, duty⟩ := first
    obtain ⟨registry, settings⟩ := inductionHypothesis (duty.perform router moment).1
    cases duty <;> exact ⟨registry, settings⟩

theorem performAll_append (beats others : List Beat) :
    performAll router (beats ++ others) =
      ((performAll (performAll router beats).1 others).1,
        (performAll router beats).2 ++ (performAll (performAll router beats).1 others).2) := by
  induction beats generalizing router with
  | nil => rfl
  | cons first rest inductionHypothesis =>
    simp only [List.cons_append, performAll, inductionHypothesis, List.append_assoc]

theorem SameOutcome.cons (first : Beat) {beats others : List Beat}
    (same : SameOutcome (performAll (first.duty.perform router first.moment).1 beats)
      (performAll (first.duty.perform router first.moment).1 others)) :
    SameOutcome (performAll router (first :: beats)) (performAll router (first :: others)) :=
  ⟨same.router, same.effects.append_left _⟩

/-- Advertising leaves the neighbours alone and sweeping the routes, whenever they happen. -/
theorem performAll_swap (sweeping advertising : Nat) (rest : List Beat) :
    SameOutcome (performAll router (⟨sweeping, .sweep⟩ :: ⟨advertising, .advertise⟩ :: rest))
      (performAll router (⟨advertising, .advertise⟩ :: ⟨sweeping, .sweep⟩ :: rest)) := by
  refine ⟨rfl, ?_⟩
  simp only [performAll, ← List.append_assoc]
  exact List.perm_append_comm.append_right _

/-- A sweep may wait for any number of advertisements. -/
theorem performAll_sweep_after (moment : Nat) (advertisements rest : List Beat)
    (advertise : ∀ beat ∈ advertisements, beat.duty = .advertise) :
    SameOutcome (performAll router (⟨moment, .sweep⟩ :: (advertisements ++ rest)))
      (performAll router (advertisements ++ ⟨moment, .sweep⟩ :: rest)) := by
  induction advertisements generalizing router with
  | nil => exact .rfl
  | cons first others inductionHypothesis =>
    obtain ⟨advertising, duty⟩ := first
    obtain rfl : duty = .advertise := advertise _ List.mem_cons_self
    refine (performAll_swap router moment advertising (others ++ rest)).trans ?_
    exact .cons router ⟨advertising, .advertise⟩ (inductionHypothesis _ fun beat member =>
      advertise beat (List.mem_cons_of_mem _ member))

/-- The beats of one duty among others. -/
def only (duty : Duty) (beats : List Beat) : List Beat := beats.filter (·.duty = duty)

/-- All advertisements might as well come before all sweeps. -/
theorem performAll_separate (beats : List Beat) :
    SameOutcome (performAll router beats)
      (performAll router (only .advertise beats ++ only .sweep beats)) := by
  induction beats generalizing router with
  | nil => exact .rfl
  | cons first rest inductionHypothesis =>
    obtain ⟨moment, duty⟩ := first
    cases duty with
    | advertise => exact .cons router ⟨moment, .advertise⟩ (inductionHypothesis _)
    | sweep =>
      -- the rest is separated already, and its advertisements may all come first
      refine (SameOutcome.cons router ⟨moment, .sweep⟩ (inductionHypothesis _)).trans ?_
      exact performAll_sweep_after router moment (only .advertise rest) (only .sweep rest)
        fun beat member => of_decide_eq_true (List.mem_filter.mp member).2

/-- No beat comes before an earlier one. -/
def InOrder (beats : List Beat) : Prop := beats.Pairwise (·.moment ≤ ·.moment)

/-- The beats of one duty have a single order. -/
theorem only_eq_of_perm (duty : Duty) {beats others : List Beat} (inOrder : InOrder beats)
    (othersInOrder : InOrder others) (perm : beats.Perm others) :
    only duty beats = only duty others := by
  refine List.Perm.eq_of_pairwise (fun beat other member otherMember le ge => ?_)
    (inOrder.filter _) (othersInOrder.filter _) (perm.filter _)
  have same : beat.duty = other.duty :=
    (of_decide_eq_true (List.mem_filter.mp member).2).trans
      (of_decide_eq_true (List.mem_filter.mp otherMember).2).symm
  cases beat
  cases other
  rw [Beat.mk.injEq]
  exact ⟨Nat.le_antisymm le ge, same⟩

/-- Two orders of the same beats that both follow time have the same outcome. -/
theorem performAll_sameOutcome_of_perm {beats others : List Beat} (inOrder : InOrder beats)
    (othersInOrder : InOrder others) (perm : beats.Perm others) :
    SameOutcome (performAll router beats) (performAll router others) := by
  refine (performAll_separate router beats).trans ?_
  rw [only_eq_of_perm .advertise inOrder othersInOrder perm,
    only_eq_of_perm .sweep inOrder othersInOrder perm]
  exact (performAll_separate router others).symm

end Order

end Timeline

/-! ### The beats of a task -/

namespace BackgroundTask

/-- How often the task beats up to a limit. -/
def countBy (limit : Nat) (task : BackgroundTask) : Nat :=
  if task.isDueBy limit then (limit - task.due) / task.period + 1 else 0

/-- The beats of the task up to a limit: one when it is due, and one after every period. -/
def beatsBy (limit : Nat) (task : BackgroundTask) : List Beat :=
  (List.range (task.countBy limit)).map fun count => ⟨task.due + count * task.period, task.duty⟩

/-- The task after all its beats up to a limit. -/
def afterBeats (limit : Nat) (task : BackgroundTask) : BackgroundTask :=
  { task with due := task.due + task.countBy limit * task.period }

section Counting

variable {limit : Nat} {task : BackgroundTask}

theorem isDueBy_iff : task.isDueBy limit = true ↔ 0 < task.period ∧ task.due ≤ limit := by
  rw [isDueBy, Bool.and_eq_true, decide_eq_true_eq, decide_eq_true_eq]

theorem countBy_of_due (due : task.isDueBy limit = true) :
    task.countBy limit = task.next.countBy limit + 1 := by
  obtain ⟨positive, early⟩ := isDueBy_iff.mp due
  rw [countBy, if_pos due, countBy]
  by_cases again : task.next.isDueBy limit = true
  · have later : task.due + task.period ≤ limit := (isDueBy_iff.mp again).2
    have split : limit - task.due = (limit - task.next.due) + task.period := by
      simp only [next]
      omega
    rw [if_pos again, split, Nat.add_div_right _ positive]
    rfl
  · have notLater : ¬ task.due + task.period ≤ limit := fun later =>
      again (isDueBy_iff.mpr ⟨positive, later⟩)
    have beyond : limit - task.due < task.period := by omega
    rw [if_neg again, Nat.div_eq_of_lt beyond]

theorem beatsBy_of_not_due (notDue : ¬ task.isDueBy limit = true) : task.beatsBy limit = [] := by
  rw [beatsBy, countBy, if_neg notDue]
  rfl

theorem afterBeats_of_not_due (notDue : ¬ task.isDueBy limit = true) :
    task.afterBeats limit = task := by
  rw [afterBeats, countBy, if_neg notDue, Nat.zero_mul]
  rfl

theorem beatsBy_of_due (due : task.isDueBy limit = true) :
    task.beatsBy limit = ⟨task.due, task.duty⟩ :: task.next.beatsBy limit := by
  rw [beatsBy, countBy_of_due due, List.range_succ_eq_map, List.map_cons, List.map_map,
    Nat.zero_mul, Nat.add_zero]
  refine congrArg _ (List.map_congr_left fun count _ => ?_)
  simp only [Function.comp_apply, Nat.succ_mul, next]
  rw [Nat.add_comm (count * _), Nat.add_assoc]

theorem afterBeats_of_due (due : task.isDueBy limit = true) :
    task.afterBeats limit = task.next.afterBeats limit := by
  simp only [afterBeats, countBy_of_due due, Nat.succ_mul, next]
  rw [Nat.add_comm (_ * _), Nat.add_assoc]

theorem lt_countBy_iff (count : Nat) :
    count < task.countBy limit ↔ 0 < task.period ∧ task.due + count * task.period ≤ limit := by
  by_cases due : task.isDueBy limit = true
  · obtain ⟨positive, early⟩ := isDueBy_iff.mp due
    rw [countBy, if_pos due, Nat.lt_succ_iff, Nat.le_div_iff_mul_le positive]
    exact ⟨fun within => ⟨positive, by omega⟩, fun within => by omega⟩
  · rw [countBy, if_neg due]
    refine ⟨fun none => absurd none (Nat.not_lt_zero count), fun within => absurd ?_ due⟩
    exact isDueBy_iff.mpr ⟨within.1, Nat.le_trans (Nat.le_add_right _ _) within.2⟩

/-- A task with a period beats when it is due and after every period, and at no other times. -/
theorem mem_beatsBy {beat : Beat} :
    beat ∈ task.beatsBy limit ↔ 0 < task.period ∧ beat.duty = task.duty ∧ beat.moment ≤ limit ∧
      ∃ count, beat.moment = task.due + count * task.period := by
  rw [beatsBy, List.mem_map]
  constructor
  · rintro ⟨count, within, rfl⟩
    obtain ⟨positive, early⟩ := (lt_countBy_iff count).mp (List.mem_range.mp within)
    exact ⟨positive, rfl, early, count, rfl⟩
  · rintro ⟨positive, duty, early, count, moment⟩
    refine ⟨count, List.mem_range.mpr ((lt_countBy_iff count).mpr ⟨positive, moment ▸ early⟩), ?_⟩
    rw [← moment, ← duty]

theorem due_le_of_mem_beatsBy {beat : Beat} (member : beat ∈ task.beatsBy limit) :
    0 < task.period ∧ task.due ≤ beat.moment := by
  obtain ⟨positive, -, -, count, moment⟩ := mem_beatsBy.mp member
  exact ⟨positive, moment ▸ Nat.le_add_right _ _⟩

/-- What holds of every task that is not due, and of every task that is due if it holds after the
next beat, holds of every task. -/
theorem beat_induction (limit : Nat) {property : BackgroundTask → Prop}
    (waits : ∀ task, ¬ task.isDueBy limit = true → property task)
    (beats : ∀ task, task.isDueBy limit = true → property task.next → property task)
    (task : BackgroundTask) : property task := by
  by_cases due : task.isDueBy limit = true
  · exact beats task due (beat_induction limit waits beats task.next)
  · exact waits task due
termination_by task.remaining limit
decreasing_by exact remaining_next_lt limit task due

theorem lt_due_afterBeats (positive : 0 < task.period) : limit < (task.afterBeats limit).due := by
  induction task using beat_induction limit with
  | waits task notDue =>
    rw [afterBeats_of_not_due notDue]
    exact Nat.lt_of_not_le fun early => notDue (isDueBy_iff.mpr ⟨positive, early⟩)
  | beats task due inductionHypothesis =>
    rw [afterBeats_of_due due]
    exact inductionHypothesis positive

section Stops

variable {first : Nat} (within : first ≤ limit) (task : BackgroundTask)

include within

theorem isDueBy_of_le (due : task.isDueBy first = true) : task.isDueBy limit = true :=
  isDueBy_iff.mpr ⟨(isDueBy_iff.mp due).1, Nat.le_trans (isDueBy_iff.mp due).2 within⟩

theorem afterBeats_afterBeats :
    (task.afterBeats first).afterBeats limit = task.afterBeats limit := by
  induction task using beat_induction first with
  | waits task notDue => rw [afterBeats_of_not_due notDue]
  | beats task due inductionHypothesis =>
    rw [afterBeats_of_due due, inductionHypothesis,
      afterBeats_of_due (isDueBy_of_le within task due)]

/-- A stop on the way leaves the later beats as they are. -/
theorem beatsBy_afterBeats :
    (task.afterBeats first).beatsBy limit =
      (task.beatsBy limit).filter fun beat => first < beat.moment := by
  induction task using beat_induction first with
  | waits task notDue =>
    rw [afterBeats_of_not_due notDue]
    refine (List.filter_eq_self.mpr fun beat member => decide_eq_true ?_).symm
    obtain ⟨positive, late⟩ := due_le_of_mem_beatsBy member
    refine Nat.lt_of_lt_of_le (Nat.lt_of_not_le fun early => ?_) late
    exact notDue (isDueBy_iff.mpr ⟨positive, early⟩)
  | beats task due inductionHypothesis =>
    rw [afterBeats_of_due due, inductionHypothesis,
      beatsBy_of_due (isDueBy_of_le within task due), List.filter_cons_of_neg]
    exact fun late => Nat.not_lt_of_ge (isDueBy_iff.mp due).2 (of_decide_eq_true late)

end Stops

end Counting

end BackgroundTask

namespace Timeline

/-- The beats that some tasks have up to a limit, task by task. -/
def beatsBy (limit : Nat) (tasks : List BackgroundTask) : List Beat :=
  tasks.flatMap (BackgroundTask.beatsBy limit)

/-- The beats of the tasks that are due at a moment. -/
def beatsAt (moment : Nat) : List BackgroundTask → List Beat
  | [] => []
  | task :: rest =>
    if 0 < task.period ∧ task.due = moment then ⟨moment, task.duty⟩ :: beatsAt moment rest
    else beatsAt moment rest

theorem moment_of_mem_beatsAt {moment : Nat} {tasks : List BackgroundTask} {beat : Beat}
    (member : beat ∈ beatsAt moment tasks) : beat.moment = moment := by
  induction tasks with
  | nil => cases member
  | cons task rest inductionHypothesis =>
    rw [beatsAt] at member
    split at member
    · rcases List.mem_cons.mp member with rfl | inRest
      · rfl
      · exact inductionHypothesis inRest
    · exact inductionHypothesis member

theorem inOrder_beatsAt (moment : Nat) (tasks : List BackgroundTask) :
    InOrder (beatsAt moment tasks) :=
  List.pairwise_of_forall_mem_list fun _ member _ otherMember =>
    Nat.le_of_eq ((moment_of_mem_beatsAt member).trans (moment_of_mem_beatsAt otherMember).symm)

theorem le_of_mem_beatsBy {limit moment : Nat} {tasks : List BackgroundTask} {beat : Beat}
    (noneOverdue : NoneOverdue moment tasks) (member : beat ∈ beatsBy limit tasks) :
    moment ≤ beat.moment := by
  obtain ⟨task, inTasks, ofTask⟩ := List.mem_flatMap.mp member
  obtain ⟨positive, late⟩ := BackgroundTask.due_le_of_mem_beatsBy ofTask
  exact Nat.le_trans (noneOverdue task inTasks positive) late

theorem beat_eq_performAll (moment : Nat) (router : Router) (tasks : List BackgroundTask) :
    performAll router (beatsAt moment tasks) =
      ((beat moment router tasks).1, (beat moment router tasks).2.2.map (Timed.mk moment)) := by
  induction tasks generalizing router with
  | nil => rfl
  | cons task rest inductionHypothesis =>
    simp only [beat, beatsAt]
    split
    · simp only [performAll, inductionHypothesis, List.map_append]
    · exact inductionHypothesis router

/-- What the tasks become with the beats of a moment. -/
def nextAt (moment : Nat) (task : BackgroundTask) : BackgroundTask :=
  if 0 < task.period ∧ task.due = moment then task.next else task

section Moments

variable {limit moment : Nat} (early : moment ≤ limit)

include early

theorem afterBeats_nextAt (task : BackgroundTask) :
    (nextAt moment task).afterBeats limit = task.afterBeats limit := by
  rw [nextAt]
  split
  · rename_i dueNow
    exact (BackgroundTask.afterBeats_of_due
      (BackgroundTask.isDueBy_iff.mpr ⟨dueNow.1, dueNow.2 ▸ early⟩)).symm
  · rfl

/-- The beats up to a limit are those of the first moment and those that are left after it. -/
theorem beatsBy_perm (tasks : List BackgroundTask) :
    (beatsBy limit tasks).Perm
      (beatsAt moment tasks ++ beatsBy limit (tasks.map (nextAt moment))) := by
  induction tasks with
  | nil => exact .refl _
  | cons task rest inductionHypothesis =>
    simp only [beatsBy, List.map_cons, List.flatMap_cons]
    rw [← beatsBy, ← beatsBy, nextAt]
    rw [beatsAt]
    split
    · rename_i dueNow
      have due := BackgroundTask.isDueBy_iff.mpr ⟨dueNow.1, dueNow.2 ▸ early⟩
      rw [BackgroundTask.beatsBy_of_due due, dueNow.2]
      refine .cons _ ((inductionHypothesis.append_left _).trans ?_)
      exact List.perm_append_comm_assoc _ _ _
    · exact (inductionHypothesis.append_left _).trans (List.perm_append_comm_assoc _ _ _)

end Moments

/-! ### Running -/

section Unfolding

variable {limit moment : Nat} {router : Router} {tasks : List BackgroundTask}

theorem run_of_none (none : nextMoment? limit tasks = none) :
    run limit router tasks = (router, tasks, []) := by
  rw [run]
  split
  · rfl
  · rename_i found
    rw [none] at found
    cases found

theorem run_of_some (found : nextMoment? limit tasks = some moment) {last : Router}
    {lastTasks : List BackgroundTask} {later : List Timed}
    (ran : run limit (beat moment router tasks).1 (beat moment router tasks).2.1 =
      (last, lastTasks, later)) :
    run limit router tasks =
      (last, lastTasks, (beat moment router tasks).2.2.map (Timed.mk moment) ++ later) := by
  rw [run]
  split
  · rename_i none
    rw [none] at found
    cases found
  · rename_i other foundOther
    obtain rfl : other = moment := Option.some.inj (foundOther.symm.trans found)
    simp only [ran]

end Unfolding

/-- What a run up to a limit does: the beats of all tasks, in order of time. -/
structure Performs (limit : Nat) (router : Router) (tasks : List BackgroundTask)
    (beats : List Beat) : Prop where
  inOrder : InOrder beats
  perm : beats.Perm (beatsBy limit tasks)
  run_eq : run limit router tasks =
    ((performAll router beats).1, tasks.map (BackgroundTask.afterBeats limit),
      (performAll router beats).2)

theorem exists_performs (limit : Nat) (router : Router) (tasks : List BackgroundTask) :
    ∃ beats, Performs limit router tasks beats := by
  fun_induction run limit router tasks with
  | case1 router tasks none =>
    have notDue := (nextMoment?_eq_none_iff limit tasks).mp none
    have beats_eq : beatsBy limit tasks = [] := List.flatMap_eq_nil_iff.mpr fun task member =>
      BackgroundTask.beatsBy_of_not_due (notDue task member)
    have tasks_eq : tasks.map (BackgroundTask.afterBeats limit) = tasks :=
      (List.map_congr_left fun task member =>
        BackgroundTask.afterBeats_of_not_due (notDue task member)).trans (List.map_id _)
    refine ⟨[], .nil, by rw [beats_eq], ?_⟩
    rw [tasks_eq, run_of_none none]
    rfl
  | case2 router tasks moment found after last lastTasks later ran inductionHypothesis =>
    obtain ⟨-, early, noneOverdue⟩ := nextMoment?_eq_some limit moment tasks found
    obtain ⟨beats, performs⟩ := inductionHypothesis
    -- nothing is overdue after the beats of the moment, so all others come later
    have tasksAfter : after.2.1 = tasks.map (nextAt moment) := beat_tasks moment router tasks
    refine ⟨beatsAt moment tasks ++ beats, ?_, ?_, ?_⟩
    · have later : NoneOverdue moment after.2.1 :=
        noneOverdue_beat moment router tasks noneOverdue
      refine List.pairwise_append.mpr ⟨inOrder_beatsAt moment tasks, performs.inOrder, ?_⟩
      intro beat now other member
      rw [moment_of_mem_beatsAt now]
      exact le_of_mem_beatsBy later (performs.perm.mem_iff.mp member)
    · refine .trans (.append_left _ performs.perm) ?_
      exact tasksAfter ▸ (beatsBy_perm early tasks).symm
    · have tasks_eq : after.2.1.map (BackgroundTask.afterBeats limit) =
          tasks.map (BackgroundTask.afterBeats limit) := by
        rw [tasksAfter, List.map_map]
        exact List.map_congr_left fun task _ => afterBeats_nextAt early task
      rw [run_of_some found performs.run_eq, performAll_append, beat_eq_performAll, tasks_eq]

/-- Running the tasks leaves the settings as they are and lets each task beat. -/
theorem run_tasks (limit : Nat) (router : Router) (tasks : List BackgroundTask) :
    (run limit router tasks).1.settings = router.settings ∧
      (run limit router tasks).2.1 = tasks.map (BackgroundTask.afterBeats limit) := by
  obtain ⟨beats, performs⟩ := exists_performs limit router tasks
  rw [performs.run_eq]
  exact ⟨(performAll_keeps router beats).2, rfl⟩

theorem nextMoment?_eq_some_of_le {first limit moment : Nat} {tasks : List BackgroundTask}
    (within : first ≤ limit) (found : nextMoment? first tasks = some moment) :
    nextMoment? limit tasks = some moment := by
  obtain ⟨⟨task, inTasks, positive, dueNow⟩, early, noneOverdue⟩ :=
    nextMoment?_eq_some first moment tasks found
  refine List.min?_eq_some_iff.mpr ⟨List.mem_map.mpr ⟨task, List.mem_filter.mpr ⟨inTasks, ?_⟩,
    dueNow⟩, fun due member => ?_⟩
  · exact BackgroundTask.isDueBy_iff.mpr ⟨positive, dueNow ▸ Nat.le_trans early within⟩
  · obtain ⟨other, kept, rfl⟩ := List.mem_map.mp member
    obtain ⟨inTasks, due⟩ := List.mem_filter.mp kept
    exact noneOverdue other inTasks (BackgroundTask.isDueBy_iff.mp due).1

/-- A run may be stopped anywhere and taken up again. -/
theorem run_run {first limit : Nat} (within : first ≤ limit) (router : Router)
    (tasks : List BackgroundTask) :
    run limit router tasks =
      let early := run first router tasks
      let late := run limit early.1 early.2.1
      (late.1, late.2.1, early.2.2 ++ late.2.2) := by
  fun_induction run first router tasks with
  | case1 router tasks none => rfl
  | case2 router tasks moment found after last lastTasks later ran inductionHypothesis =>
    rw [ran] at inductionHypothesis
    rw [run_of_some (nextMoment?_eq_some_of_le within found) inductionHypothesis]
    simp only [List.append_assoc]
    rfl

/-! ### Passing time -/

/-- Passing time is additive and no order of what happens at one moment matters. Letting some time
pass and then some more is the same as letting both pass at once: the same router, clock and tasks,
and the same effects at the same times. The duties of one moment have the same outcome in every
order; and so have all the beats that fall due while time passes, or when the router is started, in
every order that follows time. -/
theorem advance_add_any_order (timeline : Timeline) :
    (∀ first second : Nat,
      let early := timeline.advance first
      let late := early.1.advance second
      timeline.advance (first + second) = (late.1, early.2 ++ late.2)) ∧
    (∀ (moment : Nat) (duties others : List Duty), duties.Perm others →
      SameOutcome (performAll timeline.router (duties.map (Beat.mk moment)))
        (performAll timeline.router (others.map (Beat.mk moment)))) ∧
    (∀ (duration : Nat) (beats : List Beat), InOrder beats →
      beats.Perm (beatsBy (timeline.now + duration) timeline.tasks) →
        SameOutcome ((timeline.advance duration).1.router, (timeline.advance duration).2)
          (performAll timeline.router beats)) ∧
    ∀ beats : List Beat, InOrder beats →
      beats.Perm (beatsBy timeline.now
        (timeline.tasks ++ startTasks timeline.router.settings timeline.now)) →
        let performed := performAll timeline.router beats
        SameOutcome (timeline.start.1.router, timeline.start.2) (performed.1,
          ⟨timeline.now, .note (.started timeline.router.registry.size)⟩ :: performed.2) := by
  refine ⟨fun first second => ?_, fun moment duties others perm => ?_,
    fun duration beats inOrder perm => ?_, fun beats inOrder perm => ?_⟩
  · have within : timeline.now + first ≤ timeline.now + (first + second) :=
      Nat.add_le_add_left (Nat.le_add_right first second) timeline.now
    simp only [advance]
    rw [run_run within, Nat.add_assoc]
  · have inOrder : ∀ duties : List Duty, InOrder (duties.map (Beat.mk moment)) := fun duties =>
      List.pairwise_map.mpr (List.pairwise_of_forall fun _ _ => Nat.le_refl moment)
    exact performAll_sameOutcome_of_perm timeline.router (inOrder duties) (inOrder others)
      (perm.map _)
  · obtain ⟨performed, performs⟩ :=
      exists_performs (timeline.now + duration) timeline.router timeline.tasks
    simp only [advance, performs.run_eq]
    exact performAll_sameOutcome_of_perm timeline.router performs.inOrder inOrder
      (performs.perm.trans perm.symm)
  · obtain ⟨performed, performs⟩ := exists_performs timeline.now timeline.router
      (timeline.tasks ++ startTasks timeline.router.settings timeline.now)
    have same := performAll_sameOutcome_of_perm timeline.router performs.inOrder inOrder
      (performs.perm.trans perm.symm)
    simp only [start, performs.run_eq, (performAll_keeps timeline.router performed).1]
    exact ⟨same.router, same.effects.cons _⟩

/-! ### A router that was started twice -/

namespace Chime

/-- Routes are advertised every twenty milliseconds, and the neighbours swept every ten. -/
def origin : Router where
  registry := Stations.registry
  settings := { routing := { updateInterval := 20 }, neighbors := ⟨10, 2, 50⟩ }

/-- A datagram waits for a station whose link address is not known. -/
def waiting : Router := ((origin.prepare 0).1.receive Router.Transit.frame "eth0" 8).1

/-- The router was started at the beginning and again after ten milliseconds. -/
def timeline : Timeline where
  router := waiting
  now := 10
  tasks := [⟨.advertise, 20, 20⟩, ⟨.sweep, 10, 20⟩, ⟨.advertise, 20, 30⟩, ⟨.sweep, 10, 20⟩]

/-- All beats of the next twenty milliseconds, with the sweeps of each moment first. -/
def sweepsFirst : List Beat :=
  [⟨20, .sweep⟩, ⟨20, .sweep⟩, ⟨20, .advertise⟩, ⟨30, .sweep⟩, ⟨30, .sweep⟩, ⟨30, .advertise⟩]

/-- The beats when the router is started once more. -/
def sweepFirst : List Beat := [⟨10, .sweep⟩, ⟨10, .advertise⟩]

end Chime

/-- The station is asked for once more and then given up, and each of the two interfaces gets the
routes twice. -/
theorem advance_add_any_order_chime :
    [Duty.sweep, .sweep, .advertise].Perm [.advertise, .sweep, .sweep] ∧
      InOrder Chime.sweepsFirst ∧ Chime.sweepsFirst.Perm (beatsBy 30 Chime.timeline.tasks) ∧
      InOrder Chime.sweepFirst ∧ Chime.sweepFirst.Perm (beatsBy 10
        (Chime.timeline.tasks ++ startTasks Chime.timeline.router.settings 10)) ∧
      (Effect.transmissions ((performAll Chime.waiting Chime.sweepsFirst).2.map Timed.effect)).map
        Prod.fst = ["eth1", "eth0", "eth1", "eth0", "eth1"] ∧
      (let early := Chime.timeline.advance 10
       let late := early.1.advance 10
       Chime.timeline.advance 20 = (late.1, early.2 ++ late.2)) ∧
      SameOutcome
        (performAll Chime.waiting ([Duty.sweep, .sweep, .advertise].map (Beat.mk 20)))
        (performAll Chime.waiting ([Duty.advertise, .sweep, .sweep].map (Beat.mk 20))) ∧
      SameOutcome ((Chime.timeline.advance 20).1.router, (Chime.timeline.advance 20).2)
        (performAll Chime.waiting Chime.sweepsFirst) ∧
      (let performed := performAll Chime.waiting Chime.sweepFirst
       SameOutcome (Chime.timeline.start.1.router, Chime.timeline.start.2)
         (performed.1, ⟨10, .note (.started 2)⟩ :: performed.2)) := by
  have duties : [Duty.sweep, .sweep, .advertise].Perm [.advertise, .sweep, .sweep] := by decide
  have inOrder : InOrder Chime.sweepsFirst := by unfold InOrder; decide
  have perm : Chime.sweepsFirst.Perm (beatsBy 30 Chime.timeline.tasks) := by decide
  have startInOrder : InOrder Chime.sweepFirst := by unfold InOrder; decide
  have startPerm : Chime.sweepFirst.Perm (beatsBy 10
      (Chime.timeline.tasks ++ startTasks Chime.timeline.router.settings 10)) := by decide +kernel
  obtain ⟨additive, anyOrder, anyBeats, anyStart⟩ := advance_add_any_order Chime.timeline
  exact ⟨duties, inOrder, perm, startInOrder, startPerm, by decide +kernel, additive 10 10,
    anyOrder 20 _ _ duties, anyBeats 20 _ inOrder perm, anyStart _ startInOrder startPerm⟩

end Timeline

end Ipv4Router
