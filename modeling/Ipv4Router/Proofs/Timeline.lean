/-
This file says what a router on a clock keeps. Its background tasks do duties of some
kind, and no beat changes which; so what these duties and received frames keep is kept
by whatever is done with the router, however long it runs and however often it is
started and shut down.
-/

import Ipv4Router.Timeline

namespace Ipv4Router.Timeline

/-! ### Beats -/

section Beats

variable (allowed : Duty → Prop) (invariant : Router → Prop)

/-- No beat changes what the tasks do. -/
theorem duty_beat (moment : Nat) (router : Router) (tasks : List BackgroundTask)
    (given : ∀ task ∈ tasks, allowed task.duty) :
    ∀ task ∈ (beat moment router tasks).2.1, allowed task.duty := by
  rw [beat_tasks]
  intro task member
  obtain ⟨before, inTasks, rfl⟩ := List.mem_map.mp member
  have same : (if 0 < before.period ∧ before.due = moment then before.next
      else before).duty = before.duty := by
    split <;> rfl
  rw [same]
  exact given before inTasks

variable (step : ∀ duty router now, allowed duty → invariant router →
  invariant (Duty.perform duty router now).1)

include step

theorem beat_keeps (moment : Nat) (router : Router) (tasks : List BackgroundTask)
    (given : ∀ task ∈ tasks, allowed task.duty) (holds : invariant router) :
    invariant (beat moment router tasks).1 := by
  induction tasks generalizing router with
  | nil => exact holds
  | cons task rest inductionHypothesis =>
    have givenRest : ∀ later ∈ rest, allowed later.duty := fun later member =>
      given later (List.mem_cons_of_mem _ member)
    simp only [beat]
    split
    · exact inductionHypothesis _ givenRest
        (step task.duty router moment (given task List.mem_cons_self) holds)
    · exact inductionHypothesis _ givenRest holds

/-- What the duties of all tasks keep, running them keeps. -/
theorem run_keeps (limit : Nat) (router : Router) (tasks : List BackgroundTask)
    (given : ∀ task ∈ tasks, allowed task.duty) (holds : invariant router) :
    invariant (run limit router tasks).1 ∧
      ∀ task ∈ (run limit router tasks).2.1, allowed task.duty := by
  fun_induction run limit router tasks with
  | case1 router tasks => exact ⟨holds, given⟩
  | case2 router tasks moment _ after last lastTasks later ran inductionHypothesis =>
    rw [ran] at inductionHypothesis
    exact inductionHypothesis (duty_beat allowed moment router tasks given)
      (beat_keeps allowed invariant step moment router tasks given holds)

end Beats

/-! ### Commands -/

/-- One thing that is done with a router on a clock. -/
inductive Command
  | start
  | advance (duration : Nat)
  | shutdown
  | receive (octets : Octets) (interfaceName : String)
deriving DecidableEq

def obey (timeline : Timeline) : Command → Timeline
  | .start => timeline.start.1
  | .advance duration => (timeline.advance duration).1
  | .shutdown => timeline.shutdown.1
  | .receive octets interfaceName => (timeline.receive octets interfaceName).1

/-- The router on its clock after some commands, one after the other. -/
def obeyAll (timeline : Timeline) (commands : List Command) : Timeline :=
  commands.foldl obey timeline

section Commands

variable (allowed : Duty → Prop) (invariant : Router → Prop)
  (perform : ∀ duty router now, allowed duty → invariant router →
    invariant (Duty.perform duty router now).1)
  (receive : ∀ router octets interfaceName now, invariant router →
    invariant (Router.receive router octets interfaceName now).1)
  (starts : ∀ router now, invariant router →
    ∀ task ∈ startTasks router.settings now, allowed task.duty)

include perform receive starts

theorem obey_keeps (timeline : Timeline) (command : Command)
    (given : ∀ task ∈ timeline.tasks, allowed task.duty) (holds : invariant timeline.router) :
    invariant (timeline.obey command).router ∧
      ∀ task ∈ (timeline.obey command).tasks, allowed task.duty := by
  cases command with
  | start =>
    refine run_keeps allowed invariant perform _ _ _ (fun task member => ?_) holds
    rcases List.mem_append.mp member with old | fresh
    · exact given task old
    · exact starts timeline.router timeline.now holds task fresh
  | advance duration => exact run_keeps allowed invariant perform _ _ _ given holds
  | shutdown => exact ⟨holds, fun _ none => absurd none List.not_mem_nil⟩
  | receive octets interfaceName =>
    exact ⟨receive timeline.router octets interfaceName timeline.now holds, given⟩

/-- What received frames and the duties of all tasks keep, any commands keep. -/
theorem obeyAll_keeps (timeline : Timeline) (commands : List Command)
    (given : ∀ task ∈ timeline.tasks, allowed task.duty) (holds : invariant timeline.router) :
    invariant (timeline.obeyAll commands).router := by
  induction commands generalizing timeline with
  | nil => exact holds
  | cons command rest inductionHypothesis =>
    obtain ⟨holdsAfter, givenAfter⟩ :=
      obey_keeps allowed invariant perform receive starts timeline command given holds
    exact inductionHypothesis (timeline.obey command) givenAfter holdsAfter

end Commands

end Ipv4Router.Timeline
