/-
This file follows a router through whatever it is made to do. Besides the events that
concern a router as a whole, parts of the exchange of routes may be done by themselves:
the neighbours are asked without preparing, and stale routes are taken out without
advertising. What every action of a schedule keeps, the schedule keeps, and whatever is
sent is sent by one of its actions.
-/

import Ipv4Router.Proofs.Router.Run

namespace Ipv4Router.Router

/-- An event, or a part of the exchange of routes by itself. -/
inductive Action
  | event (event : Event)
  | ask
  | expire
deriving DecidableEq

/-- The router after an action, and the effects. -/
def act (router : Router) (now : Nat) : Action → Router × List Effect
  | .event event => router.perform now event
  | .ask => (router, DistanceVector.askEveryone router.registry router.settings.routing.ttl)
  | .expire =>
    let (table, _, effects) :=
      DistanceVector.expire router.table router.settings.routing.timeout now
    ({ router with table }, effects)

/-- The router after the actions of a schedule, one after the other and each at its time, and the
effects of all. -/
def follow (router : Router) : List (Nat × Action) → Router × List Effect
  | [] => (router, [])
  | (now, action) :: rest =>
    let (router, effects) := router.act now action
    let (router, later) := router.follow rest
    (router, effects ++ later)

section Schedules

variable (router : Router)

theorem follow_cons (now : Nat) (action : Action) (rest : List (Nat × Action)) :
    router.follow ((now, action) :: rest) =
      (((router.act now action).1.follow rest).1,
        (router.act now action).2 ++ ((router.act now action).1.follow rest).2) :=
  rfl

/-- Nothing that a router does changes how it is set up. -/
theorem act_keeps (now : Nat) (action : Action) :
    (router.act now action).1.registry = router.registry ∧
      (router.act now action).1.settings = router.settings := by
  cases action with
  | event event => exact router.perform_keeps now event
  | ask | expire => exact ⟨rfl, rfl⟩

/-- What every action keeps, a schedule keeps. -/
theorem follow_keeps (invariant : Router → Prop) (schedule : List (Nat × Action))
    (step : ∀ router, ∀ turn ∈ schedule, invariant router →
      invariant (router.act turn.1 turn.2).1)
    (holds : invariant router) : invariant (router.follow schedule).1 := by
  induction schedule generalizing router with
  | nil => exact holds
  | cons turn rest inductionHypothesis =>
    rw [follow_cons]
    exact inductionHypothesis _
      (fun router later member => step router later (List.mem_cons_of_mem _ member))
      (step router turn List.mem_cons_self holds)

/-- What every action sends under an invariant that it keeps, a schedule sends. -/
theorem follow_sends (invariant : Router → Prop) (allowed : String × Octets → Prop)
    (step : ∀ router now action, invariant router → invariant (router.act now action).1 ∧
      ∀ sent ∈ Effect.transmissions (router.act now action).2, allowed sent)
    (holds : invariant router) (schedule : List (Nat × Action)) :
    ∀ sent ∈ Effect.transmissions (router.follow schedule).2, allowed sent := by
  induction schedule generalizing router with
  | nil => exact fun _ none => absurd none List.not_mem_nil
  | cons turn rest inductionHypothesis =>
    obtain ⟨kept, allowedNow⟩ := step router turn.1 turn.2 holds
    intro sent member
    rw [follow_cons, Effect.transmissions_append] at member
    rcases List.mem_append.mp member with first | later
    · exact allowedNow sent first
    · exact inductionHypothesis _ kept sent later

end Schedules

end Ipv4Router.Router
