/- ADesk/Runtime/Views
   digest: Inside every run of the runtime, the observer and the inbox run as their own machines. -/

import ADesk.Observer.Anchors
import ADesk.Runtime.Steps

set_option autoImplicit false

namespace ADesk.Runtime.Views

open ADesk.Compositor.Bridge (Surface)
open ADesk.Core.Geometry (Region)
open ADesk.Foundation.Execution
open ADesk.Observer.Anchors (requested)
open ADesk.Wm.Policy (PolicyConfig)
open ADesk.Runtime.Run
open ADesk.Runtime.Steps

theorem requested_of_waiter {s : Observer.Run.State} {label : Observer.Run.Label}
    (waiter : waiterLabel label = true) : requested s label := by
  cases label <;> trivial

/-- A move of the runtime moves the observer by at most one of its own steps. -/
theorem move_observer {s t : State} {label : Label} (moved : Move s label t) :
    t.observer = s.observer ∨ ∃ inner, requested s.observer inner ∧
      (∀ actor, inner = .actorStep actor → label = .handlerStep actor) ∧
      Observer.Run.step s.observer inner = some t.observer := by
  cases moved with
  | ticked nanos => exact Or.inr ⟨.tick nanos, trivial, (fun _ other => by cases other), rfl⟩
  | received correlated event cursor observer idle recv began =>
    exact Or.inr ⟨.handleEvent _, trivial, (fun _ other => by cases other), began⟩
  | sectioned position observer accounts stepped =>
    exact Or.inr ⟨.pumpSection, trivial, (fun _ other => by cases other), stepped⟩
  | bumped observer busy stepped =>
    exact Or.inr ⟨.pumpBump, trivial, (fun _ other => by cases other), stepped⟩
  | resyncBegan snapshot position observer pumping stepped =>
    exact Or.inr ⟨.resync _, trivial, (fun _ other => by cases other), stepped⟩
  | actionBegan id request kind windowId position observer unused action stepped =>
    exact Or.inr ⟨.recordAction id kind windowId position, trivial, (fun _ other => by cases other), stepped⟩
  | actionStepped id handler horizonAt observer found recording marks stepped =>
    exact Or.inr ⟨.actorStep id, trivial, (fun _ same => by cases same; rfl), stepped⟩
  | waited label observer waiter stepped =>
    exact Or.inr ⟨label, requested_of_waiter waiter, (fun _ same => by subst same; cases waiter),
      stepped⟩
  | client | served | emitted | answered | replied | lagged | inboxed | inboxBumped | resyncDone
  | synthesizing | actionRecorded | clockRead | issued | finished | published | refused
  | inboxWaited => exact Or.inl rfl

theorem move_inbox {s t : State} {label : Label} (moved : Move s label t) :
    t.inbox = s.inbox ∨ ∃ inner, Notify.Run.step s.inbox inner = some t.inbox := by
  cases moved with
  | ticked nanos => exact Or.inr ⟨.tick nanos, rfl⟩
  | inboxed event inbox pumping idle stepped => exact Or.inr ⟨_, stepped⟩
  | inboxBumped inbox pumping stepped => exact Or.inr ⟨_, stepped⟩
  | inboxWaited label inbox client stepped => exact Or.inr ⟨label, stepped⟩
  | client | served | emitted | answered | replied | lagged | received | sectioned | bumped
  | resyncBegan | resyncDone | synthesizing | actionBegan | actionStepped | actionRecorded
  | clockRead | issued | finished | published | refused | waited => exact Or.inl rfl

variable {config : PolicyConfig} {slots inboxCapacity : ℕ} {allowed : State → Label → Prop}

theorem observer_reachable {s : State}
    (reached : Reachable (machine config slots inboxCapacity) allowed s) :
    Reachable Observer.Run.machine requested s.observer := by
  refine reachable_view State.observer .start (fun {before after label} _ _ taken running => ?_)
    reached
  rcases move_observer (step_move taken) with same | ⟨inner, ok, _, stepped⟩
  · rw [same]
    exact running
  · exact .next running ok stepped

theorem inbox_reachable {s : State}
    (reached : Reachable (machine config slots inboxCapacity) allowed s) :
    Reachable (Notify.Run.machine inboxCapacity) anyStep s.inbox := by
  refine reachable_view State.inbox .start (fun {before after label} _ _ taken running => ?_)
    reached
  rcases move_inbox (step_move taken) with same | ⟨inner, stepped⟩
  · rw [same]
    exact running
  · exact .next running trivial stepped

/-! ## Pieces of runs -/

/-- A client maps a window, and the compositor sends the four events of it. -/
def mapped (surface : Surface) : List Label :=
  [.client (.newToplevel surface), .client (.commit surface [] true {} Region.empty), .emit, .emit,
    .emit, .emit]

/-- The pump takes one event from the channel to the observer and the inbox. -/
def pumped : List Label := [.pumpRecv none, .pumpStep, .pumpStep, .pumpStep, .pumpStep]

end ADesk.Runtime.Views
