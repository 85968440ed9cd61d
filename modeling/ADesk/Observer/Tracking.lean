/- ADesk/Observer/Tracking
   digest: Which windows the observer tracks after any run: the last event, snapshot or action
   that concerns a window decides. -/

import ADesk.Observer.Resync
import ADesk.Observer.Steps

set_option autoImplicit false

namespace ADesk.Observer.Tracking

open ADesk.Core.Ids (WindowId)
open ADesk.Core.Event (RuntimeEvent)
open ADesk.Foundation.Execution
open ADesk.Foundation.KeyedLog
open ADesk.Observer.Service
open ADesk.Observer.State
open ADesk.Observer.Waiter
open ADesk.Observer.Sections
open ADesk.Observer.Resync
open ADesk.Observer.Run
open ADesk.Observer.Steps

/-- The event is about the window and does not destroy it. -/
def eventIntroduces (event : RuntimeEvent) (windowId : WindowId) : Prop :=
  match event with
  | .windowDestroyed .. => False
  | event => event.windowId = some windowId

def eventDrops (event : RuntimeEvent) (windowId : WindowId) : Prop :=
  match event with
  | .windowDestroyed _ _ destroyed => destroyed = windowId
  | _ => False

/-- What makes a window known: an event or a snapshot that shows it, or an action that names it. -/
def WindowStep.Introduces (windowId : WindowId) : WindowStep → Prop
  | .handled event => eventIntroduces event windowId
  | .synced snapshot => windowId ∈ snapshot.windowIds
  | .touched touched => touched = windowId

/-- What makes a window unknown: its destruction, or an adopted snapshot without it. -/
def WindowStep.Drops (windowId : WindowId) : WindowStep → Prop
  | .handled event => eventDrops event windowId
  | .synced snapshot => windowId ∉ snapshot.windowIds
  | .touched _ => False

private theorem handled_tracked (state : ServiceState) (event : RuntimeEvent)
    (windowId : WindowId) :
    Tracked (handleEventSection state event) windowId ↔
      eventIntroduces event windowId ∨
        (Tracked state windowId ∧ ¬ eventDrops event windowId) := by
  unfold Tracked
  rw [handle_event_commit]
  cases event with
  | windowDestroyed seq tsMs destroyed =>
    by_cases same : destroyed = windowId
    · simp [eventIntroduces, eventDrops, RuntimeEvent.windowId, eventCommit, same]
    · simp [eventIntroduces, eventDrops, RuntimeEvent.windowId, same]
  | _ =>
    simp only [eventIntroduces, eventDrops, not_false_eq_true, and_true]
    split
    · next concerns => simp [concerns, eventCommit]
    · next other => simp [other]

private theorem touched_tracked (state : ServiceState) (kind : Actions.ActionKind)
    (touched : WindowId) (nowMs : ℕ) (windowId : WindowId) :
    Tracked (touchSection state kind touched nowMs) windowId ↔
      touched = windowId ∨ Tracked state windowId := by
  unfold Tracked
  rw [touch_section_commit]
  split
  · next same => simp [same]
  · next other => simp [other]

/-- The tracked windows are those that the log of window steps leaves present. -/
def Explained (s : Run.State) : Prop :=
  ∀ windowId : WindowId, Tracked s.service windowId ↔
    Present (WindowStep.Introduces windowId) (WindowStep.Drops windowId) s.windowLog

private theorem Explained.kept {s t : Run.State} (explained : Explained s)
    (tracked : ∀ windowId, Tracked t.service windowId ↔ Tracked s.service windowId)
    (log : t.windowLog = s.windowLog) : Explained t := by
  intro windowId
  rw [tracked windowId, log]
  exact explained windowId

private theorem env_step_explained {s t : Run.State} {label : Label} (explained : Explained s)
    (moved : EnvStep s label t) : Explained t := by
  cases moved with
  | handled event =>
    intro windowId
    rw [present_append, ← explained windowId]
    exact handled_tracked s.service event windowId
  | synced snapshot pumping fresh =>
    intro windowId
    rw [present_append]
    change Tracked (resyncSection s.service snapshot).1 windowId ↔ _
    rw [resync_section_tracked fresh]
    constructor
    · exact fun inside => Or.inl inside
    · rintro (inside | ⟨_, kept⟩)
      · exact inside
      · exact Classical.not_not.mp kept
  | touched actor kind touched nowMs =>
    intro windowId
    rw [present_append, ← explained windowId]
    change Tracked (touchSection s.service kind touched nowMs) windowId ↔ _
    rw [touched_tracked]
    simp [WindowStep.Introduces, WindowStep.Drops]
  | ticked => exact explained.kept (fun _ => Iff.rfl) rfl
  | handleBegan => exact explained.kept (fun _ => Iff.rfl) rfl
  | resyncBegan => exact explained.kept (fun _ => Iff.rfl) rfl
  | stale => exact explained.kept (fun _ => Iff.rfl) rfl
  | bumped => exact explained.kept (fun _ => Iff.rfl) rfl
  | stamped => exact explained.kept (fun _ => Iff.rfl) rfl
  | marked => exact explained.kept (fun _ => Iff.rfl) rfl
  | recorded => exact explained.kept (fun _ => Iff.rfl) rfl

private theorem wait_step_explained {s t : Run.State} {label : Label} {waiter : ℕ}
    {task : WaitTask} (explained : Explained s) (moved : WaitStep s t label waiter task) : Explained t := by
  obtain ⟨⟨service, pending, rfl⟩, _⟩ := moved
  refine explained.kept (fun windowId => ?_) rfl
  change (trackedCommit service.windows windowId).isSome = true ↔ _
  rw [pending.windows.trackedCommit]
  rfl

/-- The log of window steps explains the tracked windows of every reachable state. -/
theorem explained_of_reachable {allowed : Run.State → Label → Prop} {s : Run.State}
    (reached : Reachable machine allowed s) : Explained s := by
  refine Inductive.holds (P := Explained) ⟨?_, ?_⟩ reached
  · intro windowId
    constructor
    · intro tracked
      simp [Tracked, trackedCommit, machine, State.new, ServiceState.new] at tracked
    · exact fun present => absurd present (not_present_nil _ _)
  · intro before after label explained _ taken
    rcases step_cases taken with moved | ⟨waiter, task, moved⟩
    · exact env_step_explained explained moved
    · exact wait_step_explained explained moved

/-- The wait about to validate its window, with that window. -/
def checkingWindow (s : Run.State) (waiter : ℕ) : Option (Wait × WindowId) :=
  match s.waits waiter with
  | .running wait =>
    match wait.phase with
    | .checking => wait.plan.windowId.map (fun windowId => (wait, windowId))
    | _ => none
  | _ => none

private theorem checking_window_running {s : Run.State} {waiter : ℕ} {wait : Wait}
    {windowId : WindowId} (checking : checkingWindow s waiter = some (wait, windowId)) :
    s.waits waiter = .running wait ∧ wait.phase = .checking ∧
      wait.plan.windowId = some windowId := by
  unfold checkingWindow at checking
  split at checking
  · next running task =>
    split at checking
    · next phase =>
      obtain ⟨named, window, same⟩ := Option.map_eq_some_iff.mp checking
      cases same
      exact ⟨task, phase, window⟩
    · cases checking
  · cases checking

/-- A wait on a window that is not tracked fails at its check. -/
private theorem untracked_wait_fails {s : Run.State} {waiter : ℕ} {wait : Wait}
    {windowId : WindowId} (checking : checkingWindow s waiter = some (wait, windowId))
    (unknown : ¬ Tracked s.service windowId) :
    step s (.waitStep waiter) = some (s.setWait waiter
      (.running { wait with phase := .failed (.unknownWindow windowId) })) := by
  obtain ⟨task, phase, window⟩ := checking_window_running checking
  have absent : ¬ s.service.windows.contains windowId = true := by
    intro found
    apply unknown
    simpa [Tracked, trackedCommit] using found
  simp only [step, waitStep, task, advanceWait, phase, window, if_neg absent]

/-- A window is tracked exactly when an event, an adopted snapshot or a recorded action made it
known and nothing since destroyed it; a wait on any other window fails. -/
theorem tracked_iff_introduced {s : Run.State} (reached : Reachable machine anyStep s)
    (windowId : WindowId) :
    (Tracked s.service windowId ↔
      ∃ before entry after, s.windowLog = before ++ entry :: after ∧
        WindowStep.Introduces windowId entry ∧
        ∀ later ∈ after, ¬ WindowStep.Drops windowId later) ∧
    (¬ Tracked s.service windowId → ∀ waiter wait,
      checkingWindow s waiter = some (wait, windowId) →
        step s (.waitStep waiter) = some (s.setWait waiter
          (.running { wait with phase := .failed (.unknownWindow windowId) }))) :=
  ⟨explained_of_reachable reached windowId,
    fun unknown _ _ checking => untracked_wait_fails checking unknown⟩

/-- A window is shown, destroyed and then named by an action. -/
def touchedRun : List Label :=
  [.handleEvent (.windowCreated 1 0 ⟨7⟩ none none none none), .pumpSection, .pumpBump,
    .handleEvent (.windowDestroyed 2 0 ⟨7⟩), .pumpSection, .pumpBump,
    .recordAction 0 .activateWindow (some ⟨7⟩) none, .actorStep 0, .actorStep 0, .actorStep 0]

def touchedState : Run.State := finalState machine anyStep touchedRun (by decide +kernel)

theorem tracked_iff_introduced_touched :
    Tracked touchedState.service ⟨7⟩ ∧
      ∃ before entry after, touchedState.windowLog = before ++ entry :: after ∧
        WindowStep.Introduces ⟨7⟩ entry ∧ ∀ later ∈ after, ¬ WindowStep.Drops ⟨7⟩ later := by
  have tracked : Tracked touchedState.service ⟨7⟩ := by decide +kernel
  exact ⟨tracked, (tracked_iff_introduced
    (final_state_reachable machine anyStep touchedRun (by decide +kernel)) ⟨7⟩).1.mp tracked⟩

end ADesk.Observer.Tracking
