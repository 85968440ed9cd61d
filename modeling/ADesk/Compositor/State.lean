/- ADesk/Compositor/State
   digest: What the compositor thread does for clients and commands, and the events it owes. -/

import ADesk.Compositor.Bridge
import ADesk.Compositor.Events
import ADesk.Observer.State

set_option autoImplicit false

namespace ADesk.Compositor.State

open ADesk.Core.Geometry (Region)
open ADesk.Core.Ids (WindowId)
open ADesk.Compositor.Bridge
open ADesk.Compositor.Events
open ADesk.Wm.Policy

structure CompositorState where
  events : EventSink
  wm : WmBridge

def CompositorState.new (config : PolicyConfig) : CompositorState :=
  ⟨EventSink.new, WmBridge.new config⟩

/-- What a Wayland client did, as the protocol handlers report it. -/
inductive ClientRequest
  | newToplevel (surface : Surface)
  | commit (surface : Surface) (ancestors : List Surface) (hasBuffer : Bool)
      (metadata : ToplevelMetadata) (damage : Region)
  | toplevelDestroyed (surface : Surface)
  | titleChanged (surface : Surface) (title : Option String)
  | newPopup (surface : Surface) (parent : Option Surface)
  | popupDestroyed (surface : Surface)
  deriving DecidableEq

/-- The events of a decision; configuring a window emits none. -/
def applyAction (previousFocus : Option WindowId) : WmAction → List Emission
  | .activate id => [.windowActivated id previousFocus, .focusChanged (some id)]
  | .activatePrevious id => [.windowActivated id none, .focusChanged (some id)]
  | .configureWindow .. | .none => []

def applyDecision (decision : WmDecision) : List Emission :=
  decision.actions.flatMap (applyAction decision.previousFocus)

def onToplevelMapped (bridge : WmBridge) (surface : Surface) (metadata : ToplevelMetadata)
    (createdSeq : ℕ) : WmBridge × List Emission :=
  match bridge.mapToplevel surface metadata createdSeq with
  | (mapped, .created id decision) =>
    (mapped, .windowCreated id metadata.appId metadata.pid metadata.launchId metadata.title ::
      applyDecision decision)
  | (_, .alreadyMapped _) => (bridge, [])

/-- Popups disappear before their owner, and the fallback activation comes after it. -/
def onToplevelDestroyed (bridge : WmBridge) (surface : Surface) : WmBridge × List Emission :=
  match bridge.destroyToplevel surface with
  | none => (bridge, [])
  | some (removed, destroyed) =>
    match destroyed.windowId with
    | some windowId =>
      (removed, destroyed.popupIds.map (Emission.popupDisappeared windowId) ++
        .windowDestroyed windowId :: applyDecision destroyed.decision)
    | none => (removed, applyDecision destroyed.decision)

def onTitleChanged (bridge : WmBridge) (surface : Surface) (title : Option String) :
    WmBridge × List Emission :=
  match bridge.titleChanged surface title with
  | some (changed, windowId) => (changed, [.titleChanged windowId title])
  | none => (bridge, [])

def onPopupCreated (bridge : WmBridge) (surface : Surface) (parent : Option Surface) :
    WmBridge × List Emission :=
  match bridge.popupAdded surface parent with
  | some (added, windowId, popupId) => (added, [.popupAppeared windowId popupId])
  | none => (bridge, [])

def onPopupDestroyed (bridge : WmBridge) (surface : Surface) : WmBridge × List Emission :=
  match bridge.popupRemoved surface with
  | some (removed, windowId, popupId) => (removed, [.popupDisappeared windowId popupId])
  | none => (bridge, [])

/-- The commit proper: surfaces outside any window have no history. -/
def recordCommit (bridge : WmBridge) (surface : Surface) (ancestors : List Surface)
    (damage : Region) : WmBridge × List Emission :=
  match bridge.windowForSurface surface ancestors with
  | some windowId =>
    let committed := bridge.commit windowId
    (committed.1, [.surfaceCommit windowId committed.2 damage])
  | none => (bridge, [])

/-- The first buffer commit of an unmapped toplevel maps it, then the commit is recorded. -/
def onSurfaceCommit (bridge : WmBridge) (surface : Surface) (ancestors : List Surface)
    (hasBuffer : Bool) (metadata : ToplevelMetadata) (damage : Region) (createdSeq : ℕ) :
    WmBridge × List Emission :=
  let mapped :=
    if bridge.surfaces.isUnmappedToplevel surface && hasBuffer then
      onToplevelMapped bridge surface metadata createdSeq
    else (bridge, [])
  let committed := recordCommit mapped.1 surface ancestors damage
  (committed.1, mapped.2 ++ committed.2)

/-- The new bridge and the events that a client request makes the compositor emit, in order. -/
def handleClient (state : CompositorState) : ClientRequest → WmBridge × List Emission
  | .newToplevel surface => (state.wm.registerToplevel surface, [])
  | .commit surface ancestors hasBuffer metadata damage =>
    onSurfaceCommit state.wm surface ancestors hasBuffer metadata damage state.events.watermark
  | .toplevelDestroyed surface => onToplevelDestroyed state.wm surface
  | .titleChanged surface title => onTitleChanged state.wm surface title
  | .newPopup surface parent => onPopupCreated state.wm surface parent
  | .popupDestroyed surface => onPopupDestroyed state.wm surface

/-! ## Commands -/

/-- The commands that read or change windows, focus or the counter. Injected input reaches the
clients through the seat and emits nothing by itself. -/
inductive Command
  | queryState
  | reserveSeq
  | activateWindow (windowId : WindowId)
  | closeWindow (windowId : WindowId)
  | injectInput
  deriving DecidableEq

/-- A point-in-time view of the window state. -/
structure StateSnapshot where
  windows : List WindowRecord
  activeWindowId : Option WindowId
  seq : ℕ
  tsMs : ℕ
  deriving DecidableEq

inductive Reply
  | snapshot (snapshot : StateSnapshot)
  | reserved (seq : ℕ)
  | ok
  | unknownWindow (windowId : WindowId)
  deriving DecidableEq

def snapshot (state : CompositorState) (tsMs : ℕ) : StateSnapshot where
  windows := state.wm.manager.records
  activeWindowId := activeWindow state.wm.manager
  seq := state.events.watermark
  tsMs := tsMs

/-- Serves one command: the new state, the events it owes and the reply that follows them. -/
def handleCommand (state : CompositorState) (tsMs : ℕ) :
    Command → CompositorState × List Emission × Reply
  | .queryState => (state, [], .snapshot (snapshot state tsMs))
  | .reserveSeq =>
    let reserved := state.events.nextSeq
    ({ state with events := reserved.1 }, [], .reserved reserved.2)
  | .activateWindow windowId =>
    match state.wm.activate windowId with
    | some (activated, decision) =>
      ({ state with wm := activated }, applyDecision decision, .ok)
    | none => (state, [], .unknownWindow windowId)
  | .closeWindow windowId =>
    if state.wm.hasToplevel windowId then (state, [], .ok)
    else (state, [], .unknownWindow windowId)
  | .injectInput => (state, [], .ok)

/-- Only `ReserveSeq` takes a number while a command is served. -/
theorem handle_command_events (state : CompositorState) (tsMs : ℕ) {command : Command}
    (other : command ≠ .reserveSeq) :
    (handleCommand state tsMs command).1.events = state.events := by
  cases command with
  | reserveSeq => exact absurd rfl other
  | activateWindow windowId =>
    simp only [handleCommand]
    split <;> rfl
  | closeWindow windowId =>
    simp only [handleCommand]
    split <;> rfl
  | queryState | injectInput => rfl

theorem handle_command_last_seq (state : CompositorState) (tsMs : ℕ) (command : Command) :
    state.events.lastSeq ≤ (handleCommand state tsMs command).1.events.lastSeq := by
  by_cases reserving : command = .reserveSeq
  · subst reserving
    exact Nat.le_succ _
  · rw [handle_command_events state tsMs reserving]

/-- A number is the reply of `ReserveSeq` only. -/
theorem handle_command_reserved {state : CompositorState} {tsMs seq : ℕ} {command : Command}
    (replied : (handleCommand state tsMs command).2.2 = .reserved seq) :
    command = .reserveSeq ∧ seq = state.events.lastSeq + 1 := by
  cases command with
  | reserveSeq =>
    cases replied
    exact ⟨rfl, rfl⟩
  | activateWindow windowId =>
    simp only [handleCommand] at replied
    split at replied <;> cases replied
  | closeWindow windowId =>
    simp only [handleCommand] at replied
    split at replied <;> cases replied
  | queryState | injectInput => cases replied

/-- A snapshot is the reply of `QueryState` only, which changes nothing and owes nothing. -/
theorem handle_command_snapshot {state : CompositorState} {tsMs : ℕ} {command : Command}
    {taken : StateSnapshot}
    (replied : (handleCommand state tsMs command).2.2 = .snapshot taken) :
    handleCommand state tsMs command = (state, [], .snapshot taken) ∧
      taken = snapshot state tsMs := by
  cases command with
  | queryState =>
    cases replied
    exact ⟨rfl, rfl⟩
  | activateWindow windowId =>
    simp only [handleCommand] at replied
    split at replied <;> cases replied
  | closeWindow windowId =>
    simp only [handleCommand] at replied
    split at replied <;> cases replied
  | reserveSeq | injectInput => cases replied

/-- The snapshot as the observer takes it. -/
def observerSnapshot (snapshot : StateSnapshot) : Observer.State.StateSnapshot where
  seq := snapshot.seq
  tsMs := snapshot.tsMs
  windows := snapshot.windows.map fun window =>
    ⟨window.id, window.lastCommitSeq, window.geometry, window.popupCount⟩

end ADesk.Compositor.State
