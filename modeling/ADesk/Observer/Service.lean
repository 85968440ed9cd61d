/- ADesk/Observer/Service
   digest: The critical sections of the observer service on the state behind its mutex. -/

import ADesk.Observer.Actions
import ADesk.Observer.Waiter

set_option autoImplicit false

namespace ADesk.Observer.Service

open ADesk.Core.Ids (WindowId WindowMap)
open ADesk.Core.Geometry (Rect Region)
open ADesk.Core.Event (RuntimeEvent Observation)
open ADesk.Core.Time (saturatingAdd)
open ADesk.Observer.Actions (ActionKind)
open ADesk.Observer.Journal
open ADesk.Observer.State
open ADesk.Observer.Waiter

def defaultJournalCapacity : ℕ := 4096

/-- Everything behind the state mutex. `pending` counts the active waiters of each window. -/
structure ServiceState where
  windows : WindowMap WindowTemporalState
  journal : EventJournal
  watermark : ℕ
  pending : WindowMap (Std.ExtTreeMap PendingObservation ℕ)

def ServiceState.new : ServiceState where
  windows := ∅
  journal := EventJournal.new defaultJournalCapacity
  watermark := 0
  pending := ∅

/-- Highest commit sequence across all known windows. -/
def ServiceState.globalLastCommitSeq (state : ServiceState) : ℕ :=
  (state.windows.values.map WindowTemporalState.lastCommitSeq).foldl max 0

/-- `window_on_demand` followed by an update through the returned reference. -/
def windowOnDemand (windows : WindowMap WindowTemporalState) (windowId : WindowId) (tsMs : ℕ)
    (update : WindowTemporalState → WindowTemporalState) : WindowMap WindowTemporalState :=
  windows.insert windowId
    (update (windows[windowId]?.getD (WindowTemporalState.created windowId tsMs)))

/-- Recomputes the earliest active waiter shown on a window. -/
def refreshPendingObservation (state : ServiceState) (windowId : WindowId) : ServiceState :=
  let earliest := state.pending[windowId]?.bind (fun waiters => waiters.keys.head?)
  match state.windows[windowId]? with
  | some window =>
    { state with
      windows := state.windows.insert windowId { window with pendingObservation := earliest } }
  | none => state

/-- `PendingGuard::register`. -/
def registerPending (state : ServiceState) (windowId : Option WindowId)
    (key : PendingObservation) : ServiceState :=
  match windowId with
  | none => state
  | some windowId =>
    let waiters := state.pending[windowId]?.getD ∅
    let counted := waiters.insert key (waiters[key]?.getD 0 + 1)
    refreshPendingObservation
      { state with pending := state.pending.insert windowId counted } windowId

/-- `PendingGuard::drop`. -/
def dropPending (state : ServiceState) (windowId : Option WindowId)
    (key : PendingObservation) : ServiceState :=
  match windowId with
  | none => state
  | some windowId =>
    let pending :=
      match state.pending[windowId]? with
      | none => state.pending
      | some waiters =>
        let remaining :=
          match waiters[key]? with
          | none => waiters
          | some count =>
            if count - 1 = 0 then waiters.erase key else waiters.insert key (count - 1)
        if remaining.isEmpty then state.pending.erase windowId
        else state.pending.insert windowId remaining
    refreshPendingObservation { state with pending := pending } windowId

/-- A lifecycle, title, focus or popup event on a window. -/
def markChanged (tsMs : ℕ) (window : WindowTemporalState) : WindowTemporalState :=
  { window with lastMeaningfulChangeAt := tsMs, stateUncertain := false }

def markCommitted (tsMs commitSeq : ℕ) (damage : Region) (window : WindowTemporalState) :
    WindowTemporalState :=
  { window with
    lastCommitSeq := max window.lastCommitSeq commitSeq
    lastCommitAt := tsMs
    lastDamage := damage
    quietSince := some tsMs
    commitCount := saturatingAdd window.commitCount 1
    lastMeaningfulChangeAt := tsMs
    stateUncertain := false }

/-- The window table after one runtime event. -/
def applyEvent (windows : WindowMap WindowTemporalState) : RuntimeEvent →
    WindowMap WindowTemporalState
  | .windowCreated _ tsMs windowId .. =>
    match windows[windowId]? with
    | some window => windows.insert windowId { window with stateUncertain := false }
    | none => windows.insert windowId (WindowTemporalState.created windowId tsMs)
  | .windowDestroyed _ _ windowId => windows.erase windowId
  | .surfaceCommit _ tsMs windowId commitSeq damage =>
    windowOnDemand windows windowId tsMs (markCommitted tsMs commitSeq damage)
  | .windowActivated _ tsMs windowId _ | .titleChanged _ tsMs windowId _
  | .popupAppeared _ tsMs windowId _ | .popupDisappeared _ tsMs windowId _ =>
    windowOnDemand windows windowId tsMs (markChanged tsMs)
  | .focusChanged _ tsMs (some windowId) =>
    windowOnDemand windows windowId tsMs (markChanged tsMs)
  | .focusChanged _ _ none => windows
  | .appLaunched .. | .notification .. | .notificationClosed .. | .notificationAction .. => windows

/-- The state section of `handle_event`. -/
def handleEventSection (state : ServiceState) (event : RuntimeEvent) : ServiceState :=
  let applied : ServiceState :=
    { state with
      watermark := max state.watermark event.seq
      windows := applyEvent state.windows event }
  let refreshed :=
    match event.windowId with
    | some windowId =>
      if applied.pending.contains windowId then refreshPendingObservation applied windowId
      else applied
    | none => applied
  match CountedEvent.fromRuntimeEvent event with
  | some counted => { refreshed with journal := refreshed.journal.push counted }
  | none => refreshed

/-- The working state of a resync: the window table, the synthetic events and the report. -/
structure Reconciliation where
  windows : WindowMap WindowTemporalState
  synthetic : List CountedEvent
  report : ResyncReport

/-- A window the observer missed: its state is seeded from the snapshot. -/
def seedWindow (snapshot : StateSnapshot) (window : WindowSnapshot) : WindowTemporalState :=
  let fresh :=
    { WindowTemporalState.created window.windowId snapshot.tsMs with
      lastCommitSeq := window.lastCommitSeq }
  let dated :=
    if window.lastCommitSeq > 0 then
      { fresh with lastCommitAt := snapshot.tsMs, quietSince := some snapshot.tsMs }
    else fresh
  { dated with geometry := some window.geometry, stateUncertain := true }

/-- A known window whose commit sequence advanced during the lag. -/
def adoptCommit (snapshot : StateSnapshot) (window : WindowSnapshot)
    (existing : WindowTemporalState) : WindowTemporalState :=
  { existing with
    lastCommitSeq := window.lastCommitSeq
    lastCommitAt := snapshot.tsMs
    quietSince := some snapshot.tsMs
    lastMeaningfulChangeAt := snapshot.tsMs
    commitCount := saturatingAdd existing.commitCount 1 }

def syntheticEvent (snapshot : StateSnapshot) (windowId : WindowId) (kind : CountedKind) :
    CountedEvent :=
  ⟨snapshot.seq, snapshot.tsMs, some windowId, kind⟩

/-- Steps 3 and 4 of `resync` for one window of the snapshot. -/
def coverWindow (snapshot : StateSnapshot) (work : Reconciliation) (window : WindowSnapshot) :
    Reconciliation :=
  match work.windows[window.windowId]? with
  | none =>
    { windows := work.windows.insert window.windowId (seedWindow snapshot window)
      synthetic := work.synthetic ++ [syntheticEvent snapshot window.windowId .created]
      report :=
        { work.report with
          windowsAdded := work.report.windowsAdded ++ [window.windowId]
          markedUncertain := work.report.markedUncertain ++ [window.windowId] } }
  | some existing =>
    let advanced := window.lastCommitSeq > existing.lastCommitSeq
    let adopted := if advanced then adoptCommit snapshot window existing else existing
    { windows := work.windows.insert window.windowId
        { adopted with geometry := some window.geometry, stateUncertain := true }
      synthetic :=
        if advanced then
          work.synthetic ++ [syntheticEvent snapshot window.windowId
            (.commit window.lastCommitSeq Region.empty)]
        else work.synthetic
      report :=
        { work.report with
          markedUncertain := work.report.markedUncertain ++ [window.windowId] } }

/-- Step 5 of `resync` for one window that the snapshot lacks. -/
def removeWindow (snapshot : StateSnapshot) (work : Reconciliation) (windowId : WindowId) :
    Reconciliation where
  windows := work.windows.erase windowId
  synthetic := work.synthetic ++ [syntheticEvent snapshot windowId .destroyed]
  report := { work.report with windowsRemoved := work.report.windowsRemoved ++ [windowId] }

/-- Steps 3 to 5 of `resync` on the window table. -/
def reconcile (windows : WindowMap WindowTemporalState) (snapshot : StateSnapshot)
    (report : ResyncReport) : Reconciliation :=
  let covered := snapshot.windows.foldl (coverWindow snapshot) ⟨windows, [], report⟩
  let gone := covered.windows.keys.filter (fun windowId => !snapshot.windowIds.contains windowId)
  gone.foldl (removeWindow snapshot) covered

/-- A reply that raced newer events changes nothing. -/
def staleSnapshot (state : ServiceState) (snapshot : StateSnapshot) : Prop :=
  snapshot.seq < state.watermark

instance (state : ServiceState) (snapshot : StateSnapshot) :
    Decidable (staleSnapshot state snapshot) :=
  inferInstanceAs (Decidable (_ < _))

/-- The reconciliation of a snapshot that is not stale. -/
def reconciliation (state : ServiceState) (snapshot : StateSnapshot) : Reconciliation :=
  reconcile state.windows snapshot
    { snapshotSeq := max state.watermark snapshot.seq
      eventsDropped := (state.journal.pruneThrough snapshot.seq).2 }

/-- The synthetic events that adopting the snapshot journals. -/
def syntheticEvents (state : ServiceState) (snapshot : StateSnapshot) : List CountedEvent :=
  (reconciliation state snapshot).synthetic

/-- The state section of `resync`. -/
def resyncSection (state : ServiceState) (snapshot : StateSnapshot) :
    ServiceState × ResyncReport :=
  if staleSnapshot state snapshot then (state, { snapshotSeq := state.watermark })
  else
    ({ state with
        watermark := max state.watermark snapshot.seq
        journal := (syntheticEvents state snapshot).foldl EventJournal.push
          (state.journal.pruneThrough snapshot.seq).1
        windows := (reconciliation state snapshot).windows },
      (reconciliation state snapshot).report)

/-- Input kinds stamp `lastInputAt`; runtime-native operations never do. -/
def stampInput (kind : ActionKind) (nowMs : ℕ) (window : WindowTemporalState) :
    WindowTemporalState :=
  if kind.isInput then { window with lastInputAt := some nowMs } else window

/-- The state section of `record_action` for an action that names a window. -/
def touchSection (state : ServiceState) (kind : ActionKind) (windowId : WindowId) (nowMs : ℕ) :
    ServiceState :=
  { state with windows := windowOnDemand state.windows windowId nowMs (stampInput kind nowMs) }

/-- `window_geometry` of the window a counted event names. -/
def eventGeometry (state : ServiceState) (event : CountedEvent) : Option Rect :=
  event.windowId.bind fun windowId =>
    state.windows[windowId]?.bind WindowTemporalState.geometry

/-- One iteration of the absorb loop of `run_wait`. -/
def absorbEvent (state : ServiceState) (filters : Filters) (scan : ℕ × Accumulator)
    (event : CountedEvent) : ℕ × Accumulator :=
  let cursor := if event.seq > scan.1 then event.seq else scan.1
  if filters.counts event then (cursor, scan.2.absorb event (eventGeometry state event))
  else (cursor, scan.2)

/-- The absorb loop of `run_wait`: the cursor and the accumulator after one section. -/
def absorbSection (state : ServiceState) (filters : Filters) (cursor : ℕ) (acc : Accumulator) :
    ℕ × Accumulator :=
  (state.journal.since cursor).foldl (absorbEvent state filters) (cursor, acc)

/-- The resolve section of `run_wait`. -/
def resolveSection (state : ServiceState) (plan : WaitPlan) (acc : Accumulator) (nowMs : ℕ)
    (timedOut : Bool) : Observation :=
  acc.resolve
    { windowId := plan.windowId
      afterAction := plan.afterAction
      startedAt := plan.startedAt
      anchorTs := plan.anchorTs
      nowMs := nowMs
      watermark := state.watermark
      quietThresholdMs := plan.condition.quietThresholdMs
      windowState := plan.windowId.bind (fun windowId => state.windows[windowId]?)
      globalLastCommitSeq := state.globalLastCommitSeq
      timedOut := timedOut }

end ADesk.Observer.Service
