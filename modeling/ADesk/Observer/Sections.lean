/- ADesk/Observer/Sections
   digest: What each critical section of the observer does to windows, journal and watermark. -/

import ADesk.Observer.Service
import Mathlib.Data.List.Perm.Basic

set_option autoImplicit false

namespace ADesk.Observer.Sections

open ADesk.Core.Ids (WindowId WindowMap insert_lookup erase_lookup)
open ADesk.Core.Geometry (Rect Region)
open ADesk.Core.Event (RuntimeEvent)
open ADesk.Observer.Actions (ActionKind)
open ADesk.Observer.Journal
open ADesk.Observer.State
open ADesk.Observer.Waiter
open ADesk.Observer.Service
open ADesk.Foundation.KeyedLog

/-! ## Views of the window table -/

/-- The commit sequence tracked for a window; `none` when the window is not tracked. -/
def trackedCommit (windows : WindowMap WindowTemporalState) (windowId : WindowId) : Option ℕ :=
  windows[windowId]?.map WindowTemporalState.lastCommitSeq

def Tracked (state : ServiceState) (windowId : WindowId) : Prop :=
  (trackedCommit state.windows windowId).isSome = true

instance (state : ServiceState) (windowId : WindowId) : Decidable (Tracked state windowId) :=
  inferInstanceAs (Decidable (_ = true))

/-- No window has a known geometry; resync is the only source of geometry. -/
def NoGeometry (windows : WindowMap WindowTemporalState) : Prop :=
  ∀ (windowId : WindowId) (window : WindowTemporalState),
    windows[windowId]? = some window → window.geometry = none

/-- Two tables differ in the displayed waiters alone. -/
def SameButPending (before after : WindowMap WindowTemporalState) : Prop :=
  ∀ windowId : WindowId,
    after[windowId]?.map (fun window => { window with pendingObservation := none }) =
      before[windowId]?.map (fun window => { window with pendingObservation := none })

theorem SameButPending.refl (windows : WindowMap WindowTemporalState) :
    SameButPending windows windows := fun _ => rfl

theorem SameButPending.trackedCommit {before after : WindowMap WindowTemporalState}
    (same : SameButPending before after) (windowId : WindowId) :
    Sections.trackedCommit after windowId = Sections.trackedCommit before windowId := by
  have lookup := congrArg (Option.map WindowTemporalState.lastCommitSeq) (same windowId)
  simpa [Sections.trackedCommit, Option.map_map, Function.comp_def] using lookup

theorem SameButPending.noGeometry {before after : WindowMap WindowTemporalState}
    (same : SameButPending before after) (unknown : NoGeometry before) : NoGeometry after := by
  intro windowId window found
  have lookup := congrArg (Option.map WindowTemporalState.geometry) (same windowId)
  rw [found] at lookup
  cases earlier : before[windowId]? with
  | none => simp [earlier] at lookup
  | some old =>
    simp only [earlier, Option.map_some, Option.some.injEq] at lookup
    rw [lookup]
    exact unknown windowId old earlier

/-! ## Registering and dropping waiters -/

theorem refresh_same (state : ServiceState) (windowId : WindowId) :
    SameButPending state.windows (refreshPendingObservation state windowId).windows := by
  intro other
  unfold refreshPendingObservation
  cases found : state.windows[windowId]? with
  | none => rfl
  | some window =>
    simp only [insert_lookup]
    by_cases same : windowId = other
    · subst same
      simp [found]
    · rw [if_neg same]

@[simp] theorem refresh_journal (state : ServiceState) (windowId : WindowId) :
    (refreshPendingObservation state windowId).journal = state.journal := by
  unfold refreshPendingObservation
  cases state.windows[windowId]? <;> rfl

@[simp] theorem refresh_watermark (state : ServiceState) (windowId : WindowId) :
    (refreshPendingObservation state windowId).watermark = state.watermark := by
  unfold refreshPendingObservation
  cases state.windows[windowId]? <;> rfl

/-- The sections that leave journal, watermark and tracked windows alone. -/
structure PendingOnly (before after : ServiceState) : Prop where
  windows : SameButPending before.windows after.windows
  journal : after.journal = before.journal
  watermark : after.watermark = before.watermark

theorem PendingOnly.refl (state : ServiceState) : PendingOnly state state :=
  ⟨SameButPending.refl _, rfl, rfl⟩

theorem register_pending_only (state : ServiceState) (windowId : Option WindowId)
    (key : PendingObservation) : PendingOnly state (registerPending state windowId key) := by
  cases windowId with
  | none => exact PendingOnly.refl state
  | some windowId =>
    exact ⟨refresh_same _ windowId, refresh_journal _ windowId, refresh_watermark _ windowId⟩

theorem drop_pending_only (state : ServiceState) (windowId : Option WindowId)
    (key : PendingObservation) : PendingOnly state (dropPending state windowId key) := by
  cases windowId with
  | none => exact PendingOnly.refl state
  | some windowId =>
    exact ⟨refresh_same _ windowId, refresh_journal _ windowId, refresh_watermark _ windowId⟩

/-! ## The state section of `handle_event` -/

/-- What an event makes of the tracked commit sequence of the window it names. -/
def eventCommit (event : RuntimeEvent) (old : Option ℕ) : Option ℕ :=
  match event with
  | .windowDestroyed .. => none
  | .surfaceCommit _ _ _ commitSeq _ => some (max (old.getD 0) commitSeq)
  | _ => some (old.getD 0)

theorem window_on_demand_commit (windows : WindowMap WindowTemporalState) (windowId : WindowId)
    (tsMs : ℕ) (update : WindowTemporalState → WindowTemporalState) (other : WindowId) :
    trackedCommit (windowOnDemand windows windowId tsMs update) other =
      if windowId = other then
        some (update (windows[windowId]?.getD (.created windowId tsMs))).lastCommitSeq
      else trackedCommit windows other := by
  simp only [trackedCommit, windowOnDemand, insert_lookup]
  by_cases same : windowId = other
  · rw [if_pos same, if_pos same, Option.map_some]
  · rw [if_neg same, if_neg same]

private theorem on_demand_keeps_commit (windows : WindowMap WindowTemporalState)
    (windowId : WindowId) (tsMs : ℕ) :
    (windows[windowId]?.getD (.created windowId tsMs)).lastCommitSeq =
      (trackedCommit windows windowId).getD 0 := by
  unfold trackedCommit
  cases windows[windowId]? <;> rfl

theorem apply_event_commit (windows : WindowMap WindowTemporalState) (event : RuntimeEvent)
    (windowId : WindowId) :
    trackedCommit (applyEvent windows event) windowId =
      if event.windowId = some windowId then eventCommit event (trackedCommit windows windowId)
      else trackedCommit windows windowId := by
  have changed : ∀ (named : WindowId) (tsMs : ℕ),
      trackedCommit (windowOnDemand windows named tsMs (markChanged tsMs)) windowId =
        if some named = some windowId then some ((trackedCommit windows windowId).getD 0)
        else trackedCommit windows windowId := by
    intro named tsMs
    rw [window_on_demand_commit]
    by_cases same : named = windowId
    · subst same
      simp only [if_true, markChanged, on_demand_keeps_commit]
    · simp [same]
  cases event with
  | windowCreated seq tsMs named =>
    by_cases same : named = windowId
    · subst same
      cases found : windows[named]? <;>
        simp [applyEvent, trackedCommit, found, RuntimeEvent.windowId, eventCommit,
          WindowTemporalState.created]
    · cases found : windows[named]? <;>
        simp [applyEvent, trackedCommit, found, RuntimeEvent.windowId, same,
          insert_lookup]
  | windowDestroyed seq tsMs named =>
    by_cases same : named = windowId
    · subst same
      simp [applyEvent, trackedCommit, RuntimeEvent.windowId, eventCommit]
    · simp [applyEvent, trackedCommit, RuntimeEvent.windowId, same, erase_lookup]
  | surfaceCommit seq tsMs named commitSeq damage =>
    change trackedCommit (windowOnDemand windows named tsMs _) windowId = _
    rw [window_on_demand_commit]
    by_cases same : named = windowId
    · subst same
      simp only [RuntimeEvent.windowId, if_true, eventCommit, markCommitted,
        on_demand_keeps_commit]
    · simp [RuntimeEvent.windowId, same]
  | windowActivated seq tsMs named => exact changed named tsMs
  | titleChanged seq tsMs named => exact changed named tsMs
  | popupAppeared seq tsMs named => exact changed named tsMs
  | popupDisappeared seq tsMs named => exact changed named tsMs
  | focusChanged seq tsMs named =>
    cases named with
    | none => rfl
    | some named => exact changed named tsMs
  | appLaunched => rfl
  | notification => rfl
  | notificationClosed => rfl
  | notificationAction => rfl

private theorem no_geometry_insert {windows : WindowMap WindowTemporalState}
    (unknown : NoGeometry windows) (windowId : WindowId) {window : WindowTemporalState}
    (fresh : window.geometry = none) : NoGeometry (windows.insert windowId window) := by
  intro other found lookup
  rw [insert_lookup] at lookup
  split at lookup
  · cases lookup
    exact fresh
  · exact unknown other found lookup

private theorem no_geometry_on_demand {windows : WindowMap WindowTemporalState}
    (unknown : NoGeometry windows) (windowId : WindowId) (tsMs : ℕ)
    {update : WindowTemporalState → WindowTemporalState}
    (keeps : ∀ window, (update window).geometry = window.geometry) :
    NoGeometry (windowOnDemand windows windowId tsMs update) := by
  refine no_geometry_insert unknown windowId ?_
  rw [keeps]
  cases found : windows[windowId]? with
  | none => rfl
  | some window => exact unknown windowId window found

/-- `handle_event` never learns a geometry. -/
theorem apply_event_no_geometry {windows : WindowMap WindowTemporalState}
    (unknown : NoGeometry windows) (event : RuntimeEvent) :
    NoGeometry (applyEvent windows event) := by
  have changed : ∀ (named : WindowId) (tsMs : ℕ),
      NoGeometry (windowOnDemand windows named tsMs (markChanged tsMs)) :=
    fun named tsMs => no_geometry_on_demand unknown named tsMs fun _ => rfl
  cases event with
  | windowCreated seq tsMs named =>
    cases found : windows[named]? with
    | none =>
      simp only [applyEvent, found]
      exact no_geometry_insert unknown named rfl
    | some window =>
      simp only [applyEvent, found]
      exact no_geometry_insert unknown named (unknown named window found)
  | windowDestroyed seq tsMs named =>
    intro other window lookup
    rw [applyEvent, erase_lookup] at lookup
    split at lookup
    · cases lookup
    · exact unknown other window lookup
  | surfaceCommit seq tsMs named => exact no_geometry_on_demand unknown named tsMs fun _ => rfl
  | windowActivated seq tsMs named => exact changed named tsMs
  | titleChanged seq tsMs named => exact changed named tsMs
  | popupAppeared seq tsMs named => exact changed named tsMs
  | popupDisappeared seq tsMs named => exact changed named tsMs
  | focusChanged seq tsMs named =>
    cases named with
    | none => exact unknown
    | some named => exact changed named tsMs
  | appLaunched => exact unknown
  | notification => exact unknown
  | notificationClosed => exact unknown
  | notificationAction => exact unknown

/-- The recount of the pending actions of the window that an event is about. -/
def recounted (applied : ServiceState) : Option WindowId → ServiceState
  | some windowId =>
    if applied.pending.contains windowId then refreshPendingObservation applied windowId
    else applied
  | none => applied

def journaled (state : ServiceState) : Option CountedEvent → ServiceState
  | some counted => { state with journal := state.journal.push counted }
  | none => state

/-- The parts of the section: application, recount and journal entry. -/
theorem handle_event_section_eq (state : ServiceState) (event : RuntimeEvent) :
    handleEventSection state event =
      journaled
        (recounted
          { state with
            watermark := max state.watermark event.seq
            windows := applyEvent state.windows event } event.windowId)
        (CountedEvent.fromRuntimeEvent event) := by
  unfold handleEventSection
  cases event.windowId with
  | none => cases CountedEvent.fromRuntimeEvent event <;> rfl
  | some windowId => cases CountedEvent.fromRuntimeEvent event <;> rfl

theorem recounted_pending_only (applied : ServiceState) (concerned : Option WindowId) :
    PendingOnly applied (recounted applied concerned) := by
  cases concerned with
  | none => exact PendingOnly.refl applied
  | some windowId =>
    simp only [recounted]
    split
    · exact ⟨refresh_same _ windowId, refresh_journal _ windowId, refresh_watermark _ windowId⟩
    · exact PendingOnly.refl applied

/-- `handle_event` raises the watermark, applies the event to the windows and journals it
when it is counted. -/
theorem handle_event_section_spec (state : ServiceState) (event : RuntimeEvent) :
    (handleEventSection state event).watermark = max state.watermark event.seq ∧
      (handleEventSection state event).journal =
        (CountedEvent.fromRuntimeEvent event).toList.foldl EventJournal.push state.journal ∧
      SameButPending (applyEvent state.windows event) (handleEventSection state event).windows := by
  have spec := recounted_pending_only
    { state with
      watermark := max state.watermark event.seq
      windows := applyEvent state.windows event } event.windowId
  rw [handle_event_section_eq]
  cases CountedEvent.fromRuntimeEvent event with
  | none => exact ⟨spec.watermark, spec.journal, spec.windows⟩
  | some counted =>
    exact ⟨spec.watermark, congrArg (fun journal => EventJournal.push journal counted) spec.journal,
      spec.windows⟩

/-- The tracked commit sequence of every window after `handle_event`. -/
theorem handle_event_commit (state : ServiceState) (event : RuntimeEvent) (windowId : WindowId) :
    trackedCommit (handleEventSection state event).windows windowId =
      if event.windowId = some windowId then
        eventCommit event (trackedCommit state.windows windowId)
      else trackedCommit state.windows windowId := by
  rw [(handle_event_section_spec state event).2.2.trackedCommit, apply_event_commit]

/-- The tracked commit sequence of every window after `record_action` touched one. -/
theorem touch_section_commit (state : ServiceState) (kind : ActionKind) (touched : WindowId)
    (nowMs : ℕ) (windowId : WindowId) :
    trackedCommit (touchSection state kind touched nowMs).windows windowId =
      if touched = windowId then some ((trackedCommit state.windows windowId).getD 0)
      else trackedCommit state.windows windowId := by
  change trackedCommit (windowOnDemand state.windows touched nowMs _) windowId = _
  rw [window_on_demand_commit]
  by_cases same : touched = windowId
  · subst same
    rw [if_pos rfl, if_pos rfl, ← on_demand_keeps_commit state.windows touched nowMs]
    unfold stampInput
    cases kind.isInput <;> rfl
  · rw [if_neg same, if_neg same]

theorem touch_section_no_geometry {state : ServiceState} (unknown : NoGeometry state.windows)
    (kind : ActionKind) (touched : WindowId) (nowMs : ℕ) :
    NoGeometry (touchSection state kind touched nowMs).windows := by
  change NoGeometry (windowOnDemand state.windows touched nowMs (stampInput kind nowMs))
  refine no_geometry_on_demand unknown touched nowMs fun window => ?_
  unfold stampInput
  cases kind.isInput <;> rfl

/-! ## The absorb section of `run_wait` -/

/-- The counted events of a batch, each with the geometry its damage is clipped to. -/
def countedBatch (state : ServiceState) (filters : Filters) (batch : List CountedEvent) :
    List (CountedEvent × Option Rect) :=
  (batch.filter filters.counts).map fun event => (event, eventGeometry state event)

private theorem absorb_batch (state : ServiceState) (filters : Filters)
    (batch : List CountedEvent) (scan : ℕ × Accumulator) :
    batch.foldl (absorbEvent state filters) scan =
      (advance CountedEvent.seq scan.1 batch,
        absorbAll scan.2 (countedBatch state filters batch)) := by
  induction batch generalizing scan with
  | nil => rfl
  | cons event rest ih =>
    have raised : (if event.seq > scan.1 then event.seq else scan.1) = max scan.1 event.seq := by
      split <;> omega
    rw [List.foldl_cons, ih]
    cases counted : filters.counts event with
    | false => simp [absorbEvent, advance, countedBatch, counted, raised]
    | true => simp [absorbEvent, advance, countedBatch, counted, raised, absorbAll]

/-- One absorb section scans every journaled event above the cursor, moves the cursor over all
of them and folds those that the filters count. -/
theorem absorb_section_spec (state : ServiceState) (filters : Filters) (cursor : ℕ)
    (acc : Accumulator) :
    absorbSection state filters cursor acc =
      (advance CountedEvent.seq cursor (newer CountedEvent.seq cursor state.journal.buf),
        absorbAll acc (countedBatch state filters
          (newer CountedEvent.seq cursor state.journal.buf))) := by
  unfold absorbSection
  rw [absorb_batch, since_eq_newer]

theorem counted_batch_events (state : ServiceState) (filters : Filters)
    (batch : List CountedEvent) :
    (countedBatch state filters batch).map Prod.fst = batch.filter filters.counts := by
  simp [countedBatch, Function.comp_def]

/-- Without known geometries no damage is clipped. -/
theorem counted_batch_no_geometry {state : ServiceState} (unknown : NoGeometry state.windows)
    (filters : Filters) (batch : List CountedEvent) :
    countedBatch state filters batch =
      (batch.filter filters.counts).map fun event => (event, none) := by
  refine List.map_congr_left fun event _ => ?_
  have unclipped : eventGeometry state event = none := by
    unfold eventGeometry
    cases event.windowId with
    | none => rfl
    | some windowId =>
      cases found : state.windows[windowId]? with
      | none => simp [found]
      | some window => simp [found, unknown windowId window found]
  rw [unclipped]

end ADesk.Observer.Sections
