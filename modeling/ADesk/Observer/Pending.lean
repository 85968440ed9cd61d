/- ADesk/Observer/Pending
   digest: The waiter shown on a window against the guards that are live, over whole runs. -/

import ADesk.Foundation.Tally
import ADesk.Observer.Resync
import ADesk.Observer.Steps

set_option autoImplicit false

namespace ADesk.Observer.Pending

open ADesk.Core.Ids (WindowId WindowMap insert_lookup erase_lookup)
open ADesk.Core.Event (RuntimeEvent)
open ADesk.Foundation.Execution
open ADesk.Foundation.Tally
open ADesk.Observer.Actions (ActionKind)
open ADesk.Observer.Journal
open ADesk.Observer.State
open ADesk.Observer.Service
open ADesk.Observer.Waiter
open ADesk.Observer.Sections
open ADesk.Observer.Resync
open ADesk.Observer.Run
open ADesk.Observer.Steps

/-! ## Live guards -/

/-- The phases of `run_wait` in which its guard exists: from the registration to the drop. -/
def guardHeld : WaitPhase → Bool
  | .looping | .reading _ | .absorbing .. | .deciding .. | .scheduling _ | .parked _
  | .stamping _ | .resolving .. | .releasing _ => true
  | .checking | .subscribing | .registering | .done _ | .failed _ | .cancelled => false

/-- What the guard of a wait registers: nothing for a wait on any window. -/
def registration (wait : Wait) : Option (WindowId × PendingObservation) :=
  wait.plan.windowId.map fun windowId => (windowId, wait.key)

def taskGuard : WaitTask → Option (WindowId × PendingObservation)
  | .running wait => if guardHeld wait.phase then registration wait else none
  | .idle | .calling .. | .refused _ => none

/-- The window and the key of the live guard of a waiter. -/
def guardOf (s : Run.State) (waiter : ℕ) : Option (WindowId × PendingObservation) :=
  taskGuard (s.waits waiter)

/-- Some live guard on the window has this key. -/
def LiveGuard (s : Run.State) (windowId : WindowId) (key : PendingObservation) : Prop :=
  ∃ waiter, guardOf s waiter = some (windowId, key)

/-- What a step of a waiter does to its guard and to the service. -/
inductive GuardMove (service : ServiceState) : WaitTask → WaitTask → ServiceState → Prop
  | kept (task moved : WaitTask) (same : taskGuard moved = taskGuard task) :
      GuardMove service task moved service
  | registered (wait moved : Wait) (free : taskGuard (.running wait) = none)
      (live : taskGuard (.running moved) = registration wait) :
      GuardMove service (.running wait) (.running moved)
        (registerPending service wait.plan.windowId wait.key)
  | dropped (wait moved : Wait) (live : taskGuard (.running wait) = registration wait)
      (free : taskGuard (.running moved) = none) :
      GuardMove service (.running wait) (.running moved)
        (dropPending service wait.plan.windowId wait.key)

private theorem kept_walk {service : ServiceState} {wait moved : Wait}
    (phase : guardHeld moved.phase = guardHeld wait.phase)
    (same : registration moved = registration wait) :
    GuardMove service (.running wait) (.running moved) service := by
  refine .kept _ _ ?_
  simp only [taskGuard, phase, same]

private theorem decide_wait_guarded (s : Run.State) (plan : WaitPlan)
    (generation now anchor : ℕ) (met : Bool) :
    guardHeld (decideWait s plan generation now anchor met) = true := by
  unfold decideWait
  split
  · split <;> rfl
  · split <;> rfl

private theorem advance_guard {s : Run.State} {wait moved : Wait} {service : ServiceState}
    (taken : advanceWait s wait = some (service, moved)) :
    GuardMove s.service (.running wait) (.running moved) service := by
  unfold advanceWait at taken
  cases phase : wait.phase with
  | checking =>
    simp only [phase] at taken
    cases window : wait.plan.windowId with
    | none =>
      simp only [window] at taken
      cases taken
      exact kept_walk (by rw [phase]; rfl) rfl
    | some windowId =>
      simp only [window] at taken
      split at taken
      · cases taken
        exact kept_walk (by rw [phase]; rfl) rfl
      · cases taken
        exact kept_walk (by rw [phase]; rfl) rfl
  | registering =>
    simp only [phase] at taken
    cases taken
    exact .registered wait _ (by simp only [taskGuard, phase]; rfl) rfl
  | releasing observation =>
    simp only [phase] at taken
    cases taken
    exact .dropped wait _ (by simp only [taskGuard, phase]; rfl) rfl
  | deciding generation now anchor met =>
    simp only [phase] at taken
    cases taken
    exact kept_walk (by rw [phase]; exact decide_wait_guarded ..) rfl
  | subscribing | looping | reading | absorbing | scheduling | stamping | resolving =>
    simp only [phase] at taken
    cases taken
    exact kept_walk (by rw [phase]; rfl) rfl
  | parked | done | failed | cancelled => simp [phase] at taken

/-- Every step of a waiter keeps its guard, registers it or drops it. -/
theorem guard_cases {s t : Run.State} {label : Label} (moving : byWaiter label = true)
    (taken : step s label = some t) :
    ∃ waiter task service, GuardMove s.service (s.waits waiter) task service ∧
      t = { s with service := service }.setWait waiter task := by
  cases label with
  | tick | handleEvent | resync | pumpSection | pumpBump | recordAction | actorStep => cases moving
  | callWait waiter request =>
    simp only [step] at taken
    split at taken
    · next idle =>
      cases taken
      exact ⟨waiter, _, s.service, .kept _ _ (by rw [idle]; rfl), rfl⟩
    · cases taken
  | runWait waiter plan =>
    simp only [step] at taken
    split at taken
    · next idle =>
      cases taken
      exact ⟨waiter, _, s.service, .kept _ _ (by rw [idle]; rfl), rfl⟩
    · cases taken
  | waitStep waiter =>
    simp only [step, waitStep] at taken
    cases task : s.waits waiter with
    | idle => simp [task] at taken
    | refused _ => simp [task] at taken
    | calling request startedAt =>
      simp only [task, Option.some.injEq] at taken
      refine ⟨waiter, _, s.service, .kept _ _ ?_, taken.symm⟩
      cases Spec.planRequest s.actions s.service.watermark request startedAt with
      | ok plan => rw [task]; rfl
      | error error => rw [task]; rfl
    | running wait =>
      simp only [task] at taken
      cases advanced : advanceWait s wait with
      | none => simp [advanced] at taken
      | some result =>
        obtain ⟨service, moved⟩ := result
        simp only [advanced, Option.some.injEq] at taken
        exact ⟨waiter, .running moved, service, task ▸ advance_guard advanced, taken.symm⟩
  | wakeChanged waiter =>
    simp only [step] at taken
    split at taken
    · next wait task =>
      split at taken
      · next phase =>
        split at taken
        · cases taken
          exact ⟨waiter, _, s.service, task ▸ kept_walk (by rw [phase]; rfl) rfl, rfl⟩
        · cases taken
      · cases taken
    · cases taken
  | wakeTimer waiter =>
    simp only [step] at taken
    split at taken
    · next wait task =>
      split at taken
      · next phase =>
        split at taken
        · cases taken
          exact ⟨waiter, _, s.service, task ▸ kept_walk (by rw [phase]; rfl) rfl, rfl⟩
        · cases taken
      · cases taken
    · cases taken
  | cancelWait waiter =>
    simp only [step] at taken
    split at taken
    · next wait task =>
      split at taken
      · next phase =>
        cases taken
        exact ⟨waiter, _, _, task ▸ .dropped wait _ (by simp only [taskGuard, phase]; rfl) rfl, rfl⟩
      · cases taken
    · cases taken

/-! ## Annotations -/

/-- The waiter shown on a window; nothing on a window that is not tracked. -/
def shownOn (windows : WindowMap WindowTemporalState) (windowId : WindowId) :
    Option PendingObservation :=
  windows[windowId]?.bind WindowTemporalState.pendingObservation

/-- Every tracked window shows the first key that the multiset holds for it. -/
def Annotated (state : ServiceState) : Prop :=
  ∀ windowId, Tracked state windowId →
    shownOn state.windows windowId = first state.pending windowId

theorem tracked_iff {state : ServiceState} {windowId : WindowId} :
    Tracked state windowId ↔ ∃ window, state.windows[windowId]? = some window := by
  unfold Tracked trackedCommit
  rw [Option.isSome_map, Option.isSome_iff_exists]

/-- A window that the update keeps tracked keeps what it shows; a new window shows nothing. -/
def Inherits (before after : WindowMap WindowTemporalState) : Prop :=
  ∀ (windowId : WindowId) (window : WindowTemporalState), after[windowId]? = some window →
    window.pendingObservation = shownOn before windowId

theorem Inherits.shown {before after : WindowMap WindowTemporalState}
    (inherits : Inherits before after) {windowId : WindowId} {window : WindowTemporalState}
    (found : after[windowId]? = some window) : shownOn after windowId = shownOn before windowId := by
  rw [shownOn, found]
  exact inherits windowId window found

theorem inherits_refl (windows : WindowMap WindowTemporalState) : Inherits windows windows := by
  intro windowId window found
  rw [shownOn, found]
  rfl

theorem inherits_insert (windows : WindowMap WindowTemporalState) (windowId : WindowId)
    {value : WindowTemporalState}
    (same : value.pendingObservation = shownOn windows windowId) :
    Inherits windows (windows.insert windowId value) := by
  intro other window found
  rw [insert_lookup] at found
  split at found
  · next here =>
    cases found
    exact here ▸ same
  · exact inherits_refl windows other window found

theorem inherits_erase (windows : WindowMap WindowTemporalState) (windowId : WindowId) :
    Inherits windows (windows.erase windowId) := by
  intro other window found
  rw [erase_lookup] at found
  split at found
  · cases found
  · exact inherits_refl windows other window found

theorem inherits_on_demand (windows : WindowMap WindowTemporalState) (windowId : WindowId)
    (tsMs : ℕ) {update : WindowTemporalState → WindowTemporalState}
    (keeps : ∀ window, (update window).pendingObservation = window.pendingObservation) :
    Inherits windows (windowOnDemand windows windowId tsMs update) := by
  refine inherits_insert windows windowId ?_
  rw [keeps, shownOn]
  cases windows[windowId]? <;> rfl

theorem inherits_event (windows : WindowMap WindowTemporalState) (event : RuntimeEvent) :
    Inherits windows (applyEvent windows event) := by
  have changed : ∀ (named : WindowId) (tsMs : ℕ),
      Inherits windows (windowOnDemand windows named tsMs (markChanged tsMs)) :=
    fun named tsMs => inherits_on_demand windows named tsMs fun _ => rfl
  cases event with
  | windowCreated seq tsMs named =>
    simp only [applyEvent]
    cases found : windows[named]? with
    | none =>
      refine inherits_insert windows named ?_
      rw [shownOn, found]
      rfl
    | some window =>
      refine inherits_insert windows named ?_
      rw [shownOn, found]
      rfl
  | windowDestroyed seq tsMs named => exact inherits_erase windows named
  | surfaceCommit seq tsMs named => exact inherits_on_demand windows named tsMs fun _ => rfl
  | windowActivated seq tsMs named => exact changed named tsMs
  | titleChanged seq tsMs named => exact changed named tsMs
  | popupAppeared seq tsMs named => exact changed named tsMs
  | popupDisappeared seq tsMs named => exact changed named tsMs
  | focusChanged seq tsMs named =>
    cases named with
    | none => exact inherits_refl windows
    | some named => exact changed named tsMs
  | appLaunched | notification | notificationClosed | notificationAction =>
    exact inherits_refl windows

private theorem covered_state_shown (snapshot : StateSnapshot)
    (windows : WindowMap WindowTemporalState) (window : WindowSnapshot) :
    (coveredState snapshot windows[window.windowId]? window).pendingObservation =
      shownOn windows window.windowId := by
  unfold shownOn coveredState
  cases windows[window.windowId]? with
  | none =>
    simp only [seedWindow, Option.bind_none]
    split <;> rfl
  | some existing =>
    simp only [Option.bind_some]
    split <;> rfl

private theorem cover_all_shown (snapshot : StateSnapshot) (windows : List WindowSnapshot)
    (work : Reconciliation) (windowId : WindowId) :
    shownOn (windows.foldl (coverWindow snapshot) work).windows windowId =
      shownOn work.windows windowId := by
  induction windows generalizing work with
  | nil => rfl
  | cons head rest ih =>
    rw [List.foldl_cons, ih, (cover_window_spec snapshot work head).1]
    have covered := covered_state_shown snapshot work.windows head
    unfold shownOn at covered ⊢
    rw [insert_lookup]
    split
    · next here =>
      subst here
      exact covered
    · rfl

theorem inherits_reconcile (windows : WindowMap WindowTemporalState) (snapshot : StateSnapshot)
    (report : ResyncReport) : Inherits windows (reconcile windows snapshot report).windows := by
  intro windowId window found
  obtain ⟨table, _⟩ := remove_all_spec snapshot
    (goneWindows (snapshot.windows.foldl (coverWindow snapshot) ⟨windows, [], report⟩).windows
      snapshot)
    (snapshot.windows.foldl (coverWindow snapshot) ⟨windows, [], report⟩)
  have shown := cover_all_shown snapshot snapshot.windows ⟨windows, [], report⟩ windowId
  have lookup := table windowId
  change (reconcile windows snapshot report).windows[windowId]? = _ at lookup
  rw [found] at lookup
  split at lookup
  · cases lookup
  · rw [shownOn, ← lookup] at shown
    exact shown

/-- An update that leaves the multiset alone keeps the annotations right when every window it
introduces is one that no waiter is counted for. -/
theorem Annotated.inherited {state : ServiceState} (annotated : Annotated state)
    {windows : WindowMap WindowTemporalState} (inherits : Inherits state.windows windows)
    {windowId : WindowId} {window : WindowTemporalState} (found : windows[windowId]? = some window)
    (introduced : ¬ Tracked state windowId → first state.pending windowId = none) :
    shownOn windows windowId = first state.pending windowId := by
  rw [inherits.shown found]
  by_cases known : Tracked state windowId
  · exact annotated windowId known
  · rw [introduced known, shownOn]
    cases old : state.windows[windowId]? with
    | none => rfl
    | some window => exact absurd (tracked_iff.mpr ⟨window, old⟩) known

/-! ## Refreshing -/

/-- A refresh sets the annotation of its own window and changes no other window. -/
theorem refresh_shown (state : ServiceState) (windowId other : WindowId) :
    shownOn (refreshPendingObservation state windowId).windows other =
      if windowId = other ∧ Tracked state windowId then first state.pending windowId
      else shownOn state.windows other := by
  unfold refreshPendingObservation
  cases found : state.windows[windowId]? with
  | none =>
    have unknown : ¬ Tracked state windowId := by
      intro known
      obtain ⟨window, lookup⟩ := tracked_iff.mp known
      rw [found] at lookup
      cases lookup
    rw [if_neg fun both => unknown both.2]
  | some window =>
    have known : Tracked state windowId := tracked_iff.mpr ⟨window, found⟩
    simp only [shownOn, insert_lookup]
    by_cases same : windowId = other
    · rw [if_pos same, if_pos ⟨same, known⟩]
      rfl
    · rw [if_neg same, if_neg fun both => same both.1]

@[simp] theorem refresh_pending (state : ServiceState) (windowId : WindowId) :
    (refreshPendingObservation state windowId).pending = state.pending := by
  unfold refreshPendingObservation
  cases state.windows[windowId]? <;> rfl

theorem refresh_tracked (state : ServiceState) (windowId other : WindowId) :
    Tracked (refreshPendingObservation state windowId) other ↔ Tracked state other := by
  unfold Tracked
  rw [(refresh_same state windowId).trackedCommit]

/-- Refreshing the one window whose annotation may be wrong makes all of them right. -/
theorem annotated_refresh {state : ServiceState} {windowId : WindowId}
    (others : ∀ other, other ≠ windowId → Tracked state other →
      shownOn state.windows other = first state.pending other) :
    Annotated (refreshPendingObservation state windowId) := by
  intro other known
  rw [refresh_tracked] at known
  rw [refresh_shown, refresh_pending]
  by_cases same : windowId = other
  · subst same
    rw [if_pos ⟨rfl, known⟩]
  · rw [if_neg fun both => same both.1]
    exact others other (Ne.symm same) known

/-! ## The critical sections -/

/-- The multiset counts what the guards hold. -/
def Counted (state : ServiceState) (held : Multiset (WindowId × PendingObservation)) : Prop :=
  Grouped state.pending held

theorem register_counted {state : ServiceState} {held : Multiset (WindowId × PendingObservation)}
    (counted : Counted state held) (windowId : WindowId) (key : PendingObservation) :
    Counted (registerPending state (some windowId) key) ((windowId, key) ::ₘ held) := by
  unfold Counted registerPending
  rw [refresh_pending]
  exact Grouped.raise counted windowId key

theorem register_annotated {state : ServiceState} (annotated : Annotated state)
    (windowId : WindowId) (key : PendingObservation) :
    Annotated (registerPending state (some windowId) key) := by
  refine annotated_refresh fun other differs known => ?_
  change shownOn state.windows other = first (state.pending.insert windowId _) other
  rw [first, insert_other state.pending (Ne.symm differs)]
  exact annotated other known

private theorem drop_pending (state : ServiceState) (windowId : WindowId)
    (key : PendingObservation) :
    (dropPending state (some windowId) key).pending = lowerIn state.pending windowId key := by
  unfold dropPending lowerIn lower
  rw [refresh_pending]
  cases state.pending[windowId]? with
  | none => rfl
  | some waiters => rfl

theorem drop_counted {state : ServiceState} {held : Multiset (WindowId × PendingObservation)}
    {windowId : WindowId} {key : PendingObservation}
    (counted : Counted state ((windowId, key) ::ₘ held)) :
    Counted (dropPending state (some windowId) key) held := by
  unfold Counted
  rw [drop_pending]
  exact Grouped.lower counted

theorem drop_annotated {state : ServiceState} (annotated : Annotated state)
    (windowId : WindowId) (key : PendingObservation) :
    Annotated (dropPending state (some windowId) key) := by
  refine annotated_refresh fun other differs known => ?_
  have pending := drop_pending state windowId key
  rw [dropPending, refresh_pending] at pending
  rw [first, pending, lower_in_other state.pending (Ne.symm differs)]
  exact annotated other known

private theorem applied_tracked {windows : WindowMap WindowTemporalState} {event : RuntimeEvent}
    {other : WindowId} (elsewhere : event.windowId ≠ some other) {window : WindowTemporalState}
    (found : (applyEvent windows event)[other]? = some window) :
    ∃ before, windows[other]? = some before := by
  have commit := apply_event_commit windows event other
  rw [if_neg elsewhere, trackedCommit, trackedCommit, found] at commit
  cases before : windows[other]? with
  | none =>
    rw [before] at commit
    cases commit
  | some old => exact ⟨old, rfl⟩

/-- `handle_event` leaves the multiset alone and keeps every annotation right: it refreshes the
window it concerns when waiters are counted for it. -/
theorem event_annotated {state : ServiceState} (annotated : Annotated state)
    (event : RuntimeEvent) :
    Annotated (handleEventSection state event) ∧
      (handleEventSection state event).pending = state.pending := by
  let applied : ServiceState :=
    { state with
      watermark := max state.watermark event.seq
      windows := applyEvent state.windows event }
  have inherits : Inherits state.windows applied.windows := inherits_event state.windows event
  have elsewhere : ∀ other, event.windowId ≠ some other → Tracked applied other →
      shownOn applied.windows other = first state.pending other := by
    intro other differs known
    obtain ⟨window, found⟩ := tracked_iff.mp known
    refine annotated.inherited inherits found fun unknown => ?_
    exact absurd (tracked_iff.mpr (applied_tracked differs found)) unknown
  have kept : Annotated (recounted applied event.windowId) ∧
      (recounted applied event.windowId).pending = state.pending := by
    cases concerned : event.windowId with
    | none => exact ⟨fun other known => elsewhere other (by rw [concerned]; simp) known, rfl⟩
    | some windowId =>
      simp only [recounted]
      split
      · next counted =>
        refine ⟨annotated_refresh fun other differs known => ?_, refresh_pending ..⟩
        refine elsewhere other (fun same => ?_) known
        rw [concerned] at same
        exact differs (Option.some.inj same).symm
      · next uncounted =>
        refine ⟨fun other known => ?_, rfl⟩
        obtain ⟨window, found⟩ := tracked_iff.mp known
        refine annotated.inherited inherits found fun unknown => ?_
        by_cases same : windowId = other
        · subst same
          have absent : state.pending[windowId]? = none := by simpa [applied] using uncounted
          rw [first, absent]
          rfl
        · have differs : event.windowId ≠ some other := by
            rw [concerned]
            exact fun equal => same (Option.some.inj equal)
          exact absurd (tracked_iff.mpr (applied_tracked differs found)) unknown
  rw [handle_event_section_eq]
  cases CountedEvent.fromRuntimeEvent event with
  | none => exact kept
  | some counted => exact kept

theorem resync_annotated {state : ServiceState} (annotated : Annotated state)
    {snapshot : StateSnapshot} (fresh : ¬ staleSnapshot state snapshot)
    (introduced : ∀ windowId ∈ snapshot.windowIds,
      Tracked state windowId ∨ state.pending[windowId]? = none) :
    Annotated (resyncSection state snapshot).1 := by
  intro windowId known
  have shown := (resync_section_tracked fresh windowId).mp known
  obtain ⟨window, found⟩ := tracked_iff.mp known
  rw [resyncSection, if_neg fresh] at found ⊢
  refine annotated.inherited (inherits_reconcile _ _ _) found fun unknown => ?_
  rw [first, (introduced windowId shown).resolve_left unknown]
  rfl

theorem resync_pending (state : ServiceState) (snapshot : StateSnapshot) :
    (resyncSection state snapshot).1.pending = state.pending := by
  unfold resyncSection
  split <;> rfl

theorem touch_annotated {state : ServiceState} (annotated : Annotated state) (kind : ActionKind)
    {touched : WindowId} (nowMs : ℕ)
    (introduced : Tracked state touched ∨ state.pending[touched]? = none) :
    Annotated (touchSection state kind touched nowMs) := by
  intro windowId known
  obtain ⟨window, found⟩ := tracked_iff.mp known
  have inherits : Inherits state.windows (touchSection state kind touched nowMs).windows := by
    refine inherits_on_demand state.windows touched nowMs fun window => ?_
    unfold stampInput
    cases kind.isInput <;> rfl
  refine annotated.inherited inherits found fun unknown => ?_
  have here : touched = windowId := by
    by_contra differs
    have commit := touch_section_commit state kind touched nowMs windowId
    rw [if_neg differs] at commit
    unfold Tracked at known unknown
    exact unknown (commit ▸ known)
  subst here
  rw [first, introduced.resolve_left unknown]
  rfl

/-! ## Whole runs -/

/-- Creating the state of the window hides no waiter: the window has its state already, or no
waiter is counted for it. -/
def HidesNone (state : ServiceState) (windowId : WindowId) : Prop :=
  Tracked state windowId ∨ state.pending[windowId]? = none

instance (state : ServiceState) (windowId : WindowId) : Decidable (HidesNone state windowId) :=
  inferInstanceAs (Decidable (_ ∨ _))

/-- The resync about to reconcile shows no untracked window that waiters are counted for. -/
def OrderlyResync (state : ServiceState) : PumpPhase → Prop
  | .resyncing snapshot =>
    staleSnapshot state snapshot ∨ ∀ windowId ∈ snapshot.windowIds, HidesNone state windowId
  | .idle | .handling _ | .bumping => True

instance (state : ServiceState) : ∀ phase, Decidable (OrderlyResync state phase)
  | .resyncing _ => inferInstanceAs (Decidable (_ ∨ _))
  | .idle | .handling _ | .bumping => inferInstanceAs (Decidable True)

/-- The action about to touch its window names no untracked window that waiters are counted for. -/
def OrderlyAction (state : ServiceState) : ActorPhase → Prop
  | .touching _ windowId _ _ => HidesNone state windowId
  | .idle | .stamped .. | .marked .. | .recorded _ => True

instance (state : ServiceState) : ∀ phase, Decidable (OrderlyAction state phase)
  | .touching .. => inferInstanceAs (Decidable (HidesNone ..))
  | .idle | .stamped .. | .marked .. | .recorded _ => inferInstanceAs (Decidable True)

/-- No resync and no action re-creates a window while a waiter on it is registered. -/
def Orderly (s : Run.State) : Label → Prop
  | .pumpSection => OrderlyResync s.service s.pump
  | .actorStep actor => OrderlyAction s.service (s.actors actor)
  | _ => True

instance (s : Run.State) : ∀ label, Decidable (Orderly s label)
  | .pumpSection => inferInstanceAs (Decidable (OrderlyResync ..))
  | .actorStep _ => inferInstanceAs (Decidable (OrderlyAction ..))
  | .tick _ | .handleEvent _ | .resync _ | .pumpBump | .recordAction .. | .callWait .. | .runWait ..
  | .waitStep _ | .wakeChanged _ | .wakeTimer _ | .cancelWait _ => inferInstanceAs (Decidable True)

/-- The multiset counts the live guards, and the windows show its first keys. -/
def Settled (s : Run.State) : Prop :=
  ∃ held, Holders (guardOf s) held ∧ Counted s.service held ∧ Annotated s.service

private theorem Settled.of_service {s t : Run.State} (settled : Settled s)
    (waits : t.waits = s.waits) (pending : t.service.pending = s.service.pending)
    (annotated : Annotated s.service → Annotated t.service) : Settled t := by
  obtain ⟨held, holders, counted, shown⟩ := settled
  refine ⟨held, ?_, ?_, annotated shown⟩
  · unfold guardOf
    rw [waits]
    exact holders
  · unfold Counted
    rw [pending]
    exact counted

private theorem env_step_settled {s t : Run.State} {label : Label} (settled : Settled s)
    (orderly : Orderly s label) (moved : EnvStep s label t) : Settled t := by
  cases moved with
  | handled event =>
    exact settled.of_service rfl (event_annotated settled.choose_spec.2.2 event).2
      fun annotated => (event_annotated annotated event).1
  | synced snapshot pumping fresh =>
    simp only [Orderly, pumping, OrderlyResync] at orderly
    exact settled.of_service rfl (resync_pending ..) fun annotated =>
      resync_annotated annotated fresh (orderly.resolve_left fresh)
  | touched actor kind touched nowMs actionId acting =>
    simp only [Orderly, acting, OrderlyAction] at orderly
    exact settled.of_service rfl rfl fun annotated =>
      touch_annotated annotated kind nowMs orderly
  | ticked | handleBegan | resyncBegan | stale | bumped | stamped | marked | recorded =>
    exact settled.of_service rfl rfl id

private theorem guard_set_wait (s : Run.State) (waiter : ℕ) (task : WaitTask) :
    guardOf (s.setWait waiter task) = Function.update (guardOf s) waiter (taskGuard task) := by
  funext other
  unfold guardOf
  by_cases same : other = waiter
  · subst same
    rw [Function.update_self]
    exact congrArg taskGuard (Function.update_self ..)
  · rw [Function.update_of_ne same]
    exact congrArg taskGuard (Function.update_of_ne same ..)

private theorem wait_step_settled {s : Run.State} {waiter : ℕ} {task : WaitTask}
    {service : ServiceState} (settled : Settled s)
    (moved : GuardMove s.service (s.waits waiter) task service) :
    Settled ({ s with service := service }.setWait waiter task) := by
  obtain ⟨held, holders, counted, shown⟩ := settled
  have guards : guardOf ({ s with service := service }.setWait waiter task) =
      Function.update (guardOf s) waiter (taskGuard task) := guard_set_wait ..
  unfold Settled
  rw [guards]
  generalize before : s.waits waiter = old at moved
  have own : guardOf s waiter = taskGuard old := congrArg taskGuard before
  cases moved with
  | kept _ _ same =>
    rw [same, ← own, Function.update_eq_self]
    exact ⟨held, holders, counted, shown⟩
  | registered wait moved free live =>
    rw [free] at own
    rw [live]
    unfold registration
    cases wait.plan.windowId with
    | none =>
      rw [Option.map_none, ← own, Function.update_eq_self]
      exact ⟨held, holders, counted, shown⟩
    | some windowId =>
      exact ⟨_, holders.take own (windowId, wait.key), register_counted counted windowId wait.key,
        register_annotated shown windowId wait.key⟩
  | dropped wait moved live free =>
    rw [live] at own
    rw [free]
    unfold registration at own
    cases window : wait.plan.windowId with
    | none =>
      rw [window, Option.map_none] at own
      rw [← own, Function.update_eq_self]
      exact ⟨held, holders, counted, shown⟩
    | some windowId =>
      rw [window, Option.map_some] at own
      obtain ⟨rest, split, remaining⟩ := holders.give own
      subst split
      exact ⟨rest, remaining, drop_counted counted, drop_annotated shown windowId wait.key⟩

private theorem settled_of_reachable {s : Run.State} (reached : Reachable machine Orderly s) :
    Settled s := by
  refine Inductive.holds (P := Settled) ⟨?_, ?_⟩ reached
  · refine ⟨0, holders_empty, grouped_empty, fun windowId known => ?_⟩
    obtain ⟨window, found⟩ := tracked_iff.mp known
    rw [show machine.init.service.windows = ∅ from rfl, Std.ExtTreeMap.getElem?_empty] at found
    cases found
  · intro before after label settled orderly taken
    cases moving : byWaiter label with
    | false => exact env_step_settled settled orderly (env_step_cases moving taken)
    | true =>
      obtain ⟨waiter, task, service, moved, rfl⟩ := guard_cases moving taken
      exact wait_step_settled settled moved

/-- What the annotation of a tracked window has to be: the earliest live guard, if there is one. -/
def ShowsEarliest (s : Run.State) (windowId : WindowId) (shown : Option PendingObservation) :
    Prop :=
  match shown with
  | some earliest => LiveGuard s windowId earliest ∧
      ∀ key, LiveGuard s windowId key → (compare earliest key).isLE = true
  | none => ∀ key, ¬ LiveGuard s windowId key

/-- While no resync and no action re-creates a window that is being waited on, every tracked
window shows the earliest live guard on it, and the multiset has an entry exactly for the windows
with live guards. -/
theorem pending_observation_earliest {s : Run.State} (reached : Reachable machine Orderly s) :
    (∀ (windowId : WindowId) (window : WindowTemporalState),
        s.service.windows[windowId]? = some window →
          ShowsEarliest s windowId window.pendingObservation) ∧
      ∀ windowId : WindowId, s.service.pending[windowId]? = none ↔
        ∀ key, ¬ LiveGuard s windowId key := by
  obtain ⟨held, holders, counted, shown⟩ := settled_of_reachable reached
  have live : ∀ windowId key, (windowId, key) ∈ held ↔ LiveGuard s windowId key :=
    fun windowId key => holders.mem (windowId, key)
  constructor
  · intro windowId window found
    have annotation := shown windowId (tracked_iff.mpr ⟨window, found⟩)
    rw [shownOn, found, Option.bind_some] at annotation
    unfold ShowsEarliest
    cases earliest : window.pendingObservation with
    | none =>
      rw [earliest] at annotation
      intro key guarded
      exact (Grouped.no_first counted windowId).mp annotation.symm key ((live ..).mpr guarded)
    | some least =>
      rw [earliest] at annotation
      obtain ⟨inside, below⟩ := (Grouped.first counted windowId least).mp annotation.symm
      exact ⟨(live ..).mp inside, fun key guarded => below key ((live ..).mpr guarded)⟩
  · intro windowId
    rw [Grouped.stored counted windowId, Multiset.eq_zero_iff_forall_notMem]
    refine forall_congr' fun key => not_congr ?_
    rw [mem_share, live]

/-- A wait for a change of window 7 with the given filter point and start. -/
def changePlan (minSeq startedAt : ℕ) : WaitPlan where
  windowId := some ⟨7⟩
  afterAction := none
  filters := ⟨some ⟨7⟩, minSeq, none⟩
  condition := .change
  timeoutMs := 5000
  anchorTs := startedAt
  startedAt := startedAt

/-- Two waiters register on a window; it is destroyed and created again. -/
def waitedRun : List Label :=
  [.handleEvent (.windowCreated 1 0 ⟨7⟩ none none none none), .pumpSection, .pumpBump,
    .runWait 0 (changePlan 1 4), .waitStep 0, .waitStep 0, .waitStep 0,
    .runWait 1 (changePlan 1 2), .waitStep 1, .waitStep 1, .waitStep 1,
    .handleEvent (.windowDestroyed 2 0 ⟨7⟩), .pumpSection, .pumpBump,
    .handleEvent (.windowCreated 3 0 ⟨7⟩ none none none none), .pumpSection]

def waitedState : Run.State := finalState machine Orderly waitedRun (by decide +kernel)

theorem pending_observation_earliest_waited :
    guardOf waitedState 1 = some (⟨7⟩, ⟨1, 2⟩) ∧
      (∀ (windowId : WindowId) (window : WindowTemporalState),
        waitedState.service.windows[windowId]? = some window →
          ShowsEarliest waitedState windowId window.pendingObservation) ∧
      ∀ windowId : WindowId, waitedState.service.pending[windowId]? = none ↔
        ∀ key, ¬ LiveGuard waitedState windowId key :=
  ⟨by decide +kernel, pending_observation_earliest
    (final_state_reachable machine Orderly waitedRun (by decide +kernel))⟩

/-- A waiter registers on a window; the window is destroyed and then named by an action. -/
def hiddenRun : List Label :=
  [.handleEvent (.windowCreated 1 0 ⟨7⟩ none none none none), .pumpSection, .pumpBump,
    .runWait 0 (changePlan 1 0), .waitStep 0, .waitStep 0, .waitStep 0,
    .handleEvent (.windowDestroyed 2 0 ⟨7⟩), .pumpSection, .pumpBump,
    .recordAction 0 .activateWindow (some ⟨7⟩) none, .actorStep 0, .actorStep 0, .actorStep 0]

def hiddenState : Run.State := finalState machine anyStep hiddenRun (by decide +kernel)

private theorem hidden_shown : shownOn hiddenState.service.windows ⟨7⟩ = none := by
  decide +kernel

/-- The action re-creates the state of the window and hides the live guard on it. -/
theorem waiter_hidden : ¬ ∀ s, Reachable machine anyStep s →
    ∀ (windowId : WindowId) (window : WindowTemporalState),
      s.service.windows[windowId]? = some window →
        ShowsEarliest s windowId window.pendingObservation := by
  intro earliest
  have guarded : LiveGuard hiddenState ⟨7⟩ ⟨1, 0⟩ := ⟨0, by decide +kernel⟩
  have known : Tracked hiddenState.service ⟨7⟩ := by decide +kernel
  obtain ⟨window, found⟩ := tracked_iff.mp known
  have shown := earliest hiddenState
    (final_state_reachable machine anyStep hiddenRun (by decide +kernel)) ⟨7⟩ window found
  have blank := hidden_shown
  rw [shownOn, found, Option.bind_some] at blank
  rw [blank] at shown
  exact shown _ guarded

end ADesk.Observer.Pending
