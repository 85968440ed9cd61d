/- ADesk.Compositor.Mirror
   digest: The desktop that the emitted events tell of, and the one that `QueryState` reports. -/

import ADesk.Compositor.Sourcing
import ADesk.Compositor.Tiling
import ADesk.Foundation.Execution

set_option autoImplicit false

namespace ADesk.Compositor.Mirror

open ADesk.Core.Event (RuntimeEvent)
open ADesk.Core.Geometry (Region)
open ADesk.Core.Ids (WindowId)
open ADesk.Compositor.Bridge
open ADesk.Compositor.Events
open ADesk.Compositor.Sourcing
open ADesk.Compositor.State
open ADesk.Compositor.Tiling
open ADesk.Foundation.Execution
open ADesk.Wm.Consistency
open ADesk.Wm.Policy

/-! ## Folding events -/

/-- What the events tell of a window. The popups are counted like in `WindowInfo`, in a `u32`. -/
structure Shown where
  title : Option String
  lastCommitSeq : ℕ
  popupCount : ℕ
  deriving DecidableEq

def Shown.popupAppeared (shown : Shown) : Shown :=
  { shown with popupCount := min (shown.popupCount + 1) (2 ^ 32 - 1) }

def Shown.popupDisappeared (shown : Shown) : Shown :=
  { shown with popupCount := shown.popupCount - 1 }

/-- A mirror of the windows and of the focus. -/
@[ext] structure Desktop where
  windows : WindowId → Option Shown
  focused : Option WindowId

def Desktop.empty : Desktop := ⟨fun _ => none, none⟩

def Desktop.set (desktop : Desktop) (id : WindowId) (shown : Option Shown) : Desktop :=
  { desktop with windows := Function.update desktop.windows id shown }

def Desktop.change (desktop : Desktop) (id : WindowId) (update : Shown → Shown) : Desktop :=
  desktop.set id ((desktop.windows id).map update)

/-- The mirror after one event. -/
def Desktop.apply (desktop : Desktop) : RuntimeEvent → Desktop
  | .windowCreated _ _ id _ _ _ title => desktop.set id (some ⟨title, 0, 0⟩)
  | .windowDestroyed _ _ id => desktop.set id none
  | .titleChanged _ _ id title => desktop.change id fun shown => { shown with title := title }
  | .surfaceCommit _ _ id commitSeq _ =>
    desktop.change id fun shown => { shown with lastCommitSeq := commitSeq }
  | .popupAppeared _ _ id _ => desktop.change id Shown.popupAppeared
  | .popupDisappeared _ _ id _ => desktop.change id Shown.popupDisappeared
  | .focusChanged _ _ focused => { desktop with focused := focused }
  | .windowActivated .. | .appLaunched .. | .notification .. | .notificationClosed ..
  | .notificationAction .. => desktop

def Desktop.fold (desktop : Desktop) (history : List RuntimeEvent) : Desktop :=
  history.foldl Desktop.apply desktop

def shown (record : WindowRecord) : Shown :=
  ⟨record.title, record.lastCommitSeq, record.popupCount⟩

/-- The desktop that a snapshot reports. -/
def reported (snapshot : StateSnapshot) : Desktop :=
  ⟨fun id => (snapshot.windows.find? (fun record => record.id = id)).map shown,
    snapshot.activeWindowId⟩

/-! ## The compositor thread -/

/-- The compositor with the events that its current operation still owes and those emitted. -/
structure State where
  compositor : CompositorState
  outbox : List Emission
  log : List RuntimeEvent

/-- What clients and commands do, a new output size, and the emission of the next event. -/
inductive Label
  | client (request : ClientRequest)
  | command (command : Command) (tsMs : ℕ)
  | resize (width height : ℕ)
  | emit (tsMs : ℕ)
  deriving DecidableEq

/-- The window manager's call for a new output size, whose actions configure windows only. -/
def setOutputSize (bridge : WmBridge) (width height : ℕ) : WmBridge × List Emission :=
  let resized := onOutputSize bridge.manager bridge.config width height
  ({ bridge with manager := resized.1, config := resized.2.1 },
    applyDecision ⟨resized.2.2, bridge.keyboardFocus⟩)

/-- The next operation starts when all events of the last one are emitted. -/
def step (state : State) : Label → Option State
  | .client request =>
    if state.outbox = [] then
      let handled := handleClient state.compositor request
      some { state with
        compositor := { state.compositor with wm := handled.1 }
        outbox := handled.2 }
    else none
  | .command command tsMs =>
    if state.outbox = [] then
      let handled := handleCommand state.compositor tsMs command
      some { state with compositor := handled.1, outbox := handled.2.1 }
    else none
  | .resize width height =>
    if state.outbox = [] then
      let resized := setOutputSize state.compositor.wm width height
      some { state with
        compositor := { state.compositor with wm := resized.1 }
        outbox := resized.2 }
    else none
  | .emit tsMs =>
    match state.outbox with
    | emission :: rest =>
      let allocated := state.compositor.events.nextSeq
      some
        { compositor := { state.compositor with events := allocated.1 }
          outbox := rest
          log := state.log ++ [emission.event allocated.2 tsMs] }
    | [] => none

def machine (config : PolicyConfig) : Machine State Label :=
  ⟨⟨CompositorState.new config, [], []⟩, step⟩

/-! ## What each operation tells -/

/-- The desktop of the window table. -/
def desktopOf (bridge : WmBridge) : Desktop :=
  ⟨fun id => (window bridge.manager id).map shown, activeWindow bridge.manager⟩

/-- The events of an operation lead from the desktop before it to the one after it. -/
def Told (before after : WmBridge) (emissions : List Emission) : Prop :=
  (desktopOf before).fold (drafted emissions) = desktopOf after

theorem fold_append (desktop : Desktop) (first second : List RuntimeEvent) :
    desktop.fold (first ++ second) = (desktop.fold first).fold second :=
  List.foldl_append ..

theorem Told.append {before middle after : WmBridge} {first second : List Emission}
    (left : Told before middle first) (right : Told middle after second) :
    Told before after (first ++ second) := by
  unfold Told at left right ⊢
  rw [drafted, List.map_append, fold_append]
  change ((desktopOf before).fold (drafted first)).fold (drafted second) = _
  rw [left, right]

theorem apply_draft (desktop : Desktop) (emission : Emission) (seq tsMs : ℕ) :
    desktop.apply (emission.event seq tsMs) = desktop.apply (emission.event 0 0) := by
  cases emission <;> rfl

/-- Updating one record changes what is shown of its window. -/
theorem desktop_update (bridge : WmBridge) (id : WindowId) (update : WindowRecord → WindowRecord)
    (change : Shown → Shown) (named : ∀ record, (update record).id = record.id)
    (shows : ∀ record, shown (update record) = change (shown record)) :
    desktopOf { bridge with
        manager := { bridge.manager with
          records := updateRecord id update bridge.manager.records } } =
      (desktopOf bridge).change id change := by
  have changed : (Option.map shown ∘ Option.map update : Option WindowRecord → _) =
      Option.map change ∘ Option.map shown := by
    funext record
    cases record with
    | none => rfl
    | some record => exact congrArg some (shows record)
  refine Desktop.ext (funext fun other => ?_) rfl
  change ((updateRecord id update bridge.manager.records).find? _).map shown =
    Function.update (desktopOf bridge).windows id _ other
  rw [update_record_find id other update named]
  by_cases same : id = other
  · subst same
    rw [if_pos rfl, Function.update_self]
    exact congrFun changed (window bridge.manager id)
  · rw [if_neg same, Function.update_of_ne (Ne.symm same)]
    rfl

theorem title_told (bridge : WmBridge) (surface : Surface) (title : Option String) :
    Told bridge (onTitleChanged bridge surface title).1
      (onTitleChanged bridge surface title).2 := by
  unfold onTitleChanged WmBridge.titleChanged
  cases bridge.windowForSurface surface [] with
  | none => rfl
  | some windowId =>
    simp only [Option.bind_some]
    split
    · next changed named found =>
      obtain ⟨_, same⟩ := Option.ite_none_left_eq_some.mp found
      cases same
      exact (desktop_update bridge windowId (fun record => { record with title := title })
        (fun shown => { shown with title := title }) (fun _ => rfl) (fun _ => rfl)).symm
    · rfl

/-- The number of a commit is the one that the window has afterwards. -/
theorem commit_told (bridge : WmBridge) (windowId : WindowId) (damage : Region) :
    Told bridge (bridge.commit windowId).1
      [.surfaceCommit windowId (bridge.commit windowId).2 damage] := by
  have after : desktopOf (bridge.commit windowId).1 =
      (desktopOf bridge).change windowId fun shown =>
        { shown with lastCommitSeq := max shown.lastCommitSeq (bridge.commit windowId).2 } :=
    desktop_update bridge windowId
      (fun record => { record with
        lastCommitSeq := max record.lastCommitSeq (bridge.commit windowId).2 })
      _ (fun _ => rfl) (fun _ => rfl)
  have counted : ((desktopOf bridge).windows windowId).map (fun shown : Shown =>
        { shown with lastCommitSeq := (bridge.commit windowId).2 }) =
      ((desktopOf bridge).windows windowId).map fun shown =>
        { shown with lastCommitSeq := max shown.lastCommitSeq (bridge.commit windowId).2 } := by
    cases found : window bridge.manager windowId with
    | none => simp only [desktopOf, found, Option.map_none]
    | some record =>
      have next : (bridge.commit windowId).2 = record.lastCommitSeq + 1 := by
        simp [WmBridge.commit, commitOf, found]
      simp only [desktopOf, found, Option.map_some, shown, next]
      rw [Nat.max_eq_right (Nat.le_succ _)]
  unfold Told
  rw [after]
  exact congrArg ((desktopOf bridge).set windowId) counted

theorem record_commit_told (bridge : WmBridge) (surface : Surface) (ancestors : List Surface)
    (damage : Region) :
    Told bridge (recordCommit bridge surface ancestors damage).1
      (recordCommit bridge surface ancestors damage).2 := by
  unfold recordCommit
  split
  · exact commit_told bridge _ damage
  · rfl

theorem popup_created_told (bridge : WmBridge) (surface : Surface) (parent : Option Surface) :
    Told bridge (onPopupCreated bridge surface parent).1
      (onPopupCreated bridge surface parent).2 := by
  unfold onPopupCreated WmBridge.popupAdded
  cases parent.bind bridge.surfaces.owners with
  | none => rfl
  | some windowId =>
    exact (desktop_update bridge windowId
      (fun record => { record with popupCount := min (record.popupCount + 1) (2 ^ 32 - 1) })
      Shown.popupAppeared (fun _ => rfl) (fun _ => rfl)).symm

theorem popup_destroyed_told (bridge : WmBridge) (surface : Surface) :
    Told bridge (onPopupDestroyed bridge surface).1 (onPopupDestroyed bridge surface).2 := by
  unfold onPopupDestroyed WmBridge.popupRemoved
  cases bridge.surfaces.removePopup surface with
  | none => rfl
  | some removed =>
    exact (desktop_update bridge removed.2.windowId
      (fun record => { record with popupCount := record.popupCount - 1 })
      Shown.popupDisappeared (fun _ => rfl) (fun _ => rfl)).symm

/-! ### Mapping and activating -/

/-- Activity is not shown in the windows. -/
theorem mark_active_shown (id other : WindowId) (records : List WindowRecord) :
    ((markActive id records).find? (fun record => record.id = other)).map shown =
      (records.find? (fun record => record.id = other)).map shown := by
  unfold markActive
  rw [List.find?_map, Option.map_map]
  rfl

theorem activate_told {bridge activated : WmBridge} {windowId : WindowId} {decision : WmDecision}
    (done : bridge.activate windowId = some (activated, decision)) :
    Told bridge activated (applyDecision decision) := by
  unfold WmBridge.activate at done
  obtain ⟨record, found, same⟩ := Option.map_eq_some_iff.mp done
  cases same
  unfold Wm.Policy.activate
  rw [found]
  dsimp only
  split
  · rfl
  · exact Desktop.ext (funext fun other => (mark_active_shown windowId other _).symm) rfl

/-- A new window is shown with its title, and it has the focus. -/
theorem created_told {bridge after : WmBridge} (formed : WellFormed bridge.manager)
    {request : MapRequest} (fresh : windowBySurface bridge.manager request.surfaceKey = none)
    (manager : after.manager = (onMap bridge.manager bridge.config request).1)
    (metadata : ToplevelMetadata) (titled : request.title = metadata.title)
    (previous : Option WindowId) :
    Told bridge after (.windowCreated (onMap bridge.manager bridge.config request).2.1
      metadata.appId metadata.pid metadata.launchId metadata.title ::
        applyDecision ⟨(onMap bridge.manager bridge.config request).2.2, previous⟩) := by
  obtain ⟨decided, _, _, mru⟩ := on_map_fresh bridge.config fresh
  rw [decided]
  refine Desktop.ext (funext fun other => ?_) ?_
  · change Function.update (desktopOf bridge).windows ⟨bridge.manager.nextId⟩ _ other =
      (window after.manager other).map shown
    rw [manager]
    unfold onMap window
    rw [fresh]
    simp only [mark_active_shown]
    rw [List.find?_append]
    by_cases same : (⟨bridge.manager.nextId⟩ : WindowId) = other
    · subst same
      have absent : bridge.manager.records.find?
          (fun record => record.id = ⟨bridge.manager.nextId⟩) = none := by
        rw [List.find?_eq_none]
        intro record member named
        have bound := formed.below record.id (List.mem_map_of_mem member)
        rw [decide_eq_true_iff] at named
        rw [named] at bound
        exact Nat.lt_irrefl _ bound
      rw [Function.update_self, absent]
      simp [shown, titled]
    · rw [Function.update_of_ne (Ne.symm same)]
      simp [same, desktopOf, window]
  · change some _ = activeWindow after.manager
    rw [manager, activeWindow, mru]
    rfl

theorem mapped_told {bridge : WmBridge} (linked : Linked bridge) (surface : Surface)
    (metadata : ToplevelMetadata) (createdSeq : ℕ) :
    Told bridge (onToplevelMapped bridge surface metadata createdSeq).1
      (onToplevelMapped bridge surface metadata createdSeq).2 := by
  unfold onToplevelMapped WmBridge.mapToplevel
  cases mapped : (bridge.surfaces.toplevels surface).bind ToplevelSlot.window with
  | some existing => rfl
  | none =>
    let request : MapRequest := ⟨(bridge.surfaces.registerToplevel surface).2,
      metadata.appId, metadata.pid, metadata.title, createdSeq⟩
    have fresh : windowBySurface bridge.manager request.surfaceKey = none :=
      linked.fresh_key mapped
    exact created_told linked.formed fresh rfl metadata rfl bridge.keyboardFocus

theorem surface_commit_told {bridge : WmBridge} (linked : Linked bridge) (surface : Surface)
    (ancestors : List Surface) (hasBuffer : Bool) (metadata : ToplevelMetadata) (damage : Region)
    (createdSeq : ℕ) :
    Told bridge (onSurfaceCommit bridge surface ancestors hasBuffer metadata damage createdSeq).1
      (onSurfaceCommit bridge surface ancestors hasBuffer metadata damage createdSeq).2 := by
  unfold onSurfaceCommit
  split
  · exact (mapped_told linked surface metadata createdSeq).append
      (record_commit_told _ surface ancestors damage)
  · exact record_commit_told bridge surface ancestors damage

/-! ### Destroying -/

/-- The popups of a window that is destroyed next leave no trace. -/
theorem popups_then_destroyed (desktop : Desktop) (windowId : WindowId) (popupIds : List ℕ) :
    (desktop.fold (drafted (popupIds.map (Emission.popupDisappeared windowId)))).set windowId
      none = desktop.set windowId none := by
  induction popupIds generalizing desktop with
  | nil => rfl
  | cons popupId rest ih =>
    refine (ih (desktop.change windowId Shown.popupDisappeared)).trans ?_
    exact Desktop.ext (Function.update_idem _ _ _) rfl

theorem destroyed_fold (desktop : Desktop) (windowId : WindowId) (popupIds : List ℕ)
    (rest : List Emission) :
    desktop.fold (drafted (popupIds.map (Emission.popupDisappeared windowId) ++
        .windowDestroyed windowId :: rest)) =
      (desktop.set windowId none).fold (drafted rest) := by
  rw [drafted, List.map_append, fold_append]
  exact congrArg (fun before : Desktop => before.fold (drafted rest))
    (popups_then_destroyed desktop windowId popupIds)

/-- Removing a window takes it out of what is shown. -/
theorem destroyed_shown {model : WindowModel} (formed : WellFormed model) (windowId other : WindowId) :
    (window (onDestroy model windowId).1 other).map shown =
      if windowId = other then none else (window model other).map shown := by
  have erased := erase_find windowId other formed.nodup
  unfold onDestroy
  cases known : window model windowId with
  | none =>
    dsimp only
    split
    · next same =>
      rw [← same, known]
      rfl
    · rfl
  | some record =>
    have remaining : ((model.records.eraseP (fun record => record.id = windowId)).find?
        (fun record => record.id = other)).map shown =
          if windowId = other then none else (window model other).map shown := by
      rw [erased]
      split <;> rfl
    dsimp only
    split
    · exact remaining
    · split
      · exact (mark_active_shown _ other _).trans remaining
      · exact remaining

/-- Activations are not shown in the windows. -/
theorem decision_windows (desktop : Desktop) (decision : WmDecision) :
    (desktop.fold (drafted (applyDecision decision))).windows = desktop.windows := by
  obtain ⟨actions, previous⟩ := decision
  unfold applyDecision
  dsimp only
  induction actions generalizing desktop with
  | nil => rfl
  | cons action rest ih =>
    rw [List.flatMap_cons, drafted, List.map_append, fold_append]
    refine (ih _).trans ?_
    cases action <;> rfl

/-- The only window of the model. -/
def isOnly (model : WindowModel) (windowId : WindowId) : Bool := model.ids = [windowId]

/-- The activation order falls back to another window when there is one. -/
theorem fallback_of_others {manager : WindowManager} (consistent : Consistent manager)
    {windowId : WindowId} (active : activeWindow manager.model = some windowId)
    (others : isOnly manager.model windowId = false) :
    manager.model.mru.filter (fun entry => entry ≠ windowId) ≠ [] := by
  intro nothing
  have same : ∀ entry ∈ manager.model.mru, entry = windowId := by
    intro entry member
    by_contra different
    have kept : entry ∈ manager.model.mru.filter (fun entry => entry ≠ windowId) :=
      List.mem_filter.mpr ⟨member, by simpa using different⟩
    rw [nothing] at kept
    cases kept
  have order : manager.model.mru = [windowId] := by
    obtain ⟨rest, front⟩ := List.head?_eq_some_iff.mp active
    have distinct := consistent.mru_nodup
    rw [front] at same distinct ⊢
    cases rest with
    | nil => rfl
    | cons second later =>
      have equal := same second (List.mem_cons_of_mem _ List.mem_cons_self)
      rw [equal, List.nodup_cons] at distinct
      exact absurd List.mem_cons_self distinct.1
  have permuted := consistent.permuted
  rw [order] at permuted
  have only : isOnly manager.model windowId = true :=
    decide_eq_true (List.perm_singleton.mp permuted.symm)
  rw [only] at others
  cases others

/-- Unless the last window goes, the focus afterwards is the one before or the one announced. -/
theorem destroyed_focus {manager : WindowManager} (consistent : Consistent manager)
    {windowId : WindowId} (others : isOnly manager.model windowId = false) (desktop : Desktop)
    (there : desktop.focused = activeWindow manager.model) :
    (desktop.fold (drafted (applyDecision ⟨(onDestroy manager.model windowId).2, none⟩))).focused =
      activeWindow (onDestroy manager.model windowId).1 := by
  unfold onDestroy
  cases window manager.model windowId with
  | none => exact there
  | some record =>
    dsimp only
    split
    · next inactive =>
      -- The front of the order is another window, and it stays there.
      refine there.trans ?_
      unfold activeWindow at inactive ⊢
      cases order : manager.model.mru with
      | nil => rfl
      | cons front rest =>
        rw [order, List.head?_cons] at inactive
        have different : front ≠ windowId := fun same => inactive (congrArg some same)
        rw [List.filter_cons_of_pos (by simpa using different)]
        rfl
    · next active =>
      split
      · next fallback front => exact front.symm
      · next nothing =>
        refine absurd (List.head?_eq_none_iff.mp nothing)
          (fallback_of_others consistent ?_ others)
        exact not_not.mp active

/-- The destruction of the only window, after which nothing has the focus. -/
def destroysOnly (bridge : WmBridge) (surface : Surface) : Bool :=
  ((bridge.surfaces.toplevels surface).bind ToplevelSlot.window).any (isOnly bridge.manager)

theorem destroyed_told {bridge : WmBridge} (consistent : Consistent (managed bridge))
    {surface : Surface} (others : destroysOnly bridge surface = false) :
    Told bridge (onToplevelDestroyed bridge surface).1 (onToplevelDestroyed bridge surface).2 := by
  unfold onToplevelDestroyed WmBridge.destroyToplevel
  unfold destroysOnly at others
  cases slotted : bridge.surfaces.toplevels surface with
  | none => rfl
  | some slot =>
    obtain ⟨key, owned⟩ := slot
    cases owned with
    | none =>
      have unbound : (bridge.surfaces.unbindToplevel surface).2.1 = none := by
        simp [SurfaceRegistry.unbindToplevel, slotted]
      simp only [unbound]
      rfl
    | some windowId =>
      have unbound : (bridge.surfaces.unbindToplevel surface).2.1 = some windowId := by
        simp [SurfaceRegistry.unbindToplevel, slotted]
      rw [slotted] at others
      simp only [unbound]
      unfold Told
      rw [destroyed_fold]
      refine Desktop.ext ?_ (destroyed_focus consistent others _ rfl)
      rw [decision_windows]
      funext other
      refine Eq.trans ?_ (destroyed_shown consistent.formed windowId other).symm
      change Function.update (desktopOf bridge).windows windowId none other = _
      by_cases same : windowId = other
      · subst same
        rw [Function.update_self, if_pos rfl]
      · rw [Function.update_of_ne (Ne.symm same), if_neg same]
        rfl

/-- Destroying the only window leaves none active and decides nothing. -/
theorem destroyed_only {manager : WindowManager} (consistent : Consistent manager)
    {windowId : WindowId} (only : isOnly manager.model windowId = true) :
    activeWindow manager.model = some windowId ∧
      activeWindow (onDestroy manager.model windowId).1 = none ∧
      (onDestroy manager.model windowId).2 = [] := by
  have ids : manager.model.ids = [windowId] := of_decide_eq_true only
  have order : manager.model.mru = [windowId] := by
    have permuted := consistent.permuted
    rw [ids] at permuted
    exact List.perm_singleton.mp permuted
  have known : windowId ∈ manager.model.ids := by
    rw [ids]
    exact List.mem_cons_self
  obtain ⟨commits, found⟩ := Option.isSome_iff_exists.mp (mem_ids_iff.mp known)
  obtain ⟨record, found, _⟩ := Option.map_eq_some_iff.mp found
  have front : activeWindow manager.model = some windowId := by
    rw [activeWindow, order]
    rfl
  refine ⟨front, ?_⟩
  unfold onDestroy
  rw [found]
  simp [activeWindow, order]

/-- Nothing announces that the focus is gone with the only window. -/
theorem destroyed_untold {bridge : WmBridge} (consistent : Consistent (managed bridge))
    {surface : Surface} (only : destroysOnly bridge surface = true) :
    ¬ Told bridge (onToplevelDestroyed bridge surface).1
      (onToplevelDestroyed bridge surface).2 := by
  obtain ⟨windowId, owned, alone⟩ := (Option.any_eq_true ..).mp only
  obtain ⟨slot, slotted, window⟩ := Option.bind_eq_some_iff.mp owned
  obtain ⟨front, nothing, decided⟩ := destroyed_only consistent alone
  have unbound : (bridge.surfaces.unbindToplevel surface).2.1 = some windowId := by
    simp [SurfaceRegistry.unbindToplevel, slotted, window]
  unfold onToplevelDestroyed WmBridge.destroyToplevel
  rw [slotted]
  simp only [unbound]
  intro told
  unfold Told at told
  rw [destroyed_fold] at told
  have focus := congrArg Desktop.focused told
  rw [show (onDestroy bridge.manager windowId).2 = [] from decided] at focus
  change activeWindow bridge.manager = activeWindow (onDestroy bridge.manager windowId).1 at focus
  rw [show activeWindow bridge.manager = some windowId from front,
    show activeWindow (onDestroy bridge.manager windowId).1 = none from nothing] at focus
  cases focus

/-! ## Runs -/

/-- The operation does not destroy the only window. -/
def KeepsAWindow (state : State) : Label → Prop
  | .client (.toplevelDestroyed surface) => destroysOnly state.compositor.wm surface = false
  | _ => True

instance (state : State) (label : Label) : Decidable (KeepsAWindow state label) :=
  match label with
  | .client (.toplevelDestroyed surface) =>
    inferInstanceAs (Decidable (destroysOnly state.compositor.wm surface = false))
  | .client (.newToplevel _) | .client (.commit ..) | .client (.titleChanged ..)
  | .client (.newPopup ..) | .client (.popupDestroyed _) | .command .. | .resize .. | .emit _ =>
    inferInstanceAs (Decidable True)

theorem client_told {state : CompositorState} (linked : Linked state.wm)
    (consistent : Consistent (managed state.wm)) (request : ClientRequest)
    (others : ∀ surface, request = .toplevelDestroyed surface →
      destroysOnly state.wm surface = false) :
    Told state.wm (handleClient state request).1 (handleClient state request).2 := by
  cases request with
  | newToplevel surface => rfl
  | commit surface ancestors hasBuffer metadata damage =>
    exact surface_commit_told linked surface ancestors hasBuffer metadata damage _
  | toplevelDestroyed surface => exact destroyed_told consistent (others surface rfl)
  | titleChanged surface title => exact title_told state.wm surface title
  | newPopup surface parent => exact popup_created_told state.wm surface parent
  | popupDestroyed surface => exact popup_destroyed_told state.wm surface

theorem command_told (state : CompositorState) (command : Command) (tsMs : ℕ) :
    Told state.wm (handleCommand state tsMs command).1.wm
      (handleCommand state tsMs command).2.1 := by
  cases command with
  | activateWindow windowId =>
    cases done : state.wm.activate windowId with
    | none =>
      simp only [handleCommand, done]
      rfl
    | some result =>
      simp only [handleCommand, done]
      exact activate_told done
  | closeWindow windowId =>
    simp only [handleCommand]
    split <;> rfl
  | queryState | reserveSeq | injectInput => rfl

/-- Configuring windows is not announced. -/
theorem resize_silent (bridge : WmBridge) (width height : ℕ) :
    (setOutputSize bridge width height).2 = [] := by
  refine List.flatMap_eq_nil_iff.mpr fun action configured => ?_
  obtain ⟨record, _, rfl⟩ := List.mem_map.mp configured
  rfl

theorem resize_told (bridge : WmBridge) (width height : ℕ) :
    Told bridge (setOutputSize bridge width height).1 (setOutputSize bridge width height).2 := by
  rw [resize_silent]
  refine Desktop.ext (funext fun other => ?_) rfl
  change _ = ((bridge.manager.records.map _).find? _).map shown
  rw [List.find?_map, Option.map_map]
  rfl

theorem linked_resized {bridge : WmBridge} (linked : Linked bridge) (width height : ℕ) :
    Linked (setOutputSize bridge width height).1 := by
  have keys : (setOutputSize bridge width height).1.manager.keys = bridge.manager.keys :=
    List.map_map
  have ids : (setOutputSize bridge width height).1.manager.ids = bridge.manager.ids :=
    List.map_map
  exact linked.of_keys (linked.formed.of_ids ids rfl rfl) keys rfl

theorem consistent_command {state : CompositorState} (consistent : Consistent (managed state.wm))
    (command : Command) (tsMs : ℕ) :
    Consistent (managed (handleCommand state tsMs command).1.wm) := by
  cases command with
  | activateWindow windowId =>
    cases done : state.wm.activate windowId with
    | none =>
      simp only [handleCommand, done]
      exact consistent
    | some result =>
      simp only [handleCommand, done]
      obtain ⟨_, _, same⟩ := Option.map_eq_some_iff.mp done
      cases same
      exact consistent.step (.activate windowId)
  | closeWindow windowId =>
    simp only [handleCommand]
    split <;> exact consistent
  | queryState | reserveSeq | injectInput => exact consistent

/-- The tables are linked, and what is emitted and owed tells of the desktop. -/
structure Telling (state : State) : Prop where
  linked : Linked state.compositor.wm
  consistent : Consistent (managed state.compositor.wm)
  told : (Desktop.empty.fold state.log).fold (drafted state.outbox) =
    desktopOf state.compositor.wm

/-- An operation that tells what it does. -/
theorem Telling.operation {state : State} (telling : Telling state) (drained : state.outbox = [])
    {after : CompositorState} {emissions : List Emission} (linked : Linked after.wm)
    (consistent : Consistent (managed after.wm)) (told : Told state.compositor.wm after.wm emissions) :
    Telling { state with compositor := after, outbox := emissions } := by
  refine ⟨linked, consistent, ?_⟩
  have before := telling.told
  rw [drained] at before
  change Desktop.empty.fold state.log = desktopOf state.compositor.wm at before
  change (Desktop.empty.fold state.log).fold (drafted emissions) = desktopOf after.wm
  rw [before]
  exact told

theorem telling_step {s t : State} {label : Label} (telling : Telling s)
    (keeps : KeepsAWindow s label) (taken : step s label = some t) : Telling t := by
  cases label with
  | client request =>
    obtain ⟨drained, same⟩ := Option.ite_none_right_eq_some.mp taken
    cases same
    exact telling.operation drained (handle_client_sourced telling.linked request).linked
      (tiled_client ⟨rfl, telling.consistent⟩ request).consistent
      (client_told telling.linked telling.consistent request fun surface same => by
        subst same
        exact keeps)
  | command command tsMs =>
    obtain ⟨drained, same⟩ := Option.ite_none_right_eq_some.mp taken
    cases same
    exact telling.operation drained (handle_command_sourced telling.linked tsMs command).linked
      (consistent_command telling.consistent command tsMs) (command_told s.compositor command tsMs)
  | resize width height =>
    obtain ⟨drained, same⟩ := Option.ite_none_right_eq_some.mp taken
    cases same
    exact telling.operation drained (linked_resized telling.linked width height)
      (telling.consistent.step (.setOutputSize width height))
      (resize_told s.compositor.wm width height)
  | emit tsMs =>
    simp only [step] at taken
    split at taken
    · next emission rest owed =>
      cases taken
      refine ⟨telling.linked, telling.consistent, ?_⟩
      have before := telling.told
      rw [owed] at before
      rw [fold_append]
      change ((Desktop.empty.fold s.log).apply (emission.event _ tsMs)).fold (drafted rest) = _
      rw [apply_draft]
      exact before
    · cases taken

theorem telling_initial (config : PolicyConfig) : Telling (machine config).init where
  linked := initial_linked config
  consistent := Consistent.initial config
  told := rfl

/-- The mirror is what `QueryState` reports: windows, titles, commit numbers, popup counts and the
active window, which has the keyboard focus. -/
def Mirrors (state : State) : Prop :=
  ∀ tsMs, Desktop.empty.fold state.log = reported (snapshot state.compositor tsMs) ∧
    (Desktop.empty.fold state.log).focused = state.compositor.wm.keyboardFocus

/-- While no operation destroys the only window, the emitted events rebuild the desktop that
`QueryState` reports between operations. -/
theorem events_rebuild_desktop (config : PolicyConfig) {s : State}
    (reached : Reachable (machine config) KeepsAWindow s) (drained : s.outbox = []) : Mirrors s := by
  have invariant : Inductive (machine config) KeepsAWindow Telling :=
    ⟨telling_initial config, fun telling keeps taken => telling_step telling keeps taken⟩
  have told := (invariant.holds reached).told
  rw [drained] at told
  intro tsMs
  exact ⟨told, congrArg Desktop.focused told⟩

def mirrorMachine : Machine State Label := machine ⟨1280, 800⟩

/-- A client maps a window, whose events are emitted. -/
def mapped (surface : Surface) (title : String) : List Label :=
  [.client (.newToplevel surface), .client (.commit surface [] true { title := some title } .empty),
    .emit 1, .emit 1, .emit 2, .emit 2]

/-- Two windows are mapped; the first one gets a popup and a title, the second one is destroyed
after a new output size, and the first one is active again. -/
def backToFirst : State :=
  finalState mirrorMachine KeepsAWindow
    (mapped 1 "a" ++ [.client (.newPopup 3 (some 1)), .emit 3] ++ mapped 2 "b" ++
      [.client (.titleChanged 1 (some "c")), .emit 4, .resize 800 600,
        .client (.toplevelDestroyed 2), .emit 5, .emit 5, .emit 5])
    (by decide +kernel)

theorem events_rebuild_desktop_fallback :
    Mirrors backToFirst ∧ backToFirst.compositor.wm.keyboardFocus = some ⟨1⟩ ∧
      (Desktop.empty.fold backToFirst.log).windows ⟨1⟩ = some ⟨some "c", 1, 1⟩ := by
  have reached : Reachable (machine ⟨1280, 800⟩) KeepsAWindow backToFirst :=
    final_state_reachable mirrorMachine _ _ _
  exact ⟨events_rebuild_desktop ⟨1280, 800⟩ reached (by decide +kernel), by decide +kernel,
    by decide +kernel⟩

/-- The only window is destroyed. -/
def lastDestroyed : State :=
  finalState mirrorMachine anyStep
    (mapped 1 "a" ++ [.client (.toplevelDestroyed 1), .emit 3]) (by decide +kernel)

/-- The mirror still has the focus on the window that is gone. -/
theorem last_window_keeps_focus :
    Reachable mirrorMachine anyStep lastDestroyed ∧ lastDestroyed.outbox = [] ∧
      (Desktop.empty.fold lastDestroyed.log).focused = some ⟨1⟩ ∧
      lastDestroyed.compositor.wm.keyboardFocus = none ∧ ¬ Mirrors lastDestroyed := by
  have stale : (Desktop.empty.fold lastDestroyed.log).focused = some ⟨1⟩ := by decide +kernel
  have gone : lastDestroyed.compositor.wm.keyboardFocus = none := by decide +kernel
  refine ⟨final_state_reachable _ _ _ _, by decide +kernel, stale, gone, fun mirrors => ?_⟩
  have same := (mirrors 0).2
  rw [stale, gone] at same
  cases same

end ADesk.Compositor.Mirror
