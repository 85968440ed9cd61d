/- ADesk/ViewerGui/Widgets
   digest: The models behind a viewer's window: the application launcher, the task bar with its
   optimistic closes, and the recording toggle. -/

import ADesk.Compositor.Keys
import ADesk.Core.Ids
import ADesk.Viewer.Recording

set_option autoImplicit false

namespace ADesk.ViewerGui.Widgets

open ADesk.Compositor.Keys (trim)
open ADesk.Core.Ids (WindowId)
open ADesk.Viewer.Recording (RecordingStatus)

/-! ## The application launcher -/

/-- What the launcher uses of an entry of the runtime's registry. -/
structure AppEntry where
  id : String
  name : String
  deriving DecidableEq

/-- The display name, else the desktop-file id. -/
def displayName (entry : AppEntry) : String :=
  let name := String.ofList (trim entry.name.toList)
  if name = "" then entry.id else name

inductive LaunchState
  | idle
  | launching (name appId : String)
  | launched (name appId : String) (windowId : Option WindowId)
  | failed (name appId message : String)
  deriving DecidableEq

structure AppLauncher where
  entries : List AppEntry
  listed : Bool
  fetching : Bool
  listError : Option String
  launch : LaunchState
  deriving DecidableEq

namespace AppLauncher

def new : AppLauncher := ⟨[], false, false, none, .idle⟩

def shouldFetch (launcher : AppLauncher) : Bool := !launcher.fetching

def beginFetch (launcher : AppLauncher) : AppLauncher :=
  { launcher with fetching := true, listError := none }

def applyList (launcher : AppLauncher) : Except String (List AppEntry) → AppLauncher
  | .ok entries => { launcher with fetching := false, entries, listed := true, listError := none }
  | .error message => { launcher with fetching := false, listError := some message }

def isLaunching (launcher : AppLauncher) : Bool :=
  match launcher.launch with
  | .launching _ _ => true
  | .idle | .launched _ _ _ | .failed _ _ _ => false

/-- The name of the application in the fetched list, else its id. -/
def nameFor (launcher : AppLauncher) (appId : String) : String :=
  ((launcher.entries.find? (·.id = appId)).map displayName).getD appId

/-- Starts a launch; `none` while another one is in flight. -/
def beginLaunch (launcher : AppLauncher) (appId : String) : Option AppLauncher :=
  if launcher.isLaunching then none
  else some { launcher with launch := .launching (launcher.nameFor appId) appId }

/-- A reply is ignored when nothing is pending. -/
def applyLaunch (launcher : AppLauncher) (result : Except String (Option WindowId)) : AppLauncher :=
  match launcher.launch with
  | .launching name appId =>
    { launcher with
      launch :=
        match result with
        | .ok windowId => .launched name appId windowId
        | .error message => .failed name appId message }
  | .idle | .launched _ _ _ | .failed _ _ _ => launcher

/-- The application whose launch is in flight. -/
def pending (launcher : AppLauncher) : Option String :=
  match launcher.launch with
  | .launching _ appId => some appId
  | .idle | .launched _ _ _ | .failed _ _ _ => none

end AppLauncher

/-! ## The task bar -/

/-- What the task bar uses of a window. -/
structure WindowInfo where
  id : WindowId
  appId : Option String
  title : Option String
  deriving DecidableEq

structure DesktopState where
  activeWindowId : Option WindowId
  windows : List WindowInfo
  deriving DecidableEq

structure TaskBarEntry where
  windowId : WindowId
  label : String
  active : Bool
  deriving DecidableEq

/-- The title, else the app id, else a fallback. -/
def labelFor (window : WindowInfo) : String :=
  ((window.title.filter (· ≠ "")).or (window.appId.filter (· ≠ ""))).getD
    s!"window {window.id.val}"

def entries (state : DesktopState) : List TaskBarEntry :=
  state.windows.map fun window =>
    ⟨window.id, labelFor window, state.activeWindowId = some window.id⟩

/-- The active flags after a frame. -/
def setActive (entries : List TaskBarEntry) (active : Option WindowId) : List TaskBarEntry :=
  entries.map fun entry => { entry with active := active = some entry.windowId }

/-- A switch button of the row. -/
structure ToggleButton where
  windowId : WindowId
  label : String
  active : Bool
  deriving DecidableEq

/-- The task bar: its entries, the buttons on the screen and the windows hidden by a close. -/
structure TaskBar where
  model : List TaskBarEntry
  buttons : List ToggleButton
  hidden : List WindowId
  deriving DecidableEq

namespace TaskBar

def new : TaskBar := ⟨[], [], []⟩

def isHidden (bar : TaskBar) (id : WindowId) : Bool := id ∈ bar.hidden

/-- The entries not hidden by a close in flight. -/
def visible (bar : TaskBar) : List TaskBarEntry :=
  bar.model.filter fun entry => !bar.isHidden entry.windowId

/-- Replaces the buttons with one for each visible entry. -/
def rebuild (bar : TaskBar) : TaskBar :=
  { bar with buttons := bar.visible.map fun entry => ⟨entry.windowId, entry.label, entry.active⟩ }

/-- The buttons take the flags of the entries at their positions. -/
def applyHighlight (buttons : List ToggleButton) (entries : List TaskBarEntry) :
    List ToggleButton :=
  (buttons.zip entries).map (fun pair => { pair.1 with active := pair.2.active }) ++
    buttons.drop entries.length

/-- The windows that the state still reports are revealed again. -/
def reconcile (hidden : List WindowId) (state : DesktopState) : List WindowId :=
  hidden.filter fun id => !(state.windows.map (·.id)).contains id

/-- A state arrives: the buttons are only rebuilt when something changed. -/
def updateState (bar : TaskBar) (state : DesktopState) : TaskBar :=
  let hidden := reconcile bar.hidden state
  let reconciled := bar.hidden.length ≠ hidden.length
  let changed := entries state ≠ bar.model
  let bar := { bar with hidden, model := entries state }
  if changed ∨ reconciled then bar.rebuild else bar

/-- A frame arrives: the highlight moves without a rebuild. -/
def setActive (bar : TaskBar) (active : Option WindowId) : TaskBar :=
  let bar := { bar with model := Widgets.setActive bar.model active }
  { bar with buttons := applyHighlight bar.buttons bar.visible }

/-- The toolkit flips the button that is clicked, then the highlight is set. -/
def clickSwitch (bar : TaskBar) (index : ℕ) : Option (TaskBar × WindowId) :=
  (bar.buttons[index]?).map fun button =>
    (setActive
      { bar with buttons := bar.buttons.set index { button with active := !button.active } }
      (some button.windowId), button.windowId)

/-- The row is hidden at once; a second click on a hidden row sends nothing. -/
def clickClose (bar : TaskBar) (index : ℕ) : Option (TaskBar × Option WindowId) :=
  (bar.buttons[index]?).map fun button =>
    if bar.isHidden button.windowId then (bar, none)
    else (rebuild { bar with hidden := button.windowId :: bar.hidden }, some button.windowId)

/-- A close failed: its row comes back. -/
def restore (bar : TaskBar) (id : WindowId) : TaskBar :=
  if bar.isHidden id then rebuild { bar with hidden := bar.hidden.filter (· ≠ id) } else bar

end TaskBar

/-! ### The buttons on the screen -/

def TaskBarEntry.button (entry : TaskBarEntry) : ToggleButton :=
  ⟨entry.windowId, entry.label, entry.active⟩

/-- The buttons are those of the visible entries, in their order. -/
def Shown (bar : TaskBar) : Prop := bar.buttons = bar.visible.map TaskBarEntry.button

/-- The same up to the highlight. -/
def Lined (bar : TaskBar) : Prop :=
  bar.buttons.map (fun button => (button.windowId, button.label)) =
    bar.visible.map fun entry => (entry.windowId, entry.label)

theorem Shown.lined {bar : TaskBar} (shown : Shown bar) : Lined bar := by
  unfold Lined
  rw [shown, List.map_map]
  rfl

theorem shown_rebuild (bar : TaskBar) : Shown bar.rebuild := rfl

/-- The highlight reaches every button when the buttons line up with the entries. -/
theorem highlight_all {buttons : List ToggleButton} {entries : List TaskBarEntry}
    (lined : buttons.map (fun button => (button.windowId, button.label)) =
      entries.map fun entry => (entry.windowId, entry.label)) :
    TaskBar.applyHighlight buttons entries = entries.map TaskBarEntry.button := by
  induction entries generalizing buttons with
  | nil =>
    have none : buttons = [] := by simpa using lined
    subst none
    rfl
  | cons entry rest ih =>
    cases buttons with
    | nil => cases lined
    | cons button others =>
      simp only [List.map_cons, List.cons.injEq, Prod.mk.injEq] at lined
      have tail := ih lined.2
      unfold TaskBar.applyHighlight at tail ⊢
      rw [List.zip_cons_cons, List.map_cons, List.length_cons, List.drop_succ_cons,
        List.cons_append, tail, List.map_cons, TaskBarEntry.button, ← lined.1.1, ← lined.1.2]

theorem visible_set_active (bar : TaskBar) (active : Option WindowId) :
    (TaskBar.visible { bar with model := setActive bar.model active }).map
        (fun entry => (entry.windowId, entry.label)) =
      bar.visible.map fun entry => (entry.windowId, entry.label) := by
  unfold TaskBar.visible setActive
  rw [List.filter_map, List.map_map]
  rfl

theorem shown_set_active {bar : TaskBar} (lined : Lined bar) (active : Option WindowId) :
    Shown (bar.setActive active) := by
  have rows := lined.trans (visible_set_active bar active).symm
  exact highlight_all rows

theorem shown_update_state {bar : TaskBar} (shown : Shown bar) (state : DesktopState) :
    Shown (bar.updateState state) := by
  unfold TaskBar.updateState
  dsimp only
  split
  · exact shown_rebuild _
  · next same =>
    rw [not_or, ne_eq, not_not, ne_eq, not_not] at same
    have kept : TaskBar.reconcile bar.hidden state = bar.hidden :=
      List.filter_eq_self.mpr (List.length_filter_eq_length_iff.mp same.2.symm)
    rw [kept, same.1]
    exact shown

theorem shown_restore {bar : TaskBar} (shown : Shown bar) (id : WindowId) :
    Shown (bar.restore id) := by
  unfold TaskBar.restore
  split
  · exact shown_rebuild _
  · exact shown

theorem shown_click_switch {bar after : TaskBar} {index : ℕ} {id : WindowId} (shown : Shown bar)
    (clicked : bar.clickSwitch index = some (after, id)) : Shown after := by
  obtain ⟨button, present, taken⟩ := Option.map_eq_some_iff.mp clicked
  cases taken
  refine shown_set_active ?_ _
  unfold Lined
  rw [List.map_set]
  refine Eq.trans ?_ shown.lined
  refine List.ext_getElem? fun other => ?_
  rw [List.getElem?_set]
  split
  · next here =>
    subst here
    rw [List.length_map, List.getElem?_map, present]
    simp [(List.getElem?_eq_some_iff.mp present).1]
  · rfl

theorem shown_click_close {bar after : TaskBar} {index : ℕ} {id : Option WindowId}
    (shown : Shown bar) (clicked : bar.clickClose index = some (after, id)) : Shown after := by
  obtain ⟨button, present, taken⟩ := Option.map_eq_some_iff.mp clicked
  split at taken
  · cases taken
    exact shown
  · cases taken
    exact shown_rebuild _

theorem model_restore (bar : TaskBar) (id : WindowId) : (bar.restore id).model = bar.model := by
  unfold TaskBar.restore
  split <;> rfl

theorem model_update_state (bar : TaskBar) (state : DesktopState) :
    (bar.updateState state).model = entries state := by
  unfold TaskBar.updateState
  dsimp only
  split <;> rfl

/-- A state reveals every window that it reports. -/
theorem visible_update_state (bar : TaskBar) (state : DesktopState) :
    (bar.updateState state).visible = entries state := by
  have hidden : (bar.updateState state).hidden = TaskBar.reconcile bar.hidden state := by
    unfold TaskBar.updateState
    dsimp only
    split <;> rfl
  unfold TaskBar.visible TaskBar.isHidden
  rw [model_update_state, hidden]
  refine List.filter_eq_self.mpr fun entry member => ?_
  obtain ⟨window, present, rfl⟩ := List.mem_map.mp member
  have reported : (state.windows.map (·.id)).contains window.id = true := by
    rw [List.contains_iff_mem]
    exact List.mem_map_of_mem present
  have revealed : window.id ∉ TaskBar.reconcile bar.hidden state := by
    intro kept
    have absent := (List.mem_filter.mp kept).2
    rw [reported] at absent
    cases absent
  simp [revealed]

/-! ## The recording toggle -/

inductive RecordState
  | idle | recording | finished
  deriving DecidableEq

structure RecordControl where
  state : RecordState
  status : RecordingStatus
  deriving DecidableEq

def RecordControl.new : RecordControl := ⟨.idle, RecordingStatus.idle⟩

def RecordControl.apply (status : RecordingStatus) : RecordControl :=
  ⟨if status.recording then .recording
    else if status.error.isSome then .idle
    else if status.path.isSome then .finished
    else .idle, status⟩

def RecordControl.isRecording (control : RecordControl) : Bool :=
  control.state = .recording

end ADesk.ViewerGui.Widgets
