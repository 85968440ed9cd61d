/- ADesk/Viewer/Repaint
   digest: Which operations change the composed output, and which of them the change pump of the
   viewers takes notice of. -/

import ADesk.Compositor.Sourcing
import ADesk.Viewer.Session

set_option autoImplicit false

namespace ADesk.Viewer.Repaint

open ADesk.Core.Geometry (Region)
open ADesk.Core.Ids (WindowId)
open ADesk.Compositor.Bridge
open ADesk.Compositor.Events
open ADesk.Compositor.State
open ADesk.Viewer.Session (isDesktopChange)
open ADesk.Wm.Policy

/-! ## Operations of the compositor -/

/-- What a client does, or an activation by command. -/
inductive Operation
  | client (request : ClientRequest)
  | activate (windowId : WindowId)

/-- The events that an operation emits, in order. -/
def emitted (state : CompositorState) : Operation → List Emission
  | .client request => (handleClient state request).2
  | .activate windowId => (handleCommand state 0 (.activateWindow windowId)).2.1

def after (state : CompositorState) : Operation → WmBridge
  | .client request => (handleClient state request).1
  | .activate windowId => (handleCommand state 0 (.activateWindow windowId)).1.wm

/-- The change pump counts the event as a change of the desktop, whatever its number and time. -/
def Counted (emission : Emission) : Prop :=
  ∀ seq tsMs, isDesktopChange (emission.event seq tsMs) = true

/-- The first buffer of an unmapped toplevel. -/
def mapsToplevel (wm : WmBridge) (surface : Surface) (hasBuffer : Bool) : Bool :=
  wm.surfaces.isUnmappedToplevel surface && hasBuffer

/-- The operation changes what is composed: it maps or destroys a window, commits in the tree of
one at any depth, removes a popup of the active window or activates another window. -/
def ChangesOutput (wm : WmBridge) : Operation → Prop
  | .client (.commit surface ancestors hasBuffer _ _) =>
    mapsToplevel wm surface hasBuffer = true ∨
      ∃ member ∈ surface :: ancestors, (wm.surfaces.owners member).isSome
  | .client (.toplevelDestroyed surface) =>
    ((wm.surfaces.toplevels surface).bind ToplevelSlot.window).isSome
  | .client (.popupDestroyed surface) =>
    ∃ popup, wm.surfaces.popups.find? (fun popup => popup.surface = surface) = some popup ∧
      activeWindow wm.manager = some popup.windowId
  | .activate windowId =>
    (window wm.manager windowId).isSome ∧ activeWindow wm.manager ≠ some windowId
  | .client (.newToplevel _) | .client (.titleChanged ..) | .client (.newPopup ..) => False

/-- The operation removes no popup of the active window, and no commit that is not a mapping comes
from deeper in the tree of a window than the search for the window goes. -/
def Noticed (wm : WmBridge) : Operation → Prop
  | .client (.commit surface ancestors hasBuffer _ _) =>
    mapsToplevel wm surface hasBuffer = true ∨
      (∀ member ∈ surface :: ancestors, wm.surfaces.owners member = none) ∨
      ∃ member ∈ surface :: ancestors.take maxSurfaceTreeDepth,
        (wm.surfaces.owners member).isSome
  | .client (.popupDestroyed surface) =>
    ∀ popup, wm.surfaces.popups.find? (fun popup => popup.surface = surface) = some popup →
      activeWindow wm.manager ≠ some popup.windowId
  | _ => True

/-! ## The events of each operation -/

theorem counted_created (windowId : WindowId) (metadata : ToplevelMetadata) :
    Counted (.windowCreated windowId metadata.appId metadata.pid metadata.launchId
      metadata.title) := fun _ _ => rfl

theorem mapped_counted {wm : WmBridge} {surface : Surface} {hasBuffer : Bool}
    (maps : mapsToplevel wm surface hasBuffer = true) (metadata : ToplevelMetadata)
    (createdSeq : ℕ) :
    ∃ emission ∈ (onToplevelMapped wm surface metadata createdSeq).2, Counted emission := by
  have unmapped : (wm.surfaces.toplevels surface).bind ToplevelSlot.window = none := by
    simp only [mapsToplevel, SurfaceRegistry.isUnmappedToplevel, Bool.and_eq_true] at maps
    cases slot : wm.surfaces.toplevels surface with
    | none => rfl
    | some slot' =>
      rw [slot] at maps
      exact Option.isNone_iff_eq_none.mp maps.1
  unfold onToplevelMapped WmBridge.mapToplevel
  rw [unmapped]
  exact ⟨_, List.mem_cons_self, counted_created _ metadata⟩

/-- The search for the window of a surface looks at its nearest ancestors only. -/
theorem window_for_surface_iff {wm : WmBridge} {surface : Surface} {ancestors : List Surface} :
    (wm.windowForSurface surface ancestors).isSome = true ↔
      ∃ member ∈ surface :: ancestors.take maxSurfaceTreeDepth,
        (wm.surfaces.owners member).isSome := by
  unfold WmBridge.windowForSurface
  rw [List.findSome?_isSome_iff]

/-- A commit that maps nothing is counted just where the search finds a window. -/
theorem commit_counted_iff {wm : WmBridge} {surface : Surface} {hasBuffer : Bool}
    (unmapped : mapsToplevel wm surface hasBuffer = false) (ancestors : List Surface)
    (metadata : ToplevelMetadata) (damage : Region) (createdSeq : ℕ) :
    (∃ emission ∈ (onSurfaceCommit wm surface ancestors hasBuffer metadata damage createdSeq).2,
        Counted emission) ↔ (wm.windowForSurface surface ancestors).isSome = true := by
  have plain : (wm.surfaces.isUnmappedToplevel surface && hasBuffer) = false := unmapped
  unfold onSurfaceCommit recordCommit
  rw [plain]
  simp only [Bool.false_eq_true, if_false, List.nil_append]
  cases found : wm.windowForSurface surface ancestors with
  | none => simp
  | some windowId =>
    simp only [List.mem_singleton, exists_eq_left, Option.isSome_some, iff_true]
    exact fun _ _ => rfl

theorem destroyed_counted {wm : WmBridge} {surface : Surface}
    (mapped : ((wm.surfaces.toplevels surface).bind ToplevelSlot.window).isSome) :
    ∃ emission ∈ (onToplevelDestroyed wm surface).2, Counted emission := by
  obtain ⟨windowId, found⟩ := Option.isSome_iff_exists.mp mapped
  obtain ⟨slot, slotted, owned⟩ := Option.bind_eq_some_iff.mp found
  have unbound : (wm.surfaces.unbindToplevel surface).2.1 = some windowId := by
    unfold SurfaceRegistry.unbindToplevel
    rw [found]
  refine ⟨.windowDestroyed windowId, ?_, fun _ _ => rfl⟩
  unfold onToplevelDestroyed WmBridge.destroyToplevel
  rw [slotted]
  simp only [unbound]
  exact List.mem_append_right _ List.mem_cons_self

/-- The removal of a popup is never counted. -/
theorem popup_destroyed_silent (wm : WmBridge) (surface : Surface) :
    ¬ ∃ emission ∈ (onPopupDestroyed wm surface).2, Counted emission := by
  rintro ⟨emission, member, counted⟩
  unfold onPopupDestroyed at member
  split at member
  · rw [List.mem_singleton.mp member] at counted
    exact Bool.false_ne_true (counted 0 0)
  · exact List.not_mem_nil member

theorem activated_counted {state : CompositorState} {windowId : WindowId}
    (known : (window state.wm.manager windowId).isSome)
    (other : activeWindow state.wm.manager ≠ some windowId) :
    ∃ emission ∈ emitted state (.activate windowId), Counted emission := by
  obtain ⟨record, found⟩ := Option.isSome_iff_exists.mp known
  refine ⟨.windowActivated windowId state.wm.keyboardFocus, ?_, fun _ _ => rfl⟩
  simp only [emitted, handleCommand, WmBridge.activate, found, Option.map_some,
    Wm.Policy.activate]
  rw [if_neg other]
  exact List.mem_cons_self

/-- An operation that changes what is composed emits an event that the change pump counts, for
just the operations that it notices. -/
theorem change_counted_iff (state : CompositorState) (operation : Operation) :
    (ChangesOutput state.wm operation →
        ∃ emission ∈ emitted state operation, Counted emission) ↔
      Noticed state.wm operation := by
  cases operation with
  | activate windowId =>
    refine ⟨fun _ => trivial, fun _ changes => ?_⟩
    exact activated_counted changes.1 changes.2
  | client request =>
    cases request with
    | newToplevel surface => exact ⟨fun _ => trivial, fun _ changes => changes.elim⟩
    | titleChanged surface title => exact ⟨fun _ => trivial, fun _ changes => changes.elim⟩
    | newPopup surface parent => exact ⟨fun _ => trivial, fun _ changes => changes.elim⟩
    | toplevelDestroyed surface =>
      exact ⟨fun _ => trivial, fun _ changes => destroyed_counted changes⟩
    | popupDestroyed surface =>
      constructor
      · intro counted popup found active
        exact popup_destroyed_silent state.wm surface (counted ⟨popup, found, active⟩)
      · rintro noticed ⟨popup, found, active⟩
        exact absurd active (noticed popup found)
    | commit surface ancestors hasBuffer metadata damage =>
      cases maps : mapsToplevel state.wm surface hasBuffer with
      | true =>
        refine ⟨fun _ => Or.inl maps, fun _ _ => ?_⟩
        obtain ⟨emission, member, counted⟩ :=
          mapped_counted maps metadata state.events.watermark
        refine ⟨emission, ?_, counted⟩
        have maps' : (state.wm.surfaces.isUnmappedToplevel surface && hasBuffer) = true := maps
        simp only [emitted, handleClient, onSurfaceCommit, maps', if_true]
        exact List.mem_append_left _ member
      | false =>
        have counted : (∃ emission ∈ emitted state
              (.client (.commit surface ancestors hasBuffer metadata damage)), Counted emission) ↔
            ∃ member ∈ surface :: ancestors.take maxSurfaceTreeDepth,
              (state.wm.surfaces.owners member).isSome :=
          (commit_counted_iff maps ancestors metadata damage state.events.watermark).trans
            window_for_surface_iff
        simp only [ChangesOutput, Noticed, maps, Bool.false_eq_true, false_or, counted]
        constructor
        · intro announced
          by_cases owned : ∃ member ∈ surface :: ancestors,
              (state.wm.surfaces.owners member).isSome
          · exact Or.inr (announced owned)
          · refine Or.inl fun member there => ?_
            exact Option.not_isSome_iff_eq_none.mp fun found => owned ⟨member, there, found⟩
        · rintro (unowned | near) changes
          · obtain ⟨member, there, found⟩ := changes
            rw [unowned member there] at found
            cases found
          · exact near

/-- The state after what clients did, in order. -/
def afterClients (requests : List ClientRequest) : CompositorState :=
  requests.foldl
    (fun state request =>
      let handled := handleClient state request
      ⟨⟨state.events.lastSeq + handled.2.length⟩, handled.1⟩)
    (CompositorState.new ⟨1280, 800⟩)

/-- A window is mapped, and a popup of it has been painted. -/
def withPopup : CompositorState :=
  afterClients
    [.newToplevel 1, .commit 1 [] true {} .empty, .newPopup 2 (some 1), .commit 2 [] true {} .empty]

theorem popup_removal_unnoticed :
    ChangesOutput withPopup.wm (.client (.popupDestroyed 2)) ∧
      emitted withPopup (.client (.popupDestroyed 2)) = [.popupDisappeared ⟨1⟩ 1] ∧
      ¬ ∃ emission ∈ emitted withPopup (.client (.popupDestroyed 2)), Counted emission :=
  ⟨⟨⟨2, ⟨1⟩, 1⟩, by decide +kernel, by decide +kernel⟩, by decide +kernel,
    popup_destroyed_silent withPopup.wm 2⟩

end ADesk.Viewer.Repaint
