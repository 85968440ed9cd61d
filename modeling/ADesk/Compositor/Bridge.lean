/- ADesk/Compositor/Bridge
   digest: Surface bookkeeping of the window bridge and its operations on the window model. -/

import ADesk.Wm.Policy
import Mathlib.Logic.Function.Basic

set_option autoImplicit false

namespace ADesk.Compositor.Bridge

open ADesk.Core.Ids (WindowId LaunchId AppId)
open ADesk.Wm.Policy

/-- The identity of a `wl_surface`. -/
abbrev Surface := ℕ

def maxSurfaceTreeDepth : ℕ := 32

/-! ## The surface registry -/

/-- A registered toplevel that may or may not be mapped yet. -/
structure ToplevelSlot where
  key : SurfaceKey
  window : Option WindowId
  deriving DecidableEq

structure PopupRecord where
  surface : Surface
  windowId : WindowId
  popupId : ℕ
  deriving DecidableEq

/-- `popups` is kept in creation order, which is the order of the popup ids. -/
structure SurfaceRegistry where
  toplevels : Surface → Option ToplevelSlot
  owners : Surface → Option WindowId
  popups : List PopupRecord
  nextSurfaceKey : ℕ
  nextPopupId : ℕ

namespace SurfaceRegistry

def new : SurfaceRegistry := ⟨fun _ => none, fun _ => none, [], 1, 1⟩

/-- Registering a surface twice keeps its first key. -/
def registerToplevel (registry : SurfaceRegistry) (surface : Surface) :
    SurfaceRegistry × SurfaceKey :=
  match registry.toplevels surface with
  | some slot => (registry, slot.key)
  | none =>
    let key : SurfaceKey := ⟨registry.nextSurfaceKey⟩
    ({ registry with
        toplevels := Function.update registry.toplevels surface (some ⟨key, none⟩)
        nextSurfaceKey := registry.nextSurfaceKey + 1 },
      key)

def isUnmappedToplevel (registry : SurfaceRegistry) (surface : Surface) : Bool :=
  (registry.toplevels surface).any fun slot => slot.window.isNone

/-- Binds a mapped window to its root surface. -/
def bind (registry : SurfaceRegistry) (surface : Surface) (window : WindowId) : SurfaceRegistry :=
  { registry with
    toplevels :=
      match registry.toplevels surface with
      | some slot => Function.update registry.toplevels surface
          (some { slot with window := some window })
      | none => registry.toplevels
    owners := Function.update registry.owners surface (some window) }

def removePopupsOf (registry : SurfaceRegistry) (windowId : WindowId) :
    SurfaceRegistry × List PopupRecord :=
  ({ registry with
      popups := registry.popups.filter (fun popup => popup.windowId ≠ windowId)
      owners := fun surface => (registry.owners surface).filter (fun owner => owner ≠ windowId) },
    registry.popups.filter (fun popup => popup.windowId = windowId))

/-- Drops a toplevel and every popup it owns. -/
def unbindToplevel (registry : SurfaceRegistry) (surface : Surface) :
    SurfaceRegistry × Option WindowId × List PopupRecord :=
  let window := (registry.toplevels surface).bind ToplevelSlot.window
  let unbound : SurfaceRegistry :=
    { registry with
      toplevels := Function.update registry.toplevels surface none
      owners := Function.update registry.owners surface none }
  match window with
  | some windowId =>
    let removed := unbound.removePopupsOf windowId
    (removed.1, some windowId, removed.2)
  | none => (unbound, none, [])

/-- A popup whose surface is already tracked keeps its id. -/
def addPopup (registry : SurfaceRegistry) (surface : Surface) (windowId : WindowId) :
    SurfaceRegistry × ℕ :=
  match registry.popups.find? (fun popup => popup.surface = surface) with
  | some existing => (registry, existing.popupId)
  | none =>
    ({ registry with
        popups := registry.popups ++ [⟨surface, windowId, registry.nextPopupId⟩]
        owners := Function.update registry.owners surface (some windowId)
        nextPopupId := registry.nextPopupId + 1 },
      registry.nextPopupId)

def removePopup (registry : SurfaceRegistry) (surface : Surface) :
    Option (SurfaceRegistry × PopupRecord) :=
  (registry.popups.find? (fun popup => popup.surface = surface)).map fun record =>
    ({ registry with
        popups := registry.popups.filter (fun popup => popup.surface ≠ surface)
        owners := Function.update registry.owners surface none },
      record)

end SurfaceRegistry

/-! ## The window bridge -/

/-- What a client has set on a toplevel, its process, and the launch it correlates with. -/
structure ToplevelMetadata where
  appId : Option AppId := none
  pid : Option ℤ := none
  launchId : Option LaunchId := none
  title : Option String := none
  deriving DecidableEq

/-- The actions of a policy call and the focus they were decided against. -/
structure WmDecision where
  actions : List WmAction
  previousFocus : Option WindowId

inductive MapOutcome
  | created (id : WindowId) (decision : WmDecision)
  | alreadyMapped (id : WindowId)

/-- What a toplevel destroy removed from the model. -/
structure DestroyedWindow where
  windowId : Option WindowId
  popupIds : List ℕ
  decision : WmDecision

structure WmBridge where
  manager : WindowModel
  config : PolicyConfig
  surfaces : SurfaceRegistry
  roots : WindowId → Option Surface

namespace WmBridge

def new (config : PolicyConfig) : WmBridge :=
  ⟨WindowModel.new, config, SurfaceRegistry.new, fun _ => none⟩

def keyboardFocus (bridge : WmBridge) : Option WindowId := activeWindow bridge.manager

/-- The owner of a surface: its own entry, else that of its nearest tracked ancestor. -/
def windowForSurface (bridge : WmBridge) (surface : Surface) (ancestors : List Surface) :
    Option WindowId :=
  (surface :: ancestors.take maxSurfaceTreeDepth).findSome? bridge.surfaces.owners

/-- Whether a window still has a toplevel to configure or close. -/
def hasToplevel (bridge : WmBridge) (id : WindowId) : Bool :=
  ((bridge.roots id).bind bridge.surfaces.toplevels).isSome

def registerToplevel (bridge : WmBridge) (surface : Surface) : WmBridge :=
  { bridge with surfaces := (bridge.surfaces.registerToplevel surface).1 }

def mapToplevel (bridge : WmBridge) (surface : Surface) (metadata : ToplevelMetadata)
    (createdSeq : ℕ) : WmBridge × MapOutcome :=
  match (bridge.surfaces.toplevels surface).bind ToplevelSlot.window with
  | some existing => (bridge, .alreadyMapped existing)
  | none =>
    let registered := bridge.surfaces.registerToplevel surface
    let request : MapRequest :=
      ⟨registered.2, metadata.appId, metadata.pid, metadata.title, createdSeq⟩
    let mapped := onMap bridge.manager bridge.config request
    ({ bridge with
        manager := mapped.1
        surfaces := registered.1.bind surface mapped.2.1
        roots := Function.update bridge.roots mapped.2.1 (some surface) },
      .created mapped.2.1 ⟨mapped.2.2, bridge.keyboardFocus⟩)

/-- Removes a toplevel, its window and its popups; an unregistered one is ignored. -/
def destroyToplevel (bridge : WmBridge) (surface : Surface) :
    Option (WmBridge × DestroyedWindow) :=
  match bridge.surfaces.toplevels surface with
  | none => none
  | some _ =>
    let unbound := bridge.surfaces.unbindToplevel surface
    match unbound.2.1 with
    | none => some ({ bridge with surfaces := unbound.1 }, ⟨none, [], ⟨[], none⟩⟩)
    | some windowId =>
      let destroyed := onDestroy bridge.manager windowId
      some
        ({ bridge with
            manager := destroyed.1
            surfaces := unbound.1
            roots := Function.update bridge.roots windowId none },
          ⟨some windowId, unbound.2.2.map PopupRecord.popupId, ⟨destroyed.2, none⟩⟩)

/-- A title that did not change is not reported. -/
def titleChanged (bridge : WmBridge) (surface : Surface) (title : Option String) :
    Option (WmBridge × WindowId) :=
  (bridge.windowForSurface surface []).bind fun windowId =>
    if (window bridge.manager windowId).bind WindowRecord.title = title then none
    else some ({ bridge with manager := onTitle bridge.manager windowId title }, windowId)

/-- A popup whose parent belongs to no window is not tracked. -/
def popupAdded (bridge : WmBridge) (surface : Surface) (parent : Option Surface) :
    Option (WmBridge × WindowId × ℕ) :=
  (parent.bind bridge.surfaces.owners).map fun windowId =>
    let added := bridge.surfaces.addPopup surface windowId
    ({ bridge with
        manager := onPopupAdded bridge.manager windowId
        surfaces := added.1 },
      windowId, added.2)

def popupRemoved (bridge : WmBridge) (surface : Surface) : Option (WmBridge × WindowId × ℕ) :=
  (bridge.surfaces.removePopup surface).map fun removed =>
    ({ bridge with
        manager := onPopupRemoved bridge.manager removed.2.windowId
        surfaces := removed.1 },
      removed.2.windowId, removed.2.popupId)

/-- Feeds a commit into the model under the next commit number of its window. -/
def commit (bridge : WmBridge) (id : WindowId) : WmBridge × ℕ :=
  let commitSeq := (commitOf bridge.manager id).getD 0 + 1
  ({ bridge with manager := onCommit bridge.manager id commitSeq }, commitSeq)

/-- Activates a known window; `none` is `unknown_window`. -/
def activate (bridge : WmBridge) (id : WindowId) : Option (WmBridge × WmDecision) :=
  (window bridge.manager id).map fun _ =>
    let activated := Wm.Policy.activate bridge.manager id
    ({ bridge with manager := activated.1 }, ⟨activated.2, bridge.keyboardFocus⟩)

end WmBridge

end ADesk.Compositor.Bridge
