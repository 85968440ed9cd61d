/- ADesk/Compositor/Tiling
   digest: Whatever clients do, the window manager inside the bridge stays consistent: every window
   covers the output. -/

import ADesk.Compositor.State
import ADesk.Wm.Consistency

set_option autoImplicit false

namespace ADesk.Compositor.Tiling

open ADesk.Core.Geometry (Region)
open ADesk.Core.Ids (WindowId)
open ADesk.Compositor.Bridge
open ADesk.Compositor.State
open ADesk.Wm.Consistency
open ADesk.Wm.Policy (PolicyConfig)

/-- The window manager inside a bridge. -/
def managed (bridge : WmBridge) : WindowManager :=
  ⟨bridge.config, bridge.manager⟩

/-- Every window covers the output that the compositor was configured with. -/
structure Tiled (config : PolicyConfig) (bridge : WmBridge) : Prop where
  config : bridge.config = config
  consistent : Consistent (managed bridge)

variable {config : PolicyConfig} {bridge after : WmBridge}

/-- What keeps the windows and the configuration keeps the tiling. -/
theorem Tiled.same (tiled : Tiled config bridge) (configs : after.config = bridge.config)
    (managers : after.manager = bridge.manager) : Tiled config after := by
  refine ⟨configs.trans tiled.config, ?_⟩
  rw [managed, configs, managers]
  exact tiled.consistent

/-- A call of the window manager keeps the tiling. -/
theorem Tiled.call (tiled : Tiled config bridge) (operation : Operation)
    (configs : after.config = bridge.config)
    (performed : managed after = ((managed bridge).perform operation).1) : Tiled config after :=
  ⟨configs.trans tiled.config, performed ▸ tiled.consistent.step operation⟩

theorem Tiled.mapToplevel (tiled : Tiled config bridge) (surface : Surface)
    (metadata : ToplevelMetadata) (createdSeq : ℕ) :
    Tiled config (bridge.mapToplevel surface metadata createdSeq).1 := by
  unfold WmBridge.mapToplevel
  split
  · exact tiled
  · exact tiled.call (.map ⟨(bridge.surfaces.registerToplevel surface).2, metadata.appId,
      metadata.pid, metadata.title, createdSeq⟩) rfl rfl

theorem tiled_mapped (tiled : Tiled config bridge) (surface : Surface)
    (metadata : ToplevelMetadata) (createdSeq : ℕ) :
    Tiled config (onToplevelMapped bridge surface metadata createdSeq).1 := by
  have mapped := tiled.mapToplevel surface metadata createdSeq
  unfold onToplevelMapped
  split
  · next found => rwa [found] at mapped
  · exact tiled

theorem Tiled.destroyToplevel (tiled : Tiled config bridge) {surface : Surface}
    {destroyed : DestroyedWindow} (removes : bridge.destroyToplevel surface = some (after, destroyed)) :
    Tiled config after := by
  unfold WmBridge.destroyToplevel at removes
  split at removes
  · cases removes
  · dsimp only at removes
    split at removes <;> cases removes
    · exact tiled.same rfl rfl
    · next windowId _ => exact tiled.call (.destroy windowId) rfl rfl

theorem tiled_destroyed (tiled : Tiled config bridge) (surface : Surface) :
    Tiled config (onToplevelDestroyed bridge surface).1 := by
  unfold onToplevelDestroyed
  split
  · exact tiled
  · next removed destroyed removes =>
    split <;> exact tiled.destroyToplevel removes

theorem Tiled.titleChanged (tiled : Tiled config bridge) {surface : Surface}
    {title : Option String} {windowId : WindowId}
    (changes : bridge.titleChanged surface title = some (after, windowId)) : Tiled config after := by
  obtain ⟨owner, _, changed⟩ := Option.bind_eq_some_iff.mp changes
  obtain ⟨_, same⟩ := Option.ite_none_left_eq_some.mp changed
  cases same
  exact tiled.call (.title windowId title) rfl rfl

theorem tiled_title (tiled : Tiled config bridge) (surface : Surface) (title : Option String) :
    Tiled config (onTitleChanged bridge surface title).1 := by
  unfold onTitleChanged
  split
  · next changes => exact tiled.titleChanged changes
  · exact tiled

theorem tiled_popup_created (tiled : Tiled config bridge) (surface : Surface)
    (parent : Option Surface) : Tiled config (onPopupCreated bridge surface parent).1 := by
  unfold onPopupCreated WmBridge.popupAdded
  cases parent.bind bridge.surfaces.owners with
  | none => exact tiled
  | some windowId => exact tiled.call (.popupAdded windowId) rfl rfl

theorem tiled_popup_destroyed (tiled : Tiled config bridge) (surface : Surface) :
    Tiled config (onPopupDestroyed bridge surface).1 := by
  unfold onPopupDestroyed WmBridge.popupRemoved
  cases bridge.surfaces.removePopup surface with
  | none => exact tiled
  | some removed => exact tiled.call (.popupRemoved removed.2.windowId) rfl rfl

theorem tiled_recorded (tiled : Tiled config bridge) (surface : Surface) (ancestors : List Surface)
    (damage : Region) :
    Tiled config (recordCommit bridge surface ancestors damage).1 := by
  unfold recordCommit
  split
  · next windowId _ => exact tiled.call (.commit windowId (bridge.commit windowId).2) rfl rfl
  · exact tiled

theorem tiled_client {state : CompositorState} (tiled : Tiled config state.wm)
    (request : ClientRequest) : Tiled config (handleClient state request).1 := by
  cases request with
  | newToplevel surface => exact tiled.same rfl rfl
  | commit surface ancestors hasBuffer metadata damage =>
    refine tiled_recorded ?_ surface ancestors damage
    split
    · exact tiled_mapped tiled surface metadata _
    · exact tiled
  | toplevelDestroyed surface => exact tiled_destroyed tiled surface
  | titleChanged surface title => exact tiled_title tiled surface title
  | newPopup surface parent => exact tiled_popup_created tiled surface parent
  | popupDestroyed surface => exact tiled_popup_destroyed tiled surface

end ADesk.Compositor.Tiling
