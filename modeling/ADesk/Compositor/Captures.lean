/- ADesk/Compositor/Captures
   digest: Captures of windows and of the output show the same scene, with its damage. -/

import ADesk.Compositor.Mirror
import ADesk.Render.Damage
import ADesk.Render.Pool

set_option autoImplicit false

namespace ADesk.Compositor.Captures

open ADesk.Compositor.Bridge
open ADesk.Compositor.Command (CompositorError)
open ADesk.Compositor.Sourcing
open ADesk.Compositor.State hiding Command Reply
open ADesk.Compositor.Tiling
open ADesk.Core.Coverage (InRange contains)
open ADesk.Core.Geometry
open ADesk.Core.Ids (WindowId)
open ADesk.Core.Image
open ADesk.Foundation.Execution
open ADesk.Render.Pipeline
open ADesk.Render.Pool
open ADesk.Wm.Policy

universe u

/-! ## Scenes -/

/-- The surfaces of the clients, as the walk over a tree and the popup manager report them. -/
structure Shell (E : Type u) where
  /-- The elements of a surface tree at a location, from the bottom to the top. -/
  tree : Surface → Point → List E
  /-- The popups of a surface with their offsets, descendants before their parents. -/
  popups : Surface → List (Surface × Point)
  location : E → Point

/-- Locations are of type `i32`. -/
def Shell.Typed {E : Type u} (shell : Shell E) : Prop :=
  ∀ element, (i32Min ≤ (shell.location element).x ∧ (shell.location element).x ≤ i32Max) ∧
    i32Min ≤ (shell.location element).y ∧ (shell.location element).y ≤ i32Max

variable {E : Type u}

/-- Popups from the bottom to the top. -/
def popupSurfaces (shell : Shell E) (surface : Surface) : List (Surface × Point) :=
  (shell.popups surface).reverse

/-- The tree of a window, below its popups. -/
def windowElements (shell : Shell E) (surface : Surface) (origin : Point) : List E :=
  shell.tree surface origin ++ (popupSurfaces shell surface).flatMap fun popup =>
    shell.tree popup.1 ⟨origin.x + popup.2.x, origin.y + popup.2.y⟩

def toCoreRect (box : Box) : Rect := ⟨box.x, box.y, box.w.toNat, box.h.toNat⟩

/-- Where an element is, as it reports it itself. -/
def elementBox (renderer : Renderer E) (shell : Shell E) (element : E) : Box :=
  ⟨(shell.location element).x, (shell.location element).y, (renderer.size element).1,
    (renderer.size element).2⟩

/-- An element at its own location, with its whole rectangle as damage. -/
def elementNode (renderer : Renderer E) (shell : Shell E) (element : E) : SceneNode E :=
  ⟨element, shell.location element, Region.fromRect (toCoreRect (elementBox renderer shell element))⟩

def sceneFromElements (renderer : Renderer E) (shell : Shell E) (elements : List E) : Scene E :=
  ⟨0, elements.map (elementNode renderer shell)⟩

/-- The scene of a window, relative to it. -/
def windowScene (renderer : Renderer E) (shell : Shell E) (surface : Surface) : Scene E :=
  sceneFromElements renderer shell (windowElements shell surface ⟨0, 0⟩)

/-- A candidate for the composition of the output. -/
structure OutputWindow where
  geometry : Rect
  surface : Surface
  active : Bool

/-- The one window that is drawn: the first active one. -/
def visibleIndex (active : List Bool) : Option ℕ := active.findIdx? id

def outputScene (renderer : Renderer E) (shell : Shell E) (windows : List OutputWindow) : Scene E :=
  match (visibleIndex (windows.map OutputWindow.active)).bind fun index => windows[index]? with
  | none => ⟨0, []⟩
  | some window => sceneFromElements renderer shell
      (windowElements shell window.surface ⟨window.geometry.x, window.geometry.y⟩)

def renderConfig (source : Size) (region : Option Rect) (maxDimension : Option ℕ) : RenderConfig :=
  { RenderConfig.new ⟨0, 0, source.w, source.h⟩ with crop := region, maxDimension := maxDimension }

/-! ## The compositor's captures -/

/-- The compositor with its renderer's targets. -/
structure Desk where
  state : CompositorState
  backend : Backend

/-- What a capture asks for, with the failures that it meets. -/
structure Request where
  region : Option Rect
  maxDimension : Option ℕ
  failure : Option String
  faults : Faults

abbrev Answer := Except CompositorError CapturedFrame

def surfaceOf (bridge : WmBridge) (id : WindowId) : Option Surface :=
  (bridge.roots id).filter fun surface => (bridge.surfaces.toplevels surface).isSome

def windowGeometry (bridge : WmBridge) (id : WindowId) : Option Rect :=
  (window bridge.manager id).map WindowRecord.geometry

def lastCommitSeq (bridge : WmBridge) (id : WindowId) : ℕ :=
  ((window bridge.manager id).map WindowRecord.lastCommitSeq).getD 0

def outputSize (bridge : WmBridge) : Size := ⟨bridge.config.outputWidth, bridge.config.outputHeight⟩

/-- Renders one window; the frame carries the commit counter of the window. -/
def renderWindow (renderer : Renderer E) (shell : Shell E) (desk : Desk) (id : WindowId)
    (request : Request) : Option (Answer × Backend) :=
  match windowGeometry desk.state.wm id, surfaceOf desk.state.wm id with
  | some geometry, some surface =>
    (renderSceneFrame renderer desk.backend
      ⟨windowScene renderer shell surface,
        renderConfig ⟨geometry.w, geometry.h⟩ request.region request.maxDimension,
        request.failure, request.faults⟩).map fun (answer, backend) =>
      (answer.map fun frame => { frame with commitSeq := lastCommitSeq desk.state.wm id }, backend)
  | _, _ => some (.error (.unknownWindow id), desk.backend)

/-- The candidates: the active window, if it has a surface. -/
def outputWindows (bridge : WmBridge) : List OutputWindow :=
  match activeWindow bridge.manager with
  | none => []
  | some active =>
    match surfaceOf bridge active, windowGeometry bridge active with
    | some surface, some geometry => [⟨geometry, surface, true⟩]
    | _, _ => []

/-- Composes the whole output. -/
def renderOutput (renderer : Renderer E) (shell : Shell E) (desk : Desk) (request : Request) :
    Option (Answer × Backend) :=
  renderSceneFrame renderer desk.backend
    ⟨outputScene renderer shell (outputWindows desk.state.wm),
      renderConfig (outputSize desk.state.wm) request.region request.maxDimension,
      request.failure, request.faults⟩

/-! ## The machine -/

inductive Label
  | client (request : ClientRequest)
  | command (tsMs : ℕ) (command : State.Command)
  | renderWindow (id : WindowId) (request : Request)
  | renderOutput (request : Request)

/-- The events of an operation take a number each. -/
def numbered (events : Events.EventSink) (emissions : List Events.Emission) : Events.EventSink :=
  ⟨events.lastSeq + emissions.length⟩

def step (renderer : Renderer E) (shell : Shell E) (desk : Desk) : Label → Option Desk
  | .client request =>
    let handled := handleClient desk.state request
    some { desk with state := ⟨numbered desk.state.events handled.2, handled.1⟩ }
  | .command tsMs command =>
    let handled := handleCommand desk.state tsMs command
    some { desk with
      state := { handled.1 with events := numbered handled.1.events handled.2.1 } }
  | .renderWindow id request =>
    (renderWindow renderer shell desk id request).map fun served => { desk with backend := served.2 }
  | .renderOutput request =>
    (renderOutput renderer shell desk request).map fun served => { desk with backend := served.2 }

def deskMachine (renderer : Renderer E) (shell : Shell E) (config : PolicyConfig) :
    Machine Desk Label :=
  ⟨⟨CompositorState.new config, .new⟩, step renderer shell⟩

/-- The regions that are asked for are of the types of the source. -/
def typedLabel (_ : Desk) : Label → Prop
  | .client _ | .command .. => True
  | .renderWindow _ request | .renderOutput request =>
    ∀ region, request.region = some region → InRange region

/-! ## The windows of the output -/

/-- A toplevel that is mapped as a window is the root of that window. -/
def Rooted (bridge : WmBridge) : Prop :=
  ∀ surface slot id, bridge.surfaces.toplevels surface = some slot → slot.window = some id →
    bridge.roots id = some surface

theorem Rooted.registered {bridge : WmBridge} (rooted : Rooted bridge) (surface : Surface) :
    Rooted (bridge.registerToplevel surface) := by
  intro other slot id known mapped
  unfold WmBridge.registerToplevel SurfaceRegistry.registerToplevel at known ⊢
  dsimp only at known ⊢
  split at known
  · exact rooted other slot id known mapped
  · dsimp only at known
    by_cases same : other = surface
    · rw [same, Function.update_self] at known
      cases known
      cases mapped
    · rw [Function.update_of_ne same] at known
      exact rooted other slot id known mapped

theorem Rooted.mapped {bridge : WmBridge} (linked : Linked bridge) (rooted : Rooted bridge)
    (surface : Surface) (metadata : ToplevelMetadata) (createdSeq : ℕ) :
    Rooted (bridge.mapToplevel surface metadata createdSeq).1 := by
  unfold WmBridge.mapToplevel
  split
  · exact rooted
  next unmapped =>
  have kept := rooted.registered surface
  have fresh : windowBySurface bridge.manager
      (MapRequest.mk (bridge.surfaces.registerToplevel surface).2 metadata.appId metadata.pid
        metadata.title createdSeq).surfaceKey = none := linked.fresh_key unmapped
  have named := congrArg Prod.fst (on_map_fresh bridge.config fresh).1
  dsimp only at named ⊢
  rw [named]
  intro other slot id known mapped
  dsimp only at known ⊢
  unfold SurfaceRegistry.bind at known
  dsimp only at known
  by_cases same : other = surface
  · subst same
    rcases slotted : (bridge.surfaces.registerToplevel other).1.toplevels other with _ | before
    · rw [slotted] at known
      dsimp only at known
      rw [slotted] at known
      cases known
    · rw [slotted] at known
      dsimp only at known
      rw [Function.update_self] at known
      cases known
      cases mapped
      exact Function.update_self ..
  · have old : (bridge.registerToplevel surface).surfaces.toplevels other = some slot := by
      rcases slotted : (bridge.surfaces.registerToplevel surface).1.toplevels surface with
        _ | before
      · rwa [slotted] at known
      · rw [slotted] at known
        dsimp only at known
        rwa [Function.update_of_ne same] at known
    have live := (linked.registered surface).windowsLive other slot id old mapped
    have below := linked.formed.below id live
    rw [Function.update_of_ne]
    · exact kept other slot id old mapped
    · rintro rfl
      exact Nat.lt_irrefl _ below

theorem Rooted.destroyed {bridge after : WmBridge} (linked : Linked bridge) (rooted : Rooted bridge)
    {surface : Surface} {destroyed : DestroyedWindow}
    (removes : bridge.destroyToplevel surface = some (after, destroyed)) : Rooted after := by
  unfold WmBridge.destroyToplevel SurfaceRegistry.unbindToplevel at removes
  split at removes
  · cases removes
  next slot registered =>
  rw [registered, Option.bind_some] at removes
  have others : ∀ other ≠ surface, ∀ slot' id, bridge.surfaces.toplevels other = some slot' →
      slot'.window = some id → slot.window ≠ some id := by
    intro other different slot' id known mapped windowed
    exact different
      (linked.windowsInjective other surface slot' slot id known registered mapped windowed)
  cases windowed : slot.window with
  | none =>
    rw [windowed] at removes
    cases removes
    intro other slot' id known mapped
    dsimp only at known
    by_cases same : other = surface
    · rw [same, Function.update_self] at known
      cases known
    · rw [Function.update_of_ne same] at known
      exact rooted other slot' id known mapped
  | some windowId =>
    rw [windowed] at removes
    cases removes
    intro other slot' id known mapped
    dsimp only [SurfaceRegistry.removePopupsOf] at known ⊢
    by_cases same : other = surface
    · rw [same, Function.update_self] at known
      cases known
    · rw [Function.update_of_ne same] at known
      rw [Function.update_of_ne]
      · exact rooted other slot' id known mapped
      · rintro rfl
        exact others other same slot' id known mapped windowed

theorem Rooted.same {before after : WmBridge} (rooted : Rooted before)
    (surfaces : after.surfaces.toplevels = before.surfaces.toplevels)
    (roots : after.roots = before.roots) : Rooted after := by
  intro surface slot id known mapped
  rw [surfaces] at known
  rw [roots]
  exact rooted surface slot id known mapped

theorem rooted_client {state : CompositorState} (linked : Linked state.wm)
    (rooted : Rooted state.wm) (request : ClientRequest) :
    Rooted (handleClient state request).1 := by
  cases request with
  | newToplevel surface => exact rooted.registered surface
  | commit surface ancestors hasBuffer metadata damage =>
    have recorded : ∀ bridge, Rooted bridge →
        Rooted (recordCommit bridge surface ancestors damage).1 := by
      intro bridge before
      unfold recordCommit
      split
      · exact before.same rfl rfl
      · exact before
    refine recorded _ ?_
    split
    · have mapped := Rooted.mapped linked rooted surface metadata state.events.watermark
      unfold onToplevelMapped
      split
      · next found => rwa [found] at mapped
      · exact rooted
    · exact rooted
  | toplevelDestroyed surface =>
    unfold handleClient onToplevelDestroyed
    dsimp only
    split
    · exact rooted
    · next removed destroyed removes =>
      split <;> exact Rooted.destroyed linked rooted removes
  | titleChanged surface title =>
    unfold handleClient onTitleChanged
    dsimp only
    split
    · next changed _ changes =>
      obtain ⟨owner, _, made⟩ := Option.bind_eq_some_iff.mp changes
      obtain ⟨_, same⟩ := Option.ite_none_left_eq_some.mp made
      cases same
      exact rooted.same rfl rfl
    · exact rooted
  | newPopup surface parent =>
    unfold handleClient onPopupCreated
    dsimp only
    split
    · next added _ _ adds =>
      obtain ⟨windowId, _, same⟩ := Option.map_eq_some_iff.mp adds
      cases same
      refine rooted.same ?_ rfl
      dsimp only
      unfold SurfaceRegistry.addPopup
      split <;> rfl
    · exact rooted
  | popupDestroyed surface =>
    unfold handleClient onPopupDestroyed
    dsimp only
    split
    · next removed _ _ removes =>
      obtain ⟨dropped, found, same⟩ := Option.map_eq_some_iff.mp removes
      cases same
      obtain ⟨record, _, same⟩ := Option.map_eq_some_iff.mp found
      cases same
      exact rooted.same rfl rfl
    · exact rooted

theorem rooted_command {state : CompositorState} (rooted : Rooted state.wm) (tsMs : ℕ)
    (command : State.Command) : Rooted (handleCommand state tsMs command).1.wm := by
  cases command with
  | activateWindow windowId =>
    simp only [handleCommand]
    split
    · next activated decision done =>
      obtain ⟨_, _, same⟩ := Option.map_eq_some_iff.mp done
      cases same
      exact rooted.same rfl rfl
    · exact rooted
  | closeWindow windowId =>
    simp only [handleCommand]
    split <;> exact rooted
  | queryState | reserveSeq | injectInput => exact rooted

/-- What holds of the compositor at all times. -/
structure Settled (renderer : Renderer E) (config : PolicyConfig) (desk : Desk) : Prop where
  linked : Linked desk.state.wm
  tiled : Tiled config desk.state.wm
  rooted : Rooted desk.state.wm
  sound : Sound renderer desk.backend

/-- A tracked window is found with its root surface, and covers the output. -/
theorem Settled.window_found {renderer : Renderer E} {config : PolicyConfig} {desk : Desk}
    (settled : Settled renderer config desk) {id : WindowId}
    (tracked : id ∈ desk.state.wm.manager.ids) :
    (∃ surface, surfaceOf desk.state.wm id = some surface) ∧
      windowGeometry desk.state.wm id = some config.tiledRect := by
  constructor
  · rw [ids_eq_keys] at tracked
    obtain ⟨⟨key, owner⟩, member, rfl⟩ := List.mem_map.mp tracked
    obtain ⟨surface, known⟩ := settled.linked.recorded key owner member
    have root := settled.rooted surface _ owner known rfl
    refine ⟨surface, ?_⟩
    unfold surfaceOf
    rw [root, Option.filter_some, known]
    rfl
  · unfold windowGeometry
    have found := mem_ids_iff.mp tracked
    unfold commitOf at found
    rw [Option.isSome_map] at found
    obtain ⟨record, known⟩ := Option.isSome_iff_exists.mp found
    rw [known, Option.map_some, settled.tiled.consistent.tiled record (List.mem_of_find?_eq_some known)]
    exact congrArg (some ∘ PolicyConfig.tiledRect) settled.tiled.config

theorem tiled_command {config : PolicyConfig} {state : CompositorState}
    (tiled : Tiled config state.wm) (tsMs : ℕ) (command : State.Command) :
    Tiled config (handleCommand state tsMs command).1.wm := by
  refine ⟨Eq.trans ?_ tiled.config, Mirror.consistent_command tiled.consistent command tsMs⟩
  cases command with
  | activateWindow windowId =>
    simp only [handleCommand]
    split
    · next activated decision done =>
      obtain ⟨_, _, same⟩ := Option.map_eq_some_iff.mp done
      cases same
      rfl
    · rfl
  | closeWindow windowId =>
    simp only [handleCommand]
    split <;> rfl
  | queryState | reserveSeq | injectInput => rfl

/-- The sizes of the output are of the type of the source. -/
structure Fits (config : PolicyConfig) : Prop where
  width : config.outputWidth ≤ u32Max
  height : config.outputHeight ≤ u32Max

theorem typed_config {config : PolicyConfig} (fits : Fits config) {region : Option Rect}
    (typed : ∀ rect, region = some rect → InRange rect) (maxDimension : Option ℕ) :
    (renderConfig ⟨config.outputWidth, config.outputHeight⟩ region maxDimension).Typed := by
  have low : i32Min ≤ 0 := by decide
  have high : (0 : ℤ) ≤ i32Max := by decide
  exact ⟨⟨low, high, low, high, fits.width, fits.height⟩, typed⟩

variable {renderer : Renderer E} {shell : Shell E} {config : PolicyConfig}

/-- What a window capture renders, where the window has a geometry and a surface. -/
theorem render_window_eq (shell : Shell E) {desk : Desk} (settled : Settled renderer config desk) (id : WindowId)
    (request : Request) :
    renderWindow renderer shell desk id request =
        some (.error (.unknownWindow id), desk.backend) ∨
      ∃ surface, surfaceOf desk.state.wm id = some surface ∧
        renderWindow renderer shell desk id request =
          (renderSceneFrame renderer desk.backend
            ⟨windowScene renderer shell surface,
              renderConfig ⟨config.outputWidth, config.outputHeight⟩ request.region
                request.maxDimension, request.failure, request.faults⟩).map fun served =>
            (served.1.map fun frame =>
              { frame with commitSeq := lastCommitSeq desk.state.wm id }, served.2) := by
  unfold renderWindow
  cases placed : windowGeometry desk.state.wm id with
  | none => exact Or.inl rfl
  | some geometry =>
    have tracked : id ∈ desk.state.wm.manager.ids := by
      rw [mem_ids_iff, commitOf, Option.isSome_map]
      unfold windowGeometry at placed
      obtain ⟨record, known, -⟩ := Option.map_eq_some_iff.mp placed
      rw [known]
      rfl
    obtain ⟨⟨surface, found⟩, covers⟩ := settled.window_found tracked
    rw [placed] at covers
    cases covers
    rw [found]
    exact Or.inr ⟨surface, rfl, rfl⟩

theorem output_size_eq {desk : Desk} (settled : Settled renderer config desk) :
    outputSize desk.state.wm = ⟨config.outputWidth, config.outputHeight⟩ := by
  unfold outputSize
  rw [settled.tiled.config]

theorem settled_inductive (documented : renderer.Documented) (fits : Fits config) :
    Inductive (deskMachine renderer shell config) typedLabel (Settled renderer config) where
  start := ⟨initial_linked config, ⟨rfl, Wm.Consistency.Consistent.initial config⟩,
    fun _ _ _ known => (by cases known), (sound_inductive documented).start⟩
  next := by
    intro desk after label settled typed taken
    obtain ⟨linked, tiled, rooted, sound⟩ := settled
    cases label with
    | client request =>
      cases taken
      exact ⟨(handle_client_sourced linked request).linked, tiled_client tiled request,
        rooted_client linked rooted request, sound⟩
    | command tsMs command =>
      cases taken
      exact ⟨(handle_command_sourced linked tsMs command).linked,
        tiled_command tiled tsMs command, rooted_command rooted tsMs command, sound⟩
    | renderWindow id request =>
      obtain ⟨⟨answer, backend⟩, served, rfl⟩ := Option.map_eq_some_iff.mp taken
      refine ⟨linked, tiled, rooted, ?_⟩
      rcases render_window_eq shell ⟨linked, tiled, rooted, sound⟩ id request with
        refused | ⟨surface, -, renders⟩
      · rw [refused] at served
        cases served
        exact sound
      · rw [renders] at served
        obtain ⟨⟨first, last⟩, ran, same⟩ := Option.map_eq_some_iff.mp served
        cases same
        exact sound.step documented (typed_config fits typed _) ran
    | renderOutput request =>
      obtain ⟨⟨answer, backend⟩, served, rfl⟩ := Option.map_eq_some_iff.mp taken
      refine ⟨linked, tiled, rooted, ?_⟩
      unfold renderOutput at served
      rw [output_size_eq ⟨linked, tiled, rooted, sound⟩] at served
      exact sound.step documented (typed_config fits typed _) served

/-! ## The output shows the active window -/

/-- A frame has the commit counter of its scene. -/
theorem frame_commit_seq {backend after : Backend} {capture : Capture E} {frame : CapturedFrame}
    (ran : renderSceneFrame renderer backend capture = some (.ok frame, after)) :
    frame.commitSeq = capture.scene.commitSeq := by
  unfold renderSceneFrame at ran
  split at ran
  · cases ran
  · split at ran
    · cases ran
    · split at ran
      · cases ran
      · cases ran
      · next shown kept rendered =>
        cases ran
        obtain ⟨-, -, _, -, -, -, _, -, _, -, same, -⟩ := render_scene_ok.mp rendered
        exact congrArg RenderedFrame.commitSeq same

/-- In every reachable state, composing the output is capturing the active window: the same image,
damage or error, and the same targets are left, but the frame carries no commit counter. -/
theorem output_shows_active (documented : renderer.Documented) (fits : Fits config) {desk : Desk}
    (reached : Reachable (deskMachine renderer shell config) typedLabel desk) {id : WindowId}
    (active : activeWindow desk.state.wm.manager = some id) (request : Request) :
    renderOutput renderer shell desk request =
      (renderWindow renderer shell desk id request).map fun served =>
        (served.1.map fun frame => { frame with commitSeq := 0 }, served.2) := by
  have settled := (settled_inductive documented fits).holds reached
  have tracked : id ∈ desk.state.wm.manager.ids :=
    settled.linked.formed.recent id (List.mem_of_mem_head? active)
  obtain ⟨⟨surface, found⟩, covers⟩ := settled.window_found tracked
  have scene : outputScene renderer shell (outputWindows desk.state.wm) =
      windowScene renderer shell surface := by
    unfold outputWindows
    rw [active]
    dsimp only
    rw [found, covers]
    rfl
  unfold renderOutput renderWindow
  rw [scene, found, covers, output_size_eq settled]
  dsimp only
  rw [Option.map_map]
  refine Option.map_id'.symm.trans (Option.map_congr fun served ran => ?_)
  obtain ⟨answer, backend⟩ := served
  cases answer with
  | error error => rfl
  | ok frame =>
    have seq := frame_commit_seq ran
    obtain ⟨image, commitSeq, damage⟩ := frame
    cases seq
    rfl

/-- Every surface is one small tile at the origin. -/
def plainShell : Shell Tile := ⟨fun _ _ => [⟨2, 1, 9, 9, 9, 255⟩], fun _ => [], fun _ => ⟨0, 0⟩⟩

def plainConfig : PolicyConfig := ⟨3, 2⟩

theorem plain_fits : Fits plainConfig := ⟨by decide, by decide⟩

/-- The desk with one window, that a client has just mapped. -/
def mappedDesk : Desk :=
  ⟨⟨numbered ⟨0⟩ (handleClient ⟨⟨0⟩, (WmBridge.new plainConfig).registerToplevel 1⟩
      (.commit 1 [] true {} Region.empty)).2,
    (handleClient ⟨⟨0⟩, (WmBridge.new plainConfig).registerToplevel 1⟩
      (.commit 1 [] true {} Region.empty)).1⟩, .new⟩

theorem mapped_desk_reached :
    Reachable (deskMachine flat plainShell plainConfig) typedLabel mappedDesk := by
  have registered : Reachable (deskMachine flat plainShell plainConfig) typedLabel
      ⟨⟨⟨0⟩, (WmBridge.new plainConfig).registerToplevel 1⟩, .new⟩ :=
    .next .start (show typedLabel _ (.client (.newToplevel 1)) from trivial) rfl
  exact .next registered
    (show typedLabel _ (.client (.commit 1 [] true {} Region.empty)) from trivial) rfl

def partRequest : Request := ⟨some ⟨1, 0, 2, 2⟩, none, none, fun _ => none⟩

theorem output_shows_active_mapped :
    renderOutput flat plainShell mappedDesk partRequest =
      (renderWindow flat plainShell mappedDesk ⟨1⟩ partRequest).map fun served =>
        (served.1.map fun frame => { frame with commitSeq := 0 }, served.2) :=
  output_shows_active flat_documented plain_fits mapped_desk_reached rfl _

/-! ## The damage of a frame -/

/-- A pixel that no node covers keeps the clear color. -/
theorem painted_uncovered {scene : Scene E} {config : RenderConfig} {x y : ℕ}
    (uncovered : ∀ node ∈ scene.nodes,
      (destination renderer config.source node).covers x y = false) :
    painted renderer scene config x y = config.clearColor := by
  unfold painted
  generalize config.clearColor = color
  generalize scene.nodes = nodes at uncovered ⊢
  induction nodes with
  | nil => rfl
  | cons node rest ih =>
    rw [List.foldl_cons]
    have here := uncovered node List.mem_cons_self
    unfold layered
    dsimp only
    rw [here, if_neg Bool.false_ne_true]
    exact ih fun other member => uncovered other (List.mem_cons_of_mem _ member)

theorem extend_rects (nodes : List (SceneNode E)) (damage : Region) :
    ∀ r, r ∈ (nodes.foldl (fun damage node => damage.extend node.damage) damage).rects ↔
      r ∈ damage.rects ∨ ∃ node ∈ nodes, r ∈ node.damage.rects := by
  induction nodes generalizing damage with
  | nil => simp
  | cons node rest ih =>
    intro r
    rw [List.foldl_cons, ih]
    have kept : r ∈ (damage.extend node.damage).rects ↔
        r ∈ damage.rects ∨ r ∈ node.damage.rects := by
      unfold Region.extend
      dsimp only
      rw [List.mem_append, List.mem_filter]
      refine or_congr_right ⟨And.left, fun member => ⟨member, ?_⟩⟩
      rw [node.damage.nonempty r member]
      rfl
    rw [kept]
    simp only [List.mem_cons, exists_eq_or_imp]
    tauto

theorem from_rect_rects {rect r : Rect} :
    r ∈ (Region.fromRect rect).rects ↔ r = rect ∧ rect.isEmpty = false := by
  unfold Region.fromRect Region.push
  split
  · next empty =>
    simp [Region.empty, empty]
  · next filled =>
    simp [Region.empty, filled]

/-- The damage of a scene is the rectangles of its elements. -/
theorem scene_damage (elements : List E) (r : Rect) :
    r ∈ (sceneFromElements renderer shell elements).damage.rects ↔
      ∃ element ∈ elements, r = toCoreRect (elementBox renderer shell element) ∧
        r.isEmpty = false := by
  unfold Scene.damage sceneFromElements
  rw [extend_rects]
  constructor
  · rintro (none | ⟨node, member, inside⟩)
    · cases none
    · obtain ⟨element, there, rfl⟩ := List.mem_map.mp member
      obtain ⟨same, filled⟩ := from_rect_rects.mp inside
      exact ⟨element, there, same, same ▸ filled⟩
  · rintro ⟨element, there, same, filled⟩
    exact Or.inr ⟨_, List.mem_map.mpr ⟨element, there, rfl⟩,
      from_rect_rects.mpr ⟨same, same ▸ filled⟩⟩

/-- Simplifying keeps what a region covers, and stays within the boxes that hold it. -/
theorem simplified_keeps {region : Region} (range : ∀ r ∈ region.rects, InRange r) :
    (∀ p : Point, p.x < i32Max → p.y < i32Max → (∃ r ∈ region.rects, contains r p = true) →
      ∃ r ∈ region.simplified, contains r p = true) ∧
    ∀ left top right bottom : ℤ,
      (∀ r ∈ region.rects, Core.Coverage.Within left top right bottom r) →
        ∀ r ∈ region.simplified, Core.Coverage.Within left top right bottom r := by
  have stands : Core.Coverage.Stands region.rects (coalesce region.rects) :=
    Core.Coverage.stands_rounds _ (Core.Coverage.stands_start range)
  have members : ∀ r, r ∈ region.simplified ↔ r ∈ coalesce region.rects := fun r =>
    (List.perm_insertionSort _ _).mem_iff
  constructor
  · intro p low high covered
    obtain ⟨r, member, inside⟩ := stands.covers p low high covered
    exact ⟨r, (members r).mpr member, inside⟩
  · intro left top right bottom within r member
    exact stands.within left top right bottom (fun r member _ => within r member) r
      ((members r).mp member)

theorem clamp_max_zero {value : ℤ} (high : value ≤ i32Max) :
    clampI32 (max value 0) = max value 0 :=
  Core.Coalescing.clamp_inside (by unfold i32Min; omega) (max_le high (by decide))

/-- The part of a rectangle that is inside an output, whose corner is the origin. -/
theorem intersect_output {r part : Rect} {w h : ℕ} (wide : (w : ℤ) ≤ i32Max)
    (tall : (h : ℤ) ≤ i32Max) (range : InRange r)
    (found : r.intersect ⟨0, 0, w, h⟩ = some part) :
    InRange part ∧ Core.Coverage.Within 0 0 w h part := by
  have right := range.right
  have bottom := range.bottom
  unfold Rect.intersect at found
  split at found
  · cases found
  dsimp only at found
  split at found
  · cases found
  next inside =>
  cases found
  simp only [Bool.or_eq_true, decide_eq_true_eq] at inside
  rw [clamp_max_zero right, clamp_max_zero bottom]
  constructor
  · constructor <;> simp only [i32Min, i32Max, u32Max] at * <;> omega
  · constructor <;> dsimp only <;> omega

/-- A point of a rectangle inside the output is in that part. -/
theorem intersect_contains {r : Rect} {w h : ℕ} (range : InRange r) {p : Point}
    (inside : contains r p = true) (column : 0 ≤ p.x ∧ p.x < w) (row : 0 ≤ p.y ∧ p.y < h) :
    ∃ part, r.intersect ⟨0, 0, w, h⟩ = some part ∧ contains part p = true := by
  obtain ⟨filled, left, right, top, bottom⟩ := Core.Coverage.contains_iff.mp inside
  have output : Rect.isEmpty ⟨0, 0, w, h⟩ = false := by
    rw [Core.Coverage.empty_iff]
    dsimp only
    omega
  refine ⟨⟨max r.x 0, max r.y 0, (min (r.x + r.w) (0 + (w : ℤ)) - max r.x 0).toNat,
    (min (r.y + r.h) (0 + (h : ℤ)) - max r.y 0).toNat⟩, ?_, ?_⟩
  · unfold Rect.intersect
    rw [filled, output, if_neg (by decide)]
    dsimp only
    rw [clamp_max_zero range.right, clamp_max_zero range.bottom, if_neg]
    simp only [Bool.or_eq_true, decide_eq_true_eq]
    omega
  · rw [Core.Coverage.contains_iff, Core.Coverage.empty_iff]
    dsimp only
    omega

/-- What a frame reports as damage covers every pixel that is not clear, and is inside the
output. -/
structure Accounts (image : ImageBuffer) (damage : List Rect) (origin : Point) (output : Size) :
    Prop where
  covers : ∀ x y, x < image.width → y < image.height →
    image.pixel x y ≠ some defaultClearColor.bytes →
      ∃ r ∈ damage, contains r ⟨origin.x + x, origin.y + y⟩ = true
  within : ∀ r ∈ damage, Core.Coverage.Within 0 0 output.w output.h r

theorem Shows.accounts (documented : renderer.Documented) (typed : shell.Typed)
    {elements : List E} {config : RenderConfig} {w h : ℕ} {frame : RenderedFrame}
    {kept : OffscreenTarget} (source : config.source = ⟨0, 0, w, h⟩)
    (clear : config.clearColor = defaultClearColor) (plain : config.maxDimension = none)
    (wide : (w : ℤ) ≤ i32Max) (tall : (h : ℤ) ≤ i32Max)
    (shows : Shows renderer (sceneFromElements renderer shell elements) config frame kept) :
    Accounts frame.image frame.damage.simplified ⟨config.region.x, config.region.y⟩ ⟨w, h⟩ := by
  have range : ∀ r ∈ (sceneFromElements renderer shell elements).damage.rects, InRange r := by
    intro r member
    obtain ⟨element, -, rfl, -⟩ := (scene_damage elements r).mp member
    obtain ⟨⟨left, right⟩, top, bottom⟩ := typed element
    obtain ⟨⟨-, narrow⟩, -, low⟩ := documented.size element
    unfold toCoreRect elementBox
    refine ⟨left, right, top, bottom, ?_, ?_⟩ <;> simp only [i32Max, u32Max] at * <;> omega
  have parts : ∀ r, r ∈ frame.damage.rects ↔
      ∃ whole ∈ (sceneFromElements renderer shell elements).damage.rects,
        whole.intersect ⟨0, 0, w, h⟩ = some r := by
    intro r
    rw [shows.damage, Render.Damage.clip_parts, source, List.mem_filterMap]
  have partRange : ∀ r ∈ frame.damage.rects, InRange r ∧ Core.Coverage.Within 0 0 w h r := by
    intro r member
    obtain ⟨whole, there, found⟩ := (parts r).mp member
    exact intersect_output wide tall (range whole there) found
  obtain ⟨covers, within⟩ := simplified_keeps fun r member => (partRange r member).1
  obtain ⟨left, top, width, height, right, bottom⟩ := shows.inside
  rw [source] at right bottom
  dsimp only at right bottom
  have image : picture renderer (sceneFromElements renderer shell elements) config config.region =
      frame.image := by
    have limited := shows.image
    rw [plain] at limited
    exact Option.some.inj limited
  refine ⟨fun x y column row different => ?_, within 0 0 w h fun r member => (partRange r member).2⟩
  rw [← image] at column row different
  have across : x < config.region.w := column
  have down : y < config.region.h := row
  rw [pixel_picture _ _ _ across down] at different
  -- The pixel is covered by a node, whose rectangle is damage.
  have covered : ∃ element ∈ elements,
      (elementBox renderer shell element).covers (config.region.x + x) (config.region.y + y) =
        true := by
    by_contra none
    refine different (congrArg (some ∘ Rgba.bytes) ((painted_uncovered ?_).trans clear))
    intro node member
    obtain ⟨element, there, rfl⟩ := List.mem_map.mp member
    rw [Bool.eq_false_iff]
    intro inside
    refine none ⟨element, there, ?_⟩
    obtain ⟨⟨west, east⟩, north, south⟩ := typed element
    have placeX : clampI32 ((shell.location element).x - 0) = (shell.location element).x := by
      rw [sub_zero]
      exact Core.Coalescing.clamp_inside west east
    have placeY : clampI32 ((shell.location element).y - 0) = (shell.location element).y := by
      rw [sub_zero]
      exact Core.Coalescing.clamp_inside north south
    unfold destination toTarget elementNode at inside
    rw [source] at inside
    dsimp only at inside
    rw [placeX, placeY, covers_iff] at inside
    unfold elementBox
    rw [covers_iff]
    dsimp only at inside ⊢
    omega
  obtain ⟨element, there, inside⟩ := covered
  rw [covers_iff] at inside
  have inRect : contains (toCoreRect (elementBox renderer shell element))
      ⟨config.region.x + x, config.region.y + y⟩ = true := by
    rw [Core.Coverage.contains_iff, Core.Coverage.empty_iff]
    unfold toCoreRect
    dsimp only
    omega
  have damaged : toCoreRect (elementBox renderer shell element) ∈
      (sceneFromElements renderer shell elements).damage.rects :=
    (scene_damage elements _).mpr
      ⟨element, there, rfl, (Core.Coverage.contains_iff.mp inRect).1⟩
  have columns : 0 ≤ config.region.x + x ∧ config.region.x + x < w := by omega
  have rows : 0 ≤ config.region.y + y ∧ config.region.y + y < h := by omega
  obtain ⟨part, found, inPart⟩ := intersect_contains (range _ damaged) inRect columns rows
  exact covers _ (columns.2.trans_le wide) (rows.2.trans_le tall)
    ⟨part, (parts part).mpr ⟨_, damaged, found⟩, inPart⟩

/-- The place of a request's image in the window or the output. -/
def Request.origin (request : Request) : Point :=
  match request.region with
  | some region => ⟨region.x, region.y⟩
  | none => ⟨0, 0⟩

theorem frame_accounts (documented : renderer.Documented) (typed : shell.Typed) {backend : Backend}
    (sound : Sound renderer backend) (elements : List E) {size : Size} {request : Request}
    (fits : (renderConfig size request.region request.maxDimension).Typed)
    (plain : request.maxDimension = none) {frame : CapturedFrame} {after : Backend}
    (ran : renderSceneFrame renderer backend
      ⟨sceneFromElements renderer shell elements,
        renderConfig size request.region request.maxDimension, request.failure,
        request.faults⟩ = some (.ok frame, after)) :
    Accounts frame.image frame.damage request.origin size := by
  unfold renderSceneFrame at ran
  split at ran
  · cases ran
  split at ran
  · cases ran
  next target leasing acquired =>
  have leased := acquire_leased sound acquired
  split at ran
  · cases ran
  · cases ran
  next shown kept rendered =>
  cases ran
  obtain ⟨-, sized, -⟩ := render_scene_ok.mp rendered
  have across : target.w.toNat = size.w := congrArg Size.w sized
  have down : target.h.toNat = size.h := congrArg Size.h sized
  have wide := leased.allocatable.wide
  have tall := leased.allocatable.tall
  have positive := leased.allocatable.width
  have high := leased.allocatable.height
  have shows := render_scene_shows documented wide tall fits rendered
  have accounts := Shows.accounts documented typed rfl rfl plain
    (by omega : (size.w : ℤ) ≤ i32Max) (by omega : (size.h : ℤ) ≤ i32Max) shows
  have origin : request.origin = ⟨(renderConfig size request.region request.maxDimension).region.x,
      (renderConfig size request.region request.maxDimension).region.y⟩ := by
    unfold Request.origin renderConfig RenderConfig.region RenderConfig.new
    cases request.region with
    | none => rfl
    | some region => exact congrArg₂ Point.mk (sub_zero _).symm (sub_zero _).symm
  rw [origin]
  exact accounts

/-- In every reachable state, the damage that a capture at full size reports covers every pixel
that is not clear, and lies inside the output. -/
theorem damage_accounts (documented : renderer.Documented) (typed : shell.Typed)
    (fits : Fits config) {desk : Desk}
    (reached : Reachable (deskMachine renderer shell config) typedLabel desk) {request : Request}
    (inRange : ∀ region, request.region = some region → InRange region)
    (plain : request.maxDimension = none) {frame : CapturedFrame} {after : Backend}
    (served : renderOutput renderer shell desk request = some (.ok frame, after) ∨
      ∃ id, renderWindow renderer shell desk id request = some (.ok frame, after)) :
    Accounts frame.image frame.damage request.origin
      ⟨config.outputWidth, config.outputHeight⟩ := by
  have settled := (settled_inductive documented fits).holds reached
  have typedConfig := typed_config fits inRange request.maxDimension
  rcases served with output | ⟨id, windowed⟩
  · unfold renderOutput outputScene at output
    rw [output_size_eq settled] at output
    split at output
    · exact frame_accounts documented typed settled.sound [] typedConfig plain output
    · exact frame_accounts documented typed settled.sound _ typedConfig plain output
  · rcases render_window_eq shell settled id request with refused | ⟨surface, -, renders⟩
    · rw [refused] at windowed
      cases windowed
    · rw [renders] at windowed
      obtain ⟨⟨answer, last⟩, ran, same⟩ := Option.map_eq_some_iff.mp windowed
      cases answer with
      | error error => cases same
      | ok shown =>
        have accounts := frame_accounts documented typed settled.sound _ typedConfig plain ran
        cases same
        exact accounts

theorem plain_shell_typed : plainShell.Typed := by
  intro element
  dsimp only [plainShell]
  decide

theorem damage_accounts_mapped :
    ∃ frame after,
      renderOutput flat plainShell mappedDesk partRequest = some (.ok frame, after) ∧
        Accounts frame.image frame.damage ⟨1, 0⟩ ⟨3, 2⟩ := by
  have inRange : ∀ region, partRequest.region = some region → InRange region := by
    intro region same
    cases same
    constructor <;> decide
  exact ⟨_, _, rfl, damage_accounts flat_documented plain_shell_typed plain_fits
    mapped_desk_reached inRange rfl (Or.inl rfl)⟩

end ADesk.Compositor.Captures
