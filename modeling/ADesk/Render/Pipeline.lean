/- ADesk/Render/Pipeline
   digest: The render pass of a scene, and the image that is read back from its target. -/

import ADesk.Core.Coverage
import ADesk.Render.Cropping
import ADesk.Render.Scaling

set_option autoImplicit false

namespace ADesk.Server.Failures

/-- The text of an error of the render pipeline. Where the source reports a size or a region as
well, the argument holds it in front of the cause. -/
def RenderError.display : RenderError → String
  | .targetCreation source => "failed to create offscreen render target " ++ source
  | .targetBind source => "failed to bind render target " ++ source
  | .renderFailed source => "renderer failed while drawing the scene: " ++ source
  | .readback source => "readback of region " ++ source
  | .unsupportedFormat format => "unsupported pixel format " ++ format
  | .importFailed reason => "buffer import failed: " ++ reason
  | .unsupportedBuffer reason => "buffer cannot be imported as a texture: " ++ reason
  | .invalidConfig reason => "invalid render configuration: " ++ reason
  | .invalidImage reason => "invalid image data: " ++ reason
  | .encode reason => "image encoding failed: " ++ reason

end ADesk.Server.Failures

namespace ADesk.Render.Pipeline

open ADesk.Core.Coverage (InRange empty_iff)
open ADesk.Core.Geometry
open ADesk.Core.Image
open ADesk.Foundation.Raster
open ADesk.Render.Cropping
open ADesk.Render.Scaling (downscale fitDimensions)
open ADesk.Server.Failures (RenderError)

universe u

/-! ## The renderer -/

/-- A pixel, with its channels in the order of their bytes. -/
structure Rgba where
  r : UInt8
  g : UInt8
  b : UInt8
  a : UInt8
  deriving DecidableEq

def Rgba.bytes (color : Rgba) : List UInt8 := [color.r, color.g, color.b, color.a]

theorem Rgba.length_bytes (color : Rgba) : color.bytes.length = 4 := rfl

/-- A rectangle of the renderer, whose size has a sign too. -/
structure Box where
  x : ℤ
  y : ℤ
  w : ℤ
  h : ℤ
  deriving DecidableEq

namespace Box

def covers (box : Box) (x y : ℤ) : Bool :=
  decide (box.x ≤ x) && decide (x < box.x + box.w) && decide (box.y ≤ y) &&
    decide (y < box.y + box.h)

def overlaps (a b : Box) : Bool :=
  decide (a.x < clampI32 (b.x + b.w)) && decide (b.x < clampI32 (a.x + a.w)) &&
    decide (a.y < clampI32 (b.y + b.h)) && decide (b.y < clampI32 (a.y + a.h))

/-- The part of both, whose edges saturate. -/
def intersection (a b : Box) : Option Box :=
  if a.overlaps b then
    let x := max a.x b.x
    let y := max a.y b.y
    some ⟨x, y, min (clampI32 (a.x + a.w)) (clampI32 (b.x + b.w)) - x,
      min (clampI32 (a.y + a.h)) (clampI32 (b.y + b.h)) - y⟩
  else none

end Box

/-- What the pixels of a target are. -/
abbrev Contents := ℕ → ℕ → Rgba

/-- What `copy_framebuffer` and `map_texture` hand out. -/
structure Mapping where
  width : ℤ
  height : ℤ
  bytes : List UInt8

/-- The renderer that the pipeline is given, with its elements. -/
structure Renderer (E : Type u) where
  /-- The size of `geometry(scale)`. -/
  size : E → ℤ × ℤ
  opaqueRegions : E → List Box
  /-- What a new buffer happens to hold. -/
  fresh : ℕ → Contents
  clear : Rgba → Box → Contents → Contents
  draw : E → Box → Box → List Box → Contents → Contents
  copy : Box → Contents → Mapping
  /-- What a pixel of an element, seen as opaque or not, makes of the pixel beneath it. -/
  shade : E → Bool → ℤ → ℤ → Rgba → Rgba

/-- What the renderer promises of its calls. -/
structure Renderer.Documented {E : Type u} (renderer : Renderer E) : Prop where
  size : ∀ element, (0 ≤ (renderer.size element).1 ∧ (renderer.size element).1 ≤ i32Max) ∧
    0 ≤ (renderer.size element).2 ∧ (renderer.size element).2 ≤ i32Max
  clear : ∀ color box contents (x y : ℕ), box.covers x y = true →
    renderer.clear color box contents x y = color
  -- Drawing is clipped to the damage, which is relative to the destination.
  draw : ∀ element dst damage solid contents (x y : ℕ),
    renderer.draw element dst damage solid contents x y =
      if damage.covers (x - dst.x) (y - dst.y) then
        renderer.shade element (solid.any fun region => region.covers (x - dst.x) (y - dst.y))
          (x - dst.x) (y - dst.y) (contents x y)
      else contents x y
  -- The rows run from top to bottom and may be padded.
  copy : ∀ (x y w h : ℕ) contents, 0 < w → 0 < h →
    (renderer.copy ⟨x, y, w, h⟩ contents).width = w ∧
      (renderer.copy ⟨x, y, w, h⟩ contents).height = h ∧
        ∃ stride, 4 * w ≤ stride ∧ (4 * w ≤ u32Max → stride ≤ u32Max) ∧
          (renderer.copy ⟨x, y, w, h⟩ contents).bytes.length = stride * h ∧
            ∀ row < h, slice (renderer.copy ⟨x, y, w, h⟩ contents).bytes (row * stride) (w * bpp) =
              some (gather w fun column => (contents (x + column) (y + row)).bytes)

/-- A filled rectangle. -/
structure Tile where
  w : ℕ
  h : ℕ
  color : Rgba

/-- A renderer of filled rectangles, whose new buffers hold anything and whose rows are padded. -/
def flat : Renderer Tile where
  size tile := (min tile.w 4096, min tile.h 4096)
  opaqueRegions tile := [⟨0, 0, tile.w, tile.h⟩]
  fresh number := fun x y => ⟨UInt8.ofNat number, UInt8.ofNat x, UInt8.ofNat y, 9⟩
  clear color box contents := fun x y => if box.covers x y then color else contents x y
  draw tile dst damage _ contents := fun x y =>
    if damage.covers (x - dst.x) (y - dst.y) then tile.color else contents x y
  copy box contents := ⟨box.w, box.h, gather box.h.toNat fun row =>
    (gather box.w.toNat fun column =>
      (contents (box.x.toNat + column) (box.y.toNat + row)).bytes) ++ [7, 7, 7]⟩
  shade tile _ _ _ _ := tile.color

theorem flat_documented : flat.Documented where
  size := fun tile => by
    unfold flat i32Max
    dsimp only
    omega
  clear := fun color box contents x y inside => if_pos inside
  draw := fun _ _ _ _ _ _ _ => rfl
  copy := fun x y w h contents some_columns some_rows => by
    have even : ∀ row < h, ((gather w fun column =>
        (contents (x + column) (y + row)).bytes) ++ [7, 7, 7]).length = 4 * w + 3 := by
      intro row _
      rw [List.length_append, length_gather fun _ _ => Rgba.length_bytes _, Nat.mul_comm]
      rfl
    refine ⟨rfl, rfl, 4 * w + 3, Nat.le_add_right _ _, ?_, ?_, ?_⟩
    · unfold u32Max
      omega
    · exact (length_gather even).trans (Nat.mul_comm _ _)
    · intro row low
      have pixels : (gather w fun column => (contents (x + column) (y + row)).bytes).length =
          w * bpp := length_gather fun _ _ => Rgba.length_bytes _
      have place : row * (4 * w + 3) = row * (4 * w + 3) + 0 := rfl
      have whole := slice_whole (gather w fun column => (contents (x + column) (y + row)).bytes)
      rw [pixels] at whole
      unfold flat
      dsimp only [Int.toNat_natCast]
      rw [place, slice_gather even low (by rw [bpp]; omega), slice_append_left (by omega), whole]

/-- The calls of a pass that can fail. -/
inductive Call
  | bind | render | clear | draw (index : ℕ) | finish | wait | copy | map
  deriving DecidableEq

/-- The failures that a pass meets. -/
abbrev Faults := Call → Option String

def attempt (faults : Faults) (call : Call) (error : String → RenderError) :
    Except RenderError Unit :=
  match faults call with
  | none => .ok ()
  | some text => .error (error text)

/-! ## Targets, scenes and configurations -/

def sizeDebug (size : Size) : String := s!"Size \x7b w: {size.w}, h: {size.h} \x7d"

def rectDebug (rect : Rect) : String :=
  s!"Rect \x7b x: {rect.x}, y: {rect.y}, w: {rect.w}, h: {rect.h} \x7d"

/-- A target of the renderer, numbered by its allocation. -/
structure OffscreenTarget where
  number : ℕ
  w : ℤ
  h : ℤ
  contents : Contents

def OffscreenTarget.coreSize (target : OffscreenTarget) : Size := ⟨target.w.toNat, target.h.toNat⟩

def OffscreenTarget.rect (target : OffscreenTarget) : Box := ⟨0, 0, target.w, target.h⟩

/-- An element in scene coordinates, with the damage that is reported of it. -/
structure SceneNode (E : Type u) where
  element : E
  location : Point
  damage : Region

/-- Nodes from the bottom to the top. -/
structure Scene (E : Type u) where
  commitSeq : ℕ
  nodes : List (SceneNode E)

variable {E : Type u}

def Scene.damage (scene : Scene E) : Region :=
  scene.nodes.foldl (fun damage node => damage.extend node.damage) Region.empty

structure RenderConfig where
  source : Rect
  crop : Option Rect
  maxDimension : Option ℕ
  clearColor : Rgba

def defaultClearColor : Rgba := ⟨0, 0, 0, 255⟩

namespace RenderConfig

def new (source : Rect) : RenderConfig := ⟨source, none, none, defaultClearColor⟩

def targetSize (config : RenderConfig) : Size := ⟨config.source.w, config.source.h⟩

/-- The size of the image that is returned. -/
def outputSize (config : RenderConfig) : Option Size :=
  let base := match config.crop with
    | some crop => ⟨crop.w, crop.h⟩
    | none => config.targetSize
  match config.maxDimension with
  | some maxDimension => fitDimensions base maxDimension
  | none => some base

def validate (config : RenderConfig) : Except RenderError Unit :=
  if config.source.isEmpty then .error (.invalidConfig "source rect is empty")
  else match config.crop with
  | none => .ok ()
  | some crop =>
    if crop.isEmpty then .error (.invalidConfig "crop rect is empty")
    else if crop.intersect config.source ≠ some crop then
      .error (.invalidConfig
        s!"crop {rectDebug crop} is not contained in source {rectDebug config.source}")
    else .ok ()

/-- The fields are of the types of the source. -/
structure Typed (config : RenderConfig) : Prop where
  source : InRange config.source
  crop : ∀ rect, config.crop = some rect → InRange rect

end RenderConfig

structure RenderedFrame where
  image : ImageBuffer
  commitSeq : ℕ
  damage : Region

/-! ## The pass -/

def toTarget (point : Point) (source : Rect) : Point :=
  ⟨clampI32 (point.x - source.x), clampI32 (point.y - source.y)⟩

/-- Where a node is drawn. -/
def destination (renderer : Renderer E) (source : Rect) (node : SceneNode E) : Box :=
  let place := toTarget node.location source
  ⟨place.x, place.y, (renderer.size node.element).1, (renderer.size node.element).2⟩

def Box.relativeTo (region dst : Box) : Box :=
  { region with x := region.x - dst.x, y := region.y - dst.y }

/-- Draws the nodes that meet the target, over their whole visible rectangles. -/
def drawNodes (renderer : Renderer E) (faults : Faults) (source : Rect) (target : Box) :
    ℕ → List (SceneNode E) → Contents → Except RenderError Contents
  | _, [], contents => .ok contents
  | index, node :: rest, contents =>
    let dst := destination renderer source node
    match dst.intersection target with
    | none => drawNodes renderer faults source target (index + 1) rest contents
    | some visible => do
      attempt faults (.draw index) .renderFailed
      drawNodes renderer faults source target (index + 1) rest
        (renderer.draw node.element dst (visible.relativeTo dst)
          ((renderer.opaqueRegions node.element).map (·.relativeTo dst)) contents)

/-- Binds the target, clears it and draws the scene. -/
def paint (renderer : Renderer E) (faults : Faults) (target : OffscreenTarget) (scene : Scene E)
    (config : RenderConfig) : Except RenderError Contents := do
  attempt faults .bind fun text => .targetBind s!"{sizeDebug config.targetSize}: {text}"
  attempt faults .render .renderFailed
  attempt faults .clear .renderFailed
  let drawn ← drawNodes renderer faults config.source target.rect 0 scene.nodes
    (renderer.clear config.clearColor target.rect target.contents)
  attempt faults .finish .renderFailed
  attempt faults .wait .renderFailed
  .ok drawn

/-- What is read back of the target. -/
def readRegion (target : OffscreenTarget) (config : RenderConfig) : Box :=
  match config.crop with
  | some crop =>
    let origin := toTarget ⟨crop.x, crop.y⟩ config.source
    ⟨origin.x, origin.y, crop.w, crop.h⟩
  | none => target.rect

def readBack (renderer : Renderer E) (faults : Faults) (region : Box) (contents : Contents) :
    Except RenderError Mapping := do
  let report (text : String) : RenderError :=
    .readback s!"{rectDebug ⟨region.x, region.y, region.w.toNat, region.h.toNat⟩} failed: {text}"
  attempt faults .copy report
  attempt faults .map report
  .ok (renderer.copy region contents)

/-- The image of a mapping, whose rows are as long as its bytes say. -/
def mappedImage (mapping : Mapping) : Option (Except RenderError ImageBuffer) :=
  let width := mapping.width.toNat
  let height := mapping.height.toNat
  let stride := min (mapping.bytes.length / max height 1) u32Max
  imageFromReadback mapping.bytes width height stride false

def limit (image : ImageBuffer) : Option ℕ → Option ImageBuffer
  | some maxDimension => downscale image maxDimension
  | none => some image

/-- Renders the scene into the target and reads it back; `none` where the code panics. -/
def renderScene (renderer : Renderer E) (faults : Faults) (target : OffscreenTarget)
    (scene : Scene E) (config : RenderConfig) :
    Option (Except RenderError (RenderedFrame × OffscreenTarget)) :=
  match config.validate with
  | .error error => some (.error error)
  | .ok () =>
    if target.coreSize ≠ config.targetSize then
      some (.error (.invalidConfig (s!"render target is {sizeDebug target.coreSize} but the " ++
        s!"configuration renders {sizeDebug config.targetSize}; " ++
        "readback and crop math assume target size == source size")))
    else match paint renderer faults target scene config with
    | .error error => some (.error error)
    | .ok contents =>
      match readBack renderer faults (readRegion target config) contents with
      | .error error => some (.error error)
      | .ok mapping =>
        match mappedImage mapping with
        | none => none
        | some (.error error) => some (.error error)
        | some (.ok image) => (limit image config.maxDimension).map fun image =>
          .ok (⟨image, scene.commitSeq, scene.damage.clip config.source⟩, { target with contents })

/-! ## The picture of a scene -/

/-- What a node makes of the pixel beneath it. -/
def layered (renderer : Renderer E) (source : Rect) (x y : ℕ) (under : Rgba) (node : SceneNode E) :
    Rgba :=
  let dst := destination renderer source node
  if dst.covers x y then
    renderer.shade node.element
      (((renderer.opaqueRegions node.element).map (·.relativeTo dst)).any fun region =>
        region.covers (x - dst.x) (y - dst.y)) (x - dst.x) (y - dst.y) under
  else under

/-- A pixel of the whole picture: the nodes over the clear color, from the bottom to the top. -/
def painted (renderer : Renderer E) (scene : Scene E) (config : RenderConfig) (x y : ℕ) : Rgba :=
  scene.nodes.foldl (layered renderer config.source x y) config.clearColor

/-- The part of the target that is asked for. -/
def RenderConfig.region (config : RenderConfig) : Rect :=
  match config.crop with
  | some crop => ⟨crop.x - config.source.x, crop.y - config.source.y, crop.w, crop.h⟩
  | none => ⟨0, 0, config.source.w, config.source.h⟩

/-- The picture of a part of the scene. -/
def picture (renderer : Renderer E) (scene : Scene E) (config : RenderConfig) (region : Rect) :
    ImageBuffer :=
  packed region.w region.h fun row => gather region.w fun column =>
    (painted renderer scene config (region.x.toNat + column) (region.y.toNat + row)).bytes

/-! ## Drawing -/

theorem covers_iff {box : Box} {x y : ℤ} : box.covers x y = true ↔
    (box.x ≤ x ∧ x < box.x + box.w) ∧ box.y ≤ y ∧ y < box.y + box.h := by
  simp only [Box.covers, Bool.and_eq_true, decide_eq_true_eq, and_assoc]

/-- A coordinate of the target is before a saturated edge when it is before the edge. -/
theorem below_clamped {x : ℕ} {w edge : ℤ} (wide : w ≤ i32Max) (column : x < w) :
    (x : ℤ) < clampI32 edge ↔ (x : ℤ) < edge := by
  unfold clampI32
  simp only [i32Max, i32Min] at *
  split_ifs <;> omega

/-- Inside the target, the part that is drawn is the node's rectangle. -/
theorem intersection_covers (dst : Box) {w h : ℤ} (wide : w ≤ i32Max) (tall : h ≤ i32Max)
    {x y : ℕ} (column : x < w) (row : y < h) :
    (∀ visible, dst.intersection ⟨0, 0, w, h⟩ = some visible →
      visible.covers x y = dst.covers x y) ∧
    (dst.intersection ⟨0, 0, w, h⟩ = none → dst.covers x y = false) := by
  have acrossDst : (x : ℤ) < clampI32 (dst.x + dst.w) ↔ (x : ℤ) < dst.x + dst.w :=
    below_clamped wide column
  have downDst : (y : ℤ) < clampI32 (dst.y + dst.h) ↔ (y : ℤ) < dst.y + dst.h :=
    below_clamped tall row
  have acrossTarget : (x : ℤ) < clampI32 (0 + w) ↔ (x : ℤ) < 0 + w := below_clamped wide column
  have downTarget : (y : ℤ) < clampI32 (0 + h) ↔ (y : ℤ) < 0 + h := below_clamped tall row
  constructor
  · intro visible found
    unfold Box.intersection at found
    split at found
    · cases found
      rw [Bool.eq_iff_iff]
      simp only [Box.covers, Bool.and_eq_true, decide_eq_true_eq]
      omega
    · cases found
  · intro apart
    unfold Box.intersection at apart
    split at apart
    · cases apart
    · next disjoint =>
      rw [Bool.eq_false_iff]
      intro inside
      obtain ⟨⟨left, right⟩, top, bottom⟩ := covers_iff.mp inside
      simp only [Box.overlaps, Bool.and_eq_true, decide_eq_true_eq] at disjoint
      omega

theorem relative_covers (box dst : Box) (x y : ℤ) :
    (box.relativeTo dst).covers (x - dst.x) (y - dst.y) = box.covers x y := by
  rw [Bool.eq_iff_iff, covers_iff, covers_iff]
  unfold Box.relativeTo
  dsimp only
  omega

variable {renderer : Renderer E}

/-- Whether the nodes can be drawn does not depend on what is beneath them. -/
theorem draw_nodes_spec (documented : renderer.Documented) (faults : Faults) (source : Rect)
    {w h : ℤ} (wide : w ≤ i32Max) (tall : h ≤ i32Max) (nodes : List (SceneNode E)) (index : ℕ) :
    (∃ error, ∀ contents,
      drawNodes renderer faults source ⟨0, 0, w, h⟩ index nodes contents = .error error) ∨
    ∀ contents, ∃ drawn,
      drawNodes renderer faults source ⟨0, 0, w, h⟩ index nodes contents = .ok drawn ∧
        ∀ x y : ℕ, x < w → y < h →
          drawn x y = nodes.foldl (layered renderer source x y) (contents x y) := by
  induction nodes generalizing index with
  | nil => exact Or.inr fun contents => ⟨contents, rfl, fun _ _ _ _ => rfl⟩
  | cons node rest ih =>
    have here (x y : ℕ) (column : x < w) (row : y < h) :=
      intersection_covers (destination renderer source node) wide tall column row
    rcases found : (destination renderer source node).intersection ⟨0, 0, w, h⟩ with _ | visible
    · -- A node outside the target is passed over, and covers none of its pixels.
      have skipped : ∀ contents,
          drawNodes renderer faults source ⟨0, 0, w, h⟩ index (node :: rest) contents =
            drawNodes renderer faults source ⟨0, 0, w, h⟩ (index + 1) rest contents := by
        intro contents
        simp only [drawNodes, found]
      rcases ih (index + 1) with ⟨error, fails⟩ | draws
      · exact Or.inl ⟨error, fun contents => (skipped contents).trans (fails contents)⟩
      · refine Or.inr fun contents => ?_
        obtain ⟨drawn, ran, pixels⟩ := draws contents
        refine ⟨drawn, (skipped contents).trans ran, fun x y column row => ?_⟩
        rw [pixels x y column row, List.foldl_cons]
        unfold layered
        dsimp only
        rw [(here x y column row).2 found, if_neg Bool.false_ne_true]
    · have drawing : ∀ contents,
          drawNodes renderer faults source ⟨0, 0, w, h⟩ index (node :: rest) contents =
            (attempt faults (.draw index) .renderFailed >>= fun _ =>
              drawNodes renderer faults source ⟨0, 0, w, h⟩ (index + 1) rest
                (renderer.draw node.element (destination renderer source node)
                  (visible.relativeTo (destination renderer source node))
                  ((renderer.opaqueRegions node.element).map
                    (·.relativeTo (destination renderer source node))) contents)) := by
        intro contents
        simp only [drawNodes, found]
      rcases fault : attempt faults (.draw index) .renderFailed with error | done
      · refine Or.inl ⟨error, fun contents => ?_⟩
        rw [drawing, fault]
        rfl
      rcases ih (index + 1) with ⟨error, fails⟩ | draws
      · refine Or.inl ⟨error, fun contents => ?_⟩
        rw [drawing, fault]
        exact fails _
      · refine Or.inr fun contents => ?_
        obtain ⟨drawn, ran, pixels⟩ := draws (renderer.draw node.element
          (destination renderer source node)
          (visible.relativeTo (destination renderer source node))
          ((renderer.opaqueRegions node.element).map
            (·.relativeTo (destination renderer source node))) contents)
        refine ⟨drawn, ?_, fun x y column row => ?_⟩
        · rw [drawing, fault]
          exact ran
        · rw [pixels x y column row, List.foldl_cons, documented.draw, relative_covers,
            (here x y column row).1 visible found]
          rfl

/-- What was in the target before does not matter: it is cleared first. -/
theorem paint_spec (documented : renderer.Documented) (faults : Faults) (scene : Scene E)
    (config : RenderConfig) {w h : ℤ} (wide : w ≤ i32Max) (tall : h ≤ i32Max) :
    (∃ error, ∀ number contents,
      paint renderer faults ⟨number, w, h, contents⟩ scene config = .error error) ∨
    ∀ number contents, ∃ drawn,
      paint renderer faults ⟨number, w, h, contents⟩ scene config = .ok drawn ∧
        ∀ x y : ℕ, x < w → y < h → drawn x y = painted renderer scene config x y := by
  unfold paint
  rcases attempt faults .bind fun text =>
    .targetBind s!"{sizeDebug config.targetSize}: {text}" with error | _
  · exact Or.inl ⟨error, fun _ _ => rfl⟩
  rcases attempt faults .render .renderFailed with error | _
  · exact Or.inl ⟨error, fun _ _ => rfl⟩
  rcases attempt faults .clear .renderFailed with error | _
  · exact Or.inl ⟨error, fun _ _ => rfl⟩
  rcases draw_nodes_spec documented faults config.source wide tall scene.nodes 0 with
    ⟨error, fails⟩ | draws
  · refine Or.inl ⟨error, fun number contents => ?_⟩
    simp only [OffscreenTarget.rect, fails]
    rfl
  rcases attempt faults .finish .renderFailed with error | _
  · refine Or.inl ⟨error, fun number contents => ?_⟩
    obtain ⟨drawn, ran, -⟩ := draws (renderer.clear config.clearColor ⟨0, 0, w, h⟩ contents)
    simp only [OffscreenTarget.rect, ran]
    rfl
  rcases attempt faults .wait .renderFailed with error | _
  · refine Or.inl ⟨error, fun number contents => ?_⟩
    obtain ⟨drawn, ran, -⟩ := draws (renderer.clear config.clearColor ⟨0, 0, w, h⟩ contents)
    simp only [OffscreenTarget.rect, ran]
    rfl
  refine Or.inr fun number contents => ?_
  obtain ⟨drawn, ran, pixels⟩ := draws (renderer.clear config.clearColor ⟨0, 0, w, h⟩ contents)
  refine ⟨drawn, ?_, fun x y column row => ?_⟩
  · simp only [OffscreenTarget.rect, ran]
    rfl
  · have inside : (⟨0, 0, w, h⟩ : Box).covers x y = true := by
      rw [covers_iff]
      dsimp only
      omega
    rw [pixels x y column row, documented.clear _ _ _ _ _ inside]
    rfl

/-! ## Reading back -/

theorem packed_congr {width height : ℕ} {row other : ℕ → List UInt8}
    (same : ∀ index < height, row index = other index) :
    packed width height row = packed width height other := by
  unfold packed gather
  rw [List.flatMap_congr fun index member => same index (List.mem_range.mp member)]

theorem gather_congr {count : ℕ} {row other : ℕ → List UInt8}
    (same : ∀ index < count, row index = other index) : gather count row = gather count other := by
  unfold gather
  rw [List.flatMap_congr fun index member => same index (List.mem_range.mp member)]

theorem length_pixels (width : ℕ) (pixel : ℕ → Rgba) :
    (gather width fun column => (pixel column).bytes).length = width * bpp :=
  length_gather fun _ _ => rfl

/-- Rows that are shorter than their pixels are refused, whatever is in them. -/
theorem image_from_readback_narrow {width height : ℕ} (stride : ℕ) (some_columns : 0 < width)
    (some_rows : 0 < height) (narrow : stride < width * bpp) (flipped : Bool) :
    ∃ error, ∀ data, imageFromReadback data width height stride flipped = some (.error error) := by
  unfold imageFromReadback
  simp only [if_neg (show ¬(width = 0 ∨ height = 0) by omega), if_pos narrow]
  exact ⟨_, fun _ => rfl⟩

/-- The padding of the rows is not seen: the image is made of the pixels that were asked for. -/
theorem mapped_image_spec (documented : renderer.Documented) (x y : ℕ) {w h : ℕ}
    (some_columns : 0 < w) (some_rows : 0 < h) (low : h ≤ u32Max) :
    (4 * w ≤ u32Max ∧ ∀ contents, mappedImage (renderer.copy ⟨x, y, w, h⟩ contents) =
      some (.ok (packed w h fun row => gather w fun column =>
        (contents (x + column) (y + row)).bytes))) ∨
    (u32Max < 4 * w ∧ ∃ error, ∀ contents,
      mappedImage (renderer.copy ⟨x, y, w, h⟩ contents) = some (.error error)) := by
  have high : max h 1 = h := by omega
  rcases Nat.lt_or_ge u32Max (4 * w) with wide | narrow
  · obtain ⟨error, refused⟩ :=
      image_from_readback_narrow u32Max some_columns some_rows (by rw [bpp]; omega) false
    refine Or.inr ⟨wide, error, fun contents => ?_⟩
    obtain ⟨width, height, stride, least, -, length, -⟩ :=
      documented.copy x y w h contents some_columns some_rows
    unfold mappedImage
    simp only [width, height, Int.toNat_natCast, length, high, Nat.mul_div_cancel _ some_rows]
    rw [Nat.min_eq_right (by omega), refused]
  · refine Or.inl ⟨narrow, fun contents => ?_⟩
    obtain ⟨width, height, stride, least, most, length, rows⟩ :=
      documented.copy x y w h contents some_columns some_rows
    have fits := most narrow
    let image : ImageBuffer :=
      ⟨w, h, stride, .rgba8, (renderer.copy ⟨x, y, w, h⟩ contents).bytes⟩
    have sound : WellFormed image := {
      width := by dsimp only [image]; omega
      height := low
      stride := fits
      row := least
      full := Nat.le_of_eq length.symm }
    obtain ⟨row, read, -, slices⟩ := image_from_readback_packed sound some_columns some_rows false
    unfold mappedImage
    simp only [width, height, Int.toNat_natCast, length, high, Nat.mul_div_cancel _ some_rows,
      Nat.min_eq_left fits]
    refine read.trans (congrArg (some ∘ Except.ok) (packed_congr fun index inside => ?_))
    have there := slices index inside
    have given := rows index inside
    unfold sourceRow at there
    rw [if_neg Bool.false_ne_true] at there
    exact Option.some.inj (there.symm.trans given)

theorem packed_well_formed {width height : ℕ} {row : ℕ → List UInt8}
    (even : ∀ index < height, (row index).length = width * bpp) (narrow : 4 * width ≤ u32Max)
    (low : height ≤ u32Max) : WellFormed (packed width height row) where
  width := by unfold packed; dsimp only; omega
  height := low
  stride := narrow
  row := Nat.le_refl _
  full := by
    have tight := packed_tight even
    rw [tight.full, tight.row]

/-- Scaling never fails on an image with pixels, and has the size that is announced. -/
theorem limit_spec {image : ImageBuffer} (sound : WellFormed image) (width : 0 < image.width)
    (height : 0 < image.height) (maxDimension : Option ℕ) :
    ∃ out, limit image maxDimension = some out ∧
      (match maxDimension with
        | some bound => fitDimensions image.size bound
        | none => some image.size) = some out.size := by
  cases maxDimension with
  | none => exact ⟨image, rfl, rfl⟩
  | some bound =>
    dsimp only [limit]
    by_cases plain : bound = 0 ∨ max image.width image.height ≤ bound
    · refine ⟨image, ?_, ?_⟩
      · unfold downscale
        dsimp only
        rw [if_pos (by omega)]
      · unfold fitDimensions ImageBuffer.size
        dsimp only
        rw [if_pos (by omega)]
    · have positive : 0 < bound := by omega
      have small : bound < max image.width image.height := by omega
      have fits : fitDimensions image.size bound =
          some ⟨Scaling.scaled (max image.width image.height) bound image.width,
            Scaling.scaled (max image.width image.height) bound image.height⟩ :=
        Scaling.fit_dimensions_eq positive width height small
      obtain ⟨some_columns, narrower⟩ := Scaling.scaled_bounds small width
      obtain ⟨some_rows, lower⟩ := Scaling.scaled_bounds small height
      exact ⟨_, Scaling.downscale_eq sound positive width height small fits
        ⟨some_columns, some_rows, narrower, lower⟩, fits⟩

/-! ## The region of a valid configuration -/

/-- A part of the source that has pixels. -/
structure Inside (region source : Rect) : Prop where
  left : 0 ≤ region.x
  top : 0 ≤ region.y
  width : 0 < region.w
  height : 0 < region.h
  right : region.x + region.w ≤ source.w
  bottom : region.y + region.h ≤ source.h

theorem Inside.low {region source : Rect} (inside : Inside region source)
    (tall : source.h ≤ i32Max) : region.h ≤ u32Max := by
  have bottom := inside.bottom
  have top := inside.top
  unfold i32Max at tall
  unfold u32Max
  omega

theorem validated {config : RenderConfig} (typed : config.Typed) (valid : config.validate = .ok ()) :
    (0 < config.source.w ∧ 0 < config.source.h) ∧ Inside config.region config.source := by
  unfold RenderConfig.validate at valid
  split at valid
  · cases valid
  next filled =>
  obtain ⟨width, height⟩ := empty_iff.mp (eq_false_of_ne_true filled)
  refine ⟨⟨width, height⟩, ?_⟩
  unfold RenderConfig.region
  cases cropped : config.crop with
  | none => exact ⟨Int.le_refl _, Int.le_refl _, width, height, by simp, by simp⟩
  | some crop =>
    rw [cropped] at valid
    dsimp only at valid ⊢
    split at valid
    · cases valid
    next some_pixels =>
    split at valid
    · cases valid
    next contained =>
    obtain ⟨columns, rows⟩ := empty_iff.mp (eq_false_of_ne_true some_pixels)
    have range := typed.crop crop cropped
    have sourceRange := typed.source
    have same := not_not.mp contained
    unfold Rect.intersect at same
    split at same
    · cases same
    · dsimp only at same
      split at same
      · cases same
      · have x : clampI32 (max crop.x config.source.x) = max crop.x config.source.x :=
          Core.Coalescing.clamp_inside (by have := range.left; omega)
            (by have := range.right; have := sourceRange.right; omega)
        have y : clampI32 (max crop.y config.source.y) = max crop.y config.source.y :=
          Core.Coalescing.clamp_inside (by have := range.top; omega)
            (by have := range.bottom; have := sourceRange.bottom; omega)
        rw [x, y] at same
        have fields := Option.some.inj same
        have left := congrArg Rect.x fields
        have top := congrArg Rect.y fields
        have wide := congrArg Rect.w fields
        have high := congrArg Rect.h fields
        dsimp only at left top wide high
        constructor <;> dsimp only <;> omega

/-- What is read back is the region, whose place does not saturate. -/
theorem read_region_eq {config : RenderConfig} (inside : Inside config.region config.source)
    (wide : config.source.w ≤ i32Max) (tall : config.source.h ≤ i32Max) (number : ℕ)
    (contents : Contents) :
    readRegion ⟨number, config.source.w, config.source.h, contents⟩ config =
      ⟨config.region.x.toNat, config.region.y.toNat, config.region.w, config.region.h⟩ := by
  obtain ⟨left, top, width, height, right, bottom⟩ := inside
  unfold readRegion
  unfold RenderConfig.region at *
  cases cropped : config.crop with
  | none => rfl
  | some crop =>
    rw [cropped] at left top right bottom
    dsimp only [toTarget] at *
    have x : clampI32 (crop.x - config.source.x) = crop.x - config.source.x :=
      Core.Coalescing.clamp_inside (by unfold i32Min; omega) (by omega)
    have y : clampI32 (crop.y - config.source.y) = crop.y - config.source.y :=
      Core.Coalescing.clamp_inside (by unfold i32Min; omega) (by omega)
    rw [x, y, Int.toNat_of_nonneg left, Int.toNat_of_nonneg top]

theorem picture_well_formed (scene : Scene E) (config : RenderConfig) {region : Rect}
    (narrow : 4 * region.w ≤ u32Max) (low : region.h ≤ u32Max) :
    WellFormed (picture renderer scene config region) :=
  packed_well_formed (fun _ _ => length_pixels _ _) narrow low

/-- The image that is read back is the picture of the region, or is too wide for a buffer. -/
theorem read_picture (documented : renderer.Documented) (scene : Scene E) {config : RenderConfig}
    (inside : Inside config.region config.source) (wide : config.source.w ≤ i32Max)
    (tall : config.source.h ≤ i32Max) :
    (4 * config.region.w ≤ u32Max ∧ ∀ number before drawn,
      (∀ x y : ℕ, x < config.source.w → y < config.source.h →
        drawn x y = painted renderer scene config x y) →
      mappedImage (renderer.copy
        (readRegion ⟨number, config.source.w, config.source.h, before⟩ config) drawn) =
          some (.ok (picture renderer scene config config.region))) ∨
    (u32Max < 4 * config.region.w ∧ ∃ error, ∀ number before drawn,
      mappedImage (renderer.copy
        (readRegion ⟨number, config.source.w, config.source.h, before⟩ config) drawn) =
          some (.error error)) := by
  have low := inside.low tall
  rcases mapped_image_spec documented config.region.x.toNat config.region.y.toNat
    inside.width inside.height low with ⟨narrow, read⟩ | ⟨broad, error, read⟩
  · refine Or.inl ⟨narrow, fun number before drawn pixels => ?_⟩
    rw [read_region_eq inside wide tall, read drawn]
    refine congrArg (some ∘ Except.ok) (packed_congr fun row below => gather_congr fun column =>
      fun across => ?_)
    obtain ⟨left, top, -, -, right, bottom⟩ := inside
    rw [pixels _ _ (by omega) (by omega)]
  · refine Or.inr ⟨broad, error, fun number before drawn => ?_⟩
    rw [read_region_eq inside wide tall, read drawn]

/-! ## The whole pass -/

theorem read_back_ok {faults : Faults} {region : Box} {contents : Contents} {mapping : Mapping} :
    readBack renderer faults region contents = .ok mapping ↔
      faults .copy = none ∧ faults .map = none ∧ mapping = renderer.copy region contents := by
  unfold readBack attempt
  rcases faults .copy with _ | text
  · rcases faults .map with _ | text
    · simp [bind, Except.bind, eq_comm]
    · simp [bind, Except.bind]
  · simp [bind, Except.bind]

theorem read_back_spec (faults : Faults) (region : Box) :
    (∃ error, ∀ contents, readBack renderer faults region contents = .error error) ∨
      faults .copy = none ∧ faults .map = none := by
  unfold readBack attempt
  rcases faults .copy with _ | text
  · rcases faults .map with _ | text
    · exact Or.inr ⟨rfl, rfl⟩
    · exact Or.inl ⟨_, fun _ => rfl⟩
  · exact Or.inl ⟨_, fun _ => rfl⟩

/-- What it takes for a scene to be rendered. -/
theorem render_scene_ok {faults : Faults} {target : OffscreenTarget} {scene : Scene E}
    {config : RenderConfig} {frame : RenderedFrame} {kept : OffscreenTarget} :
    renderScene renderer faults target scene config = some (.ok (frame, kept)) ↔
      config.validate = .ok () ∧ target.coreSize = config.targetSize ∧
        ∃ contents, paint renderer faults target scene config = .ok contents ∧
          faults .copy = none ∧ faults .map = none ∧ ∃ image,
            mappedImage (renderer.copy (readRegion target config) contents) = some (.ok image) ∧
              ∃ out, limit image config.maxDimension = some out ∧
                frame = ⟨out, scene.commitSeq, scene.damage.clip config.source⟩ ∧
                  kept = { target with contents } := by
  unfold renderScene
  rcases config.validate with error | _
  · simp
  dsimp only
  by_cases size : target.coreSize = config.targetSize
  swap
  · simp [size]
  rw [if_neg (not_not.mpr size)]
  rcases paint renderer faults target scene config with error | contents
  · simp
  dsimp only
  cases read : readBack renderer faults (readRegion target config) contents with
  | error error =>
    have none : ¬ (faults .copy = none ∧ faults .map = none) := by
      rintro ⟨copy, map⟩
      have ok : readBack renderer faults (readRegion target config) contents = .ok _ :=
        read_back_ok.mpr ⟨copy, map, rfl⟩
      rw [ok] at read
      cases read
    simp only [Option.some.injEq, reduceCtorEq, Except.ok.injEq, false_iff]
    rintro ⟨-, -, _, -, copy, map, -⟩
    exact none ⟨copy, map⟩
  | ok mapping =>
    obtain ⟨copy, map, same⟩ := read_back_ok.mp read
    subst same
    simp only [true_and, Except.ok.injEq, exists_eq_left', copy, map, size]
    rcases mappedImage (renderer.copy (readRegion target config) contents) with _ | error | image
    · simp
    · simp
    · simp only [Option.some.injEq, Except.ok.injEq, exists_eq_left', Option.map_eq_some_iff,
        Prod.mk.injEq]
      exact exists_congr fun out => and_congr Iff.rfl (and_congr eq_comm eq_comm)

/-- A pass of the right size does not depend on the target that it is given: with one target it
fails as with any other, and without a failure every target gets the same frame. -/
theorem render_scene_spec (documented : renderer.Documented) (faults : Faults) (scene : Scene E)
    {config : RenderConfig} (typed : config.Typed) (wide : config.source.w ≤ i32Max)
    (tall : config.source.h ≤ i32Max) :
    (∃ error, ∀ number contents,
      renderScene renderer faults ⟨number, config.source.w, config.source.h, contents⟩ scene
        config = some (.error error)) ∨
    ∃ frame, ∀ number contents, ∃ drawn,
      renderScene renderer faults ⟨number, config.source.w, config.source.h, contents⟩ scene
        config = some (.ok (frame, ⟨number, config.source.w, config.source.h, drawn⟩)) := by
  have size : ∀ number contents,
      (⟨number, config.source.w, config.source.h, contents⟩ : OffscreenTarget).coreSize =
        config.targetSize := fun _ _ => rfl
  rcases valid : config.validate with error | _
  · refine Or.inl ⟨error, fun number contents => ?_⟩
    unfold renderScene
    rw [valid]
  obtain ⟨-, inside⟩ := validated typed valid
  rcases paint_spec documented faults scene config wide tall with ⟨error, fails⟩ | paints
  · refine Or.inl ⟨error, fun number contents => ?_⟩
    unfold renderScene
    rw [valid, if_neg (not_not.mpr (size number contents)), fails]
  rcases read_back_spec faults ⟨config.region.x.toNat,
    config.region.y.toNat, config.region.w, config.region.h⟩ with ⟨error, fails⟩ | ⟨copy, map⟩
  · refine Or.inl ⟨error, fun number contents => ?_⟩
    obtain ⟨drawn, ran, -⟩ := paints number contents
    unfold renderScene
    rw [valid, if_neg (not_not.mpr (size number contents)), ran]
    dsimp only
    rw [read_region_eq inside wide tall, fails drawn]
  have low := inside.low tall
  rcases read_picture documented scene inside wide tall with ⟨narrow, read⟩ | ⟨-, error, read⟩
  · obtain ⟨out, limited, -⟩ := limit_spec
      (picture_well_formed scene config narrow low) inside.width
      inside.height config.maxDimension
    refine Or.inr ⟨⟨out, scene.commitSeq, scene.damage.clip config.source⟩,
      fun number contents => ?_⟩
    obtain ⟨drawn, ran, pixels⟩ := paints number contents
    refine ⟨drawn, render_scene_ok.mpr ⟨valid, size number contents, drawn, ran, copy, map, _,
      read number contents drawn fun x y column row => pixels x y (by omega) (by omega),
      out, limited, rfl, rfl⟩⟩
  · refine Or.inl ⟨error, fun number contents => ?_⟩
    obtain ⟨drawn, ran, -⟩ := paints number contents
    unfold renderScene
    rw [valid, if_neg (not_not.mpr (size number contents)), ran]
    dsimp only
    rw [read_back_ok.mpr ⟨copy, map, rfl⟩]
    dsimp only
    rw [read number contents drawn]

/-! ## What a frame shows -/

/-- A pixel of a picture is that of the scene at its place. -/
theorem pixel_picture (scene : Scene E) (config : RenderConfig) (region : Rect) {x y : ℕ}
    (column : x < region.w) (row : y < region.h) :
    (picture renderer scene config region).pixel x y =
      some (painted renderer scene config (region.x.toNat + x) (region.y.toNat + y)).bytes := by
  have place : y * (4 * region.w) + x * 4 = y * (region.w * bpp) + (x * 4 + 0) := by
    rw [bpp]
    ring
  rw [pixel_eq column row]
  unfold picture packed
  dsimp only
  rw [place, slice_gather (fun _ _ => length_pixels _ _) row (by rw [bpp]; omega),
    slice_gather (fun _ _ => Rgba.length_bytes _) column (by omega)]
  exact slice_whole _

/-- What a frame that was rendered shows, and what is left in its target. -/
structure Shows (renderer : Renderer E) (scene : Scene E) (config : RenderConfig)
    (frame : RenderedFrame) (kept : OffscreenTarget) : Prop where
  image : limit (picture renderer scene config config.region) config.maxDimension =
    some frame.image
  size : config.outputSize = some frame.image.size
  narrow : 4 * config.region.w ≤ u32Max
  inside : Inside config.region config.source
  commitSeq : frame.commitSeq = scene.commitSeq
  damage : frame.damage = scene.damage.clip config.source
  kept : kept.coreSize = config.targetSize ∧ ∀ x y : ℕ, x < config.source.w → y < config.source.h →
    kept.contents x y = painted renderer scene config x y

/-- A target of the size of the source, when its own size is an `i32` as it is. -/
theorem sized_target {config : RenderConfig} (width : 0 < config.source.w)
    (height : 0 < config.source.h) {target : OffscreenTarget}
    (size : target.coreSize = config.targetSize) :
    target = ⟨target.number, config.source.w, config.source.h, target.contents⟩ := by
  obtain ⟨number, w, h, contents⟩ := target
  unfold OffscreenTarget.coreSize RenderConfig.targetSize at size
  obtain ⟨across, down⟩ := Size.mk.inj size
  dsimp only at across down ⊢
  have wide : w = config.source.w := by omega
  have tall : h = config.source.h := by omega
  rw [wide, tall]

theorem render_scene_shows (documented : renderer.Documented) {faults : Faults}
    {target : OffscreenTarget} (wide : target.w ≤ i32Max) (tall : target.h ≤ i32Max)
    {scene : Scene E} {config : RenderConfig} (typed : config.Typed) {frame : RenderedFrame}
    {kept : OffscreenTarget}
    (rendered : renderScene renderer faults target scene config = some (.ok (frame, kept))) :
    Shows renderer scene config frame kept := by
  obtain ⟨valid, size, drawn, ran, -, -, image, read, out, limited, rfl, rfl⟩ :=
    render_scene_ok.mp rendered
  obtain ⟨⟨width, height⟩, inside⟩ := validated typed valid
  have same := sized_target width height size
  rw [same] at wide tall ran read
  dsimp only at wide tall
  have pixels : ∀ x y : ℕ, x < config.source.w → y < config.source.h →
      drawn x y = painted renderer scene config x y := by
    rcases paint_spec documented faults scene config wide tall with ⟨error, fails⟩ | paints
    · rw [fails] at ran
      cases ran
    · obtain ⟨contents, again, pixels⟩ := paints target.number target.contents
      rw [again] at ran
      cases ran
      exact fun x y column row => pixels x y (by omega) (by omega)
  have low := inside.low tall
  rcases read_picture documented scene inside wide tall with ⟨narrow, reads⟩ | ⟨-, error, fails⟩
  · rw [reads _ _ _ pixels] at read
    cases read
    obtain ⟨again, same, fits⟩ := limit_spec
      (picture_well_formed scene config narrow low) inside.width inside.height config.maxDimension
    rw [same] at limited
    cases limited
    refine ⟨same, ?_, narrow, inside, rfl, rfl, size, pixels⟩
    rw [← fits]
    unfold RenderConfig.outputSize RenderConfig.region RenderConfig.targetSize
    rcases config.crop with _ | crop
    · rcases config.maxDimension with _ | bound <;> rfl
    · rcases config.maxDimension with _ | bound <;> rfl
  · rw [fails] at read
    cases read

/-! ## Cropping while reading back -/

/-- Cropping the whole picture gives the picture of the region. -/
theorem crop_picture (scene : Scene E) (config : RenderConfig) {region : Rect}
    (inside : Inside region config.source) (narrow : 4 * config.source.w ≤ u32Max)
    (low : config.source.h ≤ i32Max) :
    crop (picture renderer scene config ⟨0, 0, config.source.w, config.source.h⟩) region =
      some (picture renderer scene config region) := by
  obtain ⟨left, top, width, height, right, bottom⟩ := inside
  have sound : WellFormed
      (picture renderer scene config ⟨0, 0, config.source.w, config.source.h⟩) := by
    refine picture_well_formed scene config narrow ?_
    unfold i32Max at low
    unfold u32Max
    dsimp only
    omega
  have clipped : region.intersect
      (picture renderer scene config ⟨0, 0, config.source.w, config.source.h⟩).rect =
        some region := by
    have x : clampI32 (max region.x 0) = region.x := by
      rw [max_eq_left left]
      exact Core.Coalescing.clamp_inside (by unfold i32Min; omega)
        (by unfold i32Max u32Max at *; omega)
    have y : clampI32 (max region.y 0) = region.y := by
      rw [max_eq_left top]
      exact Core.Coalescing.clamp_inside (by unfold i32Min; omega) (by unfold i32Max at *; omega)
    have w : (min (region.x + region.w) (0 + (config.source.w : ℤ)) - max region.x 0).toNat =
        region.w := by omega
    have h : (min (region.y + region.h) (0 + (config.source.h : ℤ)) - max region.y 0).toNat =
        region.h := by omega
    have filled : (region.isEmpty || Rect.isEmpty ⟨0, 0, config.source.w, config.source.h⟩) =
        false := by
      rw [Bool.or_eq_false_iff, empty_iff, empty_iff]
      dsimp only
      omega
    unfold ImageBuffer.rect picture packed Rect.intersect
    dsimp only
    rw [filled, if_neg Bool.false_ne_true, x, y, w, h, if_neg]
    simp only [Bool.or_eq_true, decide_eq_true_eq]
    omega
  unfold crop
  rw [clipped]
  dsimp only
  split
  · next whole =>
    have same : region = ⟨0, 0, config.source.w, config.source.h⟩ := whole.1
    rw [← same]
  · obtain ⟨row, copied, rows⟩ := @crop_rows_packed _ sound region
      (by unfold picture packed; dsimp only; omega) (by unfold picture packed; dsimp only; omega)
    rw [copied]
    refine congrArg some (packed_congr fun index below => ?_)
    have here := rows index below
    have place : (region.y.toNat + index) *
        (picture renderer scene config ⟨0, 0, config.source.w, config.source.h⟩).stride +
          region.x.toNat * bpp =
        (region.y.toNat + index) * (config.source.w * bpp) + region.x.toNat * bpp := by
      unfold picture packed
      dsimp only
      rw [bpp]
      ring
    have rowsPacked : slice (picture renderer scene config
        ⟨0, 0, config.source.w, config.source.h⟩).data
        ((region.y.toNat + index) * (config.source.w * bpp) + region.x.toNat * bpp)
        (region.w * bpp) = some (gather region.w fun column => (painted renderer scene config
          (region.x.toNat + column) (region.y.toNat + index)).bytes) := by
      unfold picture packed
      dsimp only
      rw [slice_gather (fun _ _ => length_pixels _ _) (by omega) (by rw [bpp]; omega)]
      simp only [Int.toNat_zero, Nat.zero_add]
      exact slice_rows (fun _ _ => Rgba.length_bytes _) (by omega)
    rw [place, rowsPacked] at here
    exact (Option.some.inj here).symm

/-- What is left of a pass when only a part of the source is read back. -/
structure Cropped (renderer : Renderer E) (faults : Faults) (target : OffscreenTarget)
    (scene : Scene E) (config : RenderConfig) (whole : RenderedFrame) (kept : OffscreenTarget)
    (out : ImageBuffer) : Prop where
  image : whole.image = picture renderer scene config ⟨0, 0, config.source.w, config.source.h⟩
  inside : Inside config.region config.source
  narrow : 4 * config.source.w ≤ u32Max
  low : config.source.h ≤ i32Max
  limited : limit (picture renderer scene config config.region) config.maxDimension = some out
  renders : renderScene renderer faults target scene config =
    some (.ok (⟨out, whole.commitSeq, whole.damage⟩, kept))

theorem rendered_crop (documented : renderer.Documented) {faults : Faults} {target : OffscreenTarget}
    (wide : target.w ≤ i32Max) (tall : target.h ≤ i32Max) {scene : Scene E} {config : RenderConfig}
    (typed : config.Typed) (valid : config.validate = .ok ()) {whole : RenderedFrame}
    {kept : OffscreenTarget}
    (rendered : renderScene renderer faults target scene
      { config with crop := none, maxDimension := none } = some (.ok (whole, kept))) :
    ∃ out, Cropped renderer faults target scene config whole kept out := by
  have plain : RenderConfig.Typed { config with crop := none, maxDimension := none } :=
    ⟨typed.source, fun rect none => by cases none⟩
  have shown := render_scene_shows documented wide tall plain rendered
  obtain ⟨-, size, drawn, ran, copy, map, -, -, -, -, -, left⟩ := render_scene_ok.mp rendered
  obtain ⟨⟨width, height⟩, inside⟩ := validated typed valid
  have same := sized_target width height size
  have narrow : 4 * config.source.w ≤ u32Max := shown.narrow
  have image : whole.image =
      picture renderer scene config ⟨0, 0, config.source.w, config.source.h⟩ :=
    (Option.some.inj shown.image).symm
  have pixels : ∀ x y : ℕ, x < config.source.w → y < config.source.h →
      drawn x y = painted renderer scene config x y := by
    have pixels := shown.kept.2
    rw [left] at pixels
    exact pixels
  rw [same] at wide tall
  have fits : 4 * config.region.w ≤ u32Max ∧ config.region.h ≤ u32Max := by
    obtain ⟨left, top, -, -, right, bottom⟩ := inside
    unfold i32Max at tall
    unfold u32Max at *
    dsimp only at tall
    omega
  have read : mappedImage (renderer.copy (readRegion target config) drawn) =
      some (.ok (picture renderer scene config config.region)) := by
    rcases read_picture documented scene inside wide tall with ⟨-, reads⟩ | ⟨broad, -⟩
    · rw [same]
      exact reads _ _ _ pixels
    · omega
  obtain ⟨out, limited, -⟩ := limit_spec (picture_well_formed scene config fits.1 fits.2)
    inside.width inside.height config.maxDimension
  refine ⟨out, image, inside, narrow, tall, limited, ?_⟩
  refine render_scene_ok.mpr ⟨valid, size, drawn, ran, copy, map, _, read, out, limited, ?_, left⟩
  rw [shown.commitSeq, shown.damage]

/-- Reading back only the cropped part gives what cropping the whole frame gives. -/
theorem crop_as_whole (documented : renderer.Documented) {faults : Faults} {target : OffscreenTarget}
    (wide : target.w ≤ i32Max) (tall : target.h ≤ i32Max) {scene : Scene E} {config : RenderConfig}
    (typed : config.Typed) (valid : config.validate = .ok ()) {whole : RenderedFrame}
    {kept : OffscreenTarget}
    (rendered : renderScene renderer faults target scene
      { config with crop := none, maxDimension := none } = some (.ok (whole, kept))) :
    ∃ part out, crop whole.image config.region = some part ∧
      limit part config.maxDimension = some out ∧ config.outputSize = some out.size ∧
        renderScene renderer faults target scene config =
          some (.ok (⟨out, whole.commitSeq, whole.damage⟩, kept)) := by
  obtain ⟨out, cropped⟩ := rendered_crop documented wide tall typed valid rendered
  have shown := render_scene_shows documented wide tall typed cropped.renders
  refine ⟨_, out, ?_, cropped.limited, shown.size, cropped.renders⟩
  rw [cropped.image]
  exact crop_picture scene config cropped.inside cropped.narrow cropped.low

def cornerScene : Scene Tile := ⟨5, [⟨⟨1, 1, 255, 255, 255, 255⟩, ⟨1, 0⟩, Region.empty⟩]⟩

def cornerConfig : RenderConfig := ⟨⟨0, 0, 2, 2⟩, some ⟨1, 0, 1, 2⟩, some 1, defaultClearColor⟩

theorem corner_typed : cornerConfig.Typed := by
  refine ⟨by constructor <;> decide, fun rect same => ?_⟩
  cases same
  constructor <;> decide

/-- The right column of a picture with a white pixel in its corner. -/
theorem crop_as_whole_corner :
    ∃ (whole : RenderedFrame) (kept : OffscreenTarget) (part out : ImageBuffer),
      crop whole.image cornerConfig.region = some part ∧
        limit part cornerConfig.maxDimension = some out ∧
          cornerConfig.outputSize = some out.size ∧
            renderScene flat (fun _ => none) ⟨0, 2, 2, flat.fresh 0⟩ cornerScene cornerConfig =
              some (.ok (⟨out, whole.commitSeq, whole.damage⟩, kept)) := by
  have valid : cornerConfig.validate = .ok () := rfl
  exact ⟨_, _, crop_as_whole flat_documented (by decide) (by decide) corner_typed valid rfl⟩

end ADesk.Render.Pipeline
