/- ADesk/Overlay/Inspecting
   digest: Inspections of the compositor in any reachable state: they never fail, and without
   overlays they show what a capture shows. -/

import ADesk.Compositor.Captures
import ADesk.Overlay.Painters

set_option autoImplicit false

namespace ADesk.Overlay.Inspecting

open ADesk.Compositor.Captures
open ADesk.Compositor.State (snapshot)
open ADesk.Core.Coalescing (clamp_inside)
open ADesk.Core.Coverage
open ADesk.Core.Geometry
open ADesk.Core.Image
open ADesk.Foundation.Execution
open ADesk.Overlay.Drawing
open ADesk.Overlay.Painters
open ADesk.Render.Cropping (bpp crop crop_rows_packed intersect_inside packed)
open ADesk.Render.Pipeline
open ADesk.Render.Pool
open ADesk.Render.Scaling (downscale fitDimensions)
open ADesk.Server.Inspection (InspectionRequest)
open ADesk.Wm.Policy (PolicyConfig)

universe u

variable {E : Type u}

/-! ## Regions and limits -/

/-- The part of the frame that an answer shows. -/
def clippedRegion (frame : ImageBuffer) (request : InspectionRequest) : Option Rect :=
  request.region.bind frame.rect.intersect

def cropPart (frame : ImageBuffer) : Option Rect → Option ImageBuffer
  | none => some frame
  | some clipped => crop frame clipped

/-- The request shows some of the frame, at some size. -/
structure Answerable (frame : ImageBuffer) (request : InspectionRequest) : Prop where
  range : ∀ region, request.region = some region → InRange region
  overlaps : ∀ region, request.region = some region →
    (frame.rect.intersect region).isSome = true
  limit : request.maxDimension ≠ some 0

/-- A part of a buffer, with pixels. -/
structure Part (frame : ImageBuffer) (clipped : Rect) : Prop where
  filled : Filled clipped
  left : 0 ≤ clipped.x
  top : 0 ≤ clipped.y
  right : clipped.x + clipped.w ≤ frame.width
  bottom : clipped.y + clipped.h ≤ frame.height

theorem part_of_intersect {frame : ImageBuffer} (formed : WellFormed frame) {region clipped : Rect}
    (range : InRange region) (found : frame.rect.intersect region = some clipped) :
    Part frame clipped := by
  obtain ⟨filled, -⟩ := contains_intersect (buffer_rect_range formed) range found
  rw [intersect_comm] at found
  obtain ⟨left, top, right, bottom⟩ := intersect_inside range found
  exact ⟨filled, left, top, by omega, by omega⟩

/-- A part of a buffer is not clipped any further. -/
theorem Part.intersect {frame : ImageBuffer} {clipped : Rect} (part : Part frame clipped) :
    clipped.intersect frame.rect = some clipped := by
  obtain ⟨⟨range, some_part⟩, left, top, right, bottom⟩ := part
  obtain ⟨width, height⟩ := empty_iff.mp some_part
  have x : clampI32 (max clipped.x 0) = clipped.x := by
    rw [max_eq_left left]
    exact clamp_inside range.left range.right
  have y : clampI32 (max clipped.y 0) = clipped.y := by
    rw [max_eq_left top]
    exact clamp_inside range.top range.bottom
  have w : (min (clipped.x + clipped.w) (0 + (frame.width : ℤ)) - max clipped.x 0).toNat =
      clipped.w := by omega
  have h : (min (clipped.y + clipped.h) (0 + (frame.height : ℤ)) - max clipped.y 0).toNat =
      clipped.h := by omega
  have filled : (clipped.isEmpty || Rect.isEmpty ⟨0, 0, frame.width, frame.height⟩) = false := by
    rw [Bool.or_eq_false_iff, empty_iff, empty_iff]
    dsimp only
    omega
  unfold ImageBuffer.rect Rect.intersect
  dsimp only
  rw [filled, if_neg Bool.false_ne_true, x, y, w, h, if_neg]
  simp only [Bool.or_eq_true, decide_eq_true_eq]
  omega

/-- Cropping a part of a buffer gives a buffer of its size. -/
theorem Part.cropped {frame : ImageBuffer} (formed : WellFormed frame) {clipped : Rect}
    (part : Part frame clipped) :
    ∃ image, crop frame clipped = some image ∧ image.size = ⟨clipped.w, clipped.h⟩ ∧
      WellFormed image := by
  unfold crop
  rw [part.intersect]
  dsimp only
  split
  · next whole =>
    rw [whole.1]
    exact ⟨frame, rfl, rfl, formed⟩
  · have left := part.left
    have top := part.top
    have right := part.right
    have bottom := part.bottom
    obtain ⟨row, copied, rows⟩ :=
      @crop_rows_packed frame formed clipped (by omega) (by omega)
    have narrow := formed.row
    have stride := formed.stride
    have height := formed.height
    refine ⟨_, copied, rfl, packed_well_formed (fun index low => ?_) (by omega) (by omega)⟩
    exact Foundation.Raster.slice_length (rows index low)

/-- The size of an answer, which the contents of the frame have no part in. -/
def answerSize (frame : Size) (clipped : Option Rect) (request : InspectionRequest) :
    Option Size :=
  let size := (clipped.map fun part => ⟨part.w, part.h⟩).getD frame
  match request.maxDimension with
  | some bound => fitDimensions size bound
  | none => some size

/-- A request is answered with the part that it asks for, scaled down. -/
structure Answers (frame : ImageBuffer) (request : InspectionRequest) (part out : ImageBuffer) :
    Prop where
  cut : cropPart frame (clippedRegion frame request) = some part
  limited : limit part request.maxDimension = some out
  answer : applyRequest frame request = some (.ok out)
  size : answerSize frame.size (clippedRegion frame request) request = some out.size

theorem apply_request_answers {frame : ImageBuffer} (formed : WellFormed frame)
    (width : 0 < frame.width) (height : 0 < frame.height) {request : InspectionRequest}
    (answerable : Answerable frame request) :
    ∃ part out, Answers frame request part out := by
  obtain ⟨range, overlaps, positive⟩ := answerable
  obtain ⟨region, maxDimension⟩ := request
  dsimp only at range overlaps positive
  -- Any part with pixels is scaled down, and its size decides the size of the answer.
  have answered : ∀ part : ImageBuffer, WellFormed part → 0 < part.width → 0 < part.height →
      cropPart frame (clippedRegion frame ⟨region, maxDimension⟩) = some part →
      cropRegion frame region = some (.ok part) →
      part.size = ((clippedRegion frame ⟨region, maxDimension⟩).map
        fun part => (⟨part.w, part.h⟩ : Size)).getD frame.size →
      ∃ out, Answers frame ⟨region, maxDimension⟩ part out := by
    intro part formed width height cut cropped same
    obtain ⟨out, limited, size⟩ := limit_spec formed width height maxDimension
    refine ⟨out, cut, limited, ?_, ?_⟩
    · unfold applyRequest
      dsimp only
      rw [cropped, Option.bind_eq_bind, Option.bind_some]
      dsimp only
      unfold applyMaxDimension
      cases maxDimension with
      | none => exact congrArg (some ∘ Except.ok) (Option.some.inj limited)
      | some bound =>
        have scaled : downscale part bound = some out := limited
        dsimp only
        rw [if_neg fun zero => positive (congrArg some zero), scaled]
        rfl
    · unfold answerSize
      rw [← same]
      exact size
  cases region with
  | none =>
    obtain ⟨out, answers⟩ := answered frame formed width height rfl rfl rfl
    exact ⟨frame, out, answers⟩
  | some region =>
    obtain ⟨clipped, found⟩ := Option.isSome_iff_exists.mp (overlaps region rfl)
    have part := part_of_intersect formed (range region rfl) found
    obtain ⟨some_columns, some_rows⟩ := empty_iff.mp part.filled.filled
    obtain ⟨image, cropped, size, sound⟩ := part.cropped formed
    have region' : clippedRegion frame ⟨some region, maxDimension⟩ = some clipped := found
    obtain ⟨across, down⟩ := Size.mk.inj size
    obtain ⟨out, answers⟩ := answered image sound (by omega) (by omega)
      (by rw [region']; exact cropped)
      (by unfold cropRegion; dsimp only; rw [found]; dsimp only; rw [cropped]; rfl)
      (by rw [region']; exact size)
    exact ⟨image, out, answers⟩

/-! ## Inspections and captures -/

variable {renderer : Renderer E} {shell : Shell E} {config : PolicyConfig}

/-- A whole capture of the output, as a refresh makes it. -/
def wholeOutput (failure : Option String) (faults : Faults) : Request := ⟨none, none, failure, faults⟩

/-- The same capture, of a part and at a limit. -/
def partOfOutput (clipped : Option Rect) (maxDimension : Option ℕ) (failure : Option String)
    (faults : Faults) : Request := ⟨clipped, maxDimension, failure, faults⟩

/-- A configuration of a part of the output is valid where the plain one is. -/
theorem valid_part {size : Size} {frame : ImageBuffer} (same : frame.size = size)
    (width : 0 < size.w) (height : 0 < size.h) {clipped : Option Rect}
    (parts : ∀ region, clipped = some region → Part frame region) (maxDimension : Option ℕ) :
    (renderConfig size clipped maxDimension).validate = .ok () := by
  have filled : Rect.isEmpty ⟨0, 0, size.w, size.h⟩ = false := empty_iff.mpr ⟨width, height⟩
  unfold renderConfig RenderConfig.new RenderConfig.validate
  dsimp only
  rw [filled, if_neg Bool.false_ne_true]
  cases clipped with
  | none => rfl
  | some region =>
    have part := parts region rfl
    have inside := part.intersect
    have source : frame.rect = ⟨0, 0, size.w, size.h⟩ := by
      rw [← same]
      rfl
    rw [source] at inside
    dsimp only
    rw [part.filled.filled, if_neg Bool.false_ne_true, inside, if_neg fun differ => differ rfl]

/-- A whole capture, and a part of the same output. -/
theorem capture_part (documented : renderer.Documented) (fits : Fits config) {desk : Desk}
    (reached : Reachable (deskMachine renderer shell config) typedLabel desk)
    {failure : Option String} {faults : Faults} {whole : CapturedFrame} {after : Backend}
    (captured : renderOutput renderer shell desk (wholeOutput failure faults) =
      some (.ok whole, after)) :
    (WellFormed whole.image ∧ whole.image.size = ⟨config.outputWidth, config.outputHeight⟩ ∧
      0 < whole.image.width ∧ 0 < whole.image.height) ∧
    ∀ clipped maxDimension,
      (∀ region, clipped = some region → Part whole.image region) →
      ∃ part out, cropPart whole.image clipped = some part ∧ limit part maxDimension = some out ∧
        ∃ last, renderOutput renderer shell desk (partOfOutput clipped maxDimension failure faults) =
          some (.ok ⟨out, whole.commitSeq, whole.damage⟩, last) := by
  have settled := (settled_inductive documented fits).holds reached
  have size := output_size_eq settled
  unfold renderOutput renderSceneFrame wholeOutput at captured
  dsimp only at captured
  rw [size] at captured
  split at captured
  · cases captured
  next valid =>
  split at captured
  · cases captured
  next target backend acquired =>
  have leased := acquire_leased settled.sound acquired
  split at captured
  · cases captured
  · cases captured
  next frame kept rendered =>
  cases captured
  dsimp only
  have wide := leased.allocatable.wide
  have tall := leased.allocatable.tall
  obtain ⟨out, plain⟩ := rendered_crop documented wide tall
    (typed_config fits (fun _ none => by cases none) none) valid rendered
  obtain ⟨image, ⟨-, -, width, height, -, -⟩, narrow, low, -, -⟩ := plain
  have sized : frame.image.size = ⟨config.outputWidth, config.outputHeight⟩ := by
    rw [image]
    rfl
  have formed : WellFormed frame.image := by
    rw [image]
    exact picture_well_formed _ _ narrow (by unfold i32Max at low; unfold u32Max; dsimp only; omega)
  obtain ⟨across, down⟩ := Size.mk.inj sized
  refine ⟨⟨formed, sized, across.symm ▸ width, down.symm ▸ height⟩, fun clipped maxDimension parts => ?_⟩
  have ranges : ∀ rect, clipped = some rect → InRange rect := fun rect same =>
    (parts rect same).filled.toInRange
  have valid := valid_part sized width height parts maxDimension
  obtain ⟨out, cropped⟩ := @rendered_crop _ renderer documented faults target wide tall _
    (renderConfig ⟨config.outputWidth, config.outputHeight⟩ clipped maxDimension)
    (typed_config fits ranges maxDimension) valid frame kept rendered
  refine ⟨_, out, ?_, cropped.limited, ?_⟩
  · cases clipped with
    | none => exact congrArg some cropped.image
    | some region =>
      have origin : (renderConfig ⟨config.outputWidth, config.outputHeight⟩ (some region)
          maxDimension).region = region := by
        unfold renderConfig RenderConfig.region RenderConfig.new
        dsimp only
        rw [Int.sub_zero, Int.sub_zero]
      have cut := @crop_picture _ renderer
        (outputScene renderer shell (outputWindows desk.state.wm)) _ _ cropped.inside cropped.narrow
        cropped.low
      rw [← cropped.image, origin] at cut
      rw [origin]
      exact cut
  · unfold renderOutput renderSceneFrame partOfOutput
    dsimp only
    have same : (renderConfig ⟨config.outputWidth, config.outputHeight⟩ clipped
        maxDimension).targetSize = (renderConfig ⟨config.outputWidth, config.outputHeight⟩ none
          none).targetSize := rfl
    rw [size, valid]
    dsimp only
    rw [same, acquired]
    dsimp only
    rw [cropped.renders]
    exact ⟨_, rfl⟩

/-- What the overlays are drawn from: the windows of a state that the compositor reaches, and
positions and damage of the types of the source. -/
structure Surveyed (renderer : Renderer E) (shell : Shell E) (config : PolicyConfig)
    (input : InspectionInput) : Prop where
  windows : ∃ desk tsMs, Reachable (deskMachine renderer shell config) typedLabel desk ∧
    input.windows = (snapshot desk.state tsMs).windows
  cursor : ∀ p, input.cursor = some p → InI32 p.x ∧ InI32 p.y
  actions : ∀ marker ∈ input.actions, ∀ p, marker.position = some p → InI32 p.x ∧ InI32 p.y
  damage : ∀ rect ∈ input.damage, InRange rect

/-- A window of a state that the compositor reaches covers the output, at its origin. -/
theorem Surveyed.typed (documented : renderer.Documented) (fits : Fits config)
    {input : InspectionInput} (surveyed : Surveyed renderer shell config input)
    (formed : WellFormed input.frame) (low : (input.frame.height : ℤ) < i32Max) :
    input.Typed where
  frame := formed
  low := low
  windows := by
    intro window member
    obtain ⟨desk, tsMs, reached, same⟩ := surveyed.windows
    have settled := (settled_inductive documented fits).holds reached
    rw [same] at member
    have tiled : window.geometry = config.tiledRect :=
      (settled.tiled.consistent.tiled window member).trans
        (congrArg PolicyConfig.tiledRect settled.tiled.config)
    rw [tiled]
    have width := fits.width
    have height := fits.height
    have least : i32Min ≤ 0 := by decide
    have most : (0 : ℤ) ≤ i32Max := by decide
    have right : (0 : ℤ) ≤ i32Max - 16 := by decide
    have bottom : (0 : ℤ) ≤ i32Max - 176 := by decide
    exact ⟨⟨least, most, least, most, width, height⟩, right, bottom⟩
  cursor := surveyed.cursor
  actions := surveyed.actions
  damage := surveyed.damage

end ADesk.Overlay.Inspecting
