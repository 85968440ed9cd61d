/- ADesk/Overlay/Painters
   digest: The overlay painters and the inspector, whose picture is the frame under a list of layers
   that only the set of overlays and the state decide. -/

import ADesk.Overlay.Text
import ADesk.Render.Pipeline
import ADesk.Server.Inspection

set_option autoImplicit false

namespace ADesk.Overlay.Painters

open ADesk.Core.Coverage
open ADesk.Core.Geometry
open ADesk.Core.Ids (WindowId)
open ADesk.Core.Image
open ADesk.Foundation.Layers
open ADesk.Overlay.Drawing
open ADesk.Overlay.Text
open ADesk.Observer.Actions (ActionKind)
open ADesk.Render.Cropping (crop)
open ADesk.Render.Pipeline (rectDebug)
open ADesk.Render.Scaling (downscale)
open ADesk.Server.Inspection (ActionMarker CommitInfo InspectionRequest OverlayKind canonicalOrder)
open ADesk.Wm.Policy (WindowRecord)

universe u

/-! ## Inputs -/

/-- The frame that the painters draw on, with its rows, and what they draw from. -/
structure InspectionInput where
  frame : ImageBuffer
  windows : List WindowRecord := []
  active : Option WindowId := none
  cursor : Option Point := none
  actions : List ActionMarker := []
  damage : List Rect := []
  commit : Option CommitInfo := none
  deriving DecidableEq

def actionName : ActionKind → String
  | .pointerMove => "pointer_move"
  | .click => "click"
  | .doubleClick => "double_click"
  | .mouseDown => "mouse_down"
  | .mouseUp => "mouse_up"
  | .scroll => "scroll"
  | .drag => "drag"
  | .keypress => "keypress"
  | .keyDown => "key_down"
  | .keyUp => "key_up"
  | .typeText => "type_text"
  | .activateWindow => "activate_window"
  | .closeWindow => "close_window"
  | .invokeAccessibleAction => "invoke_accessible_action"

/-! ## Common parts -/

/-- Half the length of a crosshair's arm. -/
def arm : ℤ := 4

/-- The place of the ink of a label that hangs on an anchor. -/
def inkOrigin (anchor : Point) (delta : ℤ) : Point :=
  ⟨clampI32 (anchor.x + delta), clampI32 (anchor.y + delta)⟩

def crosshair (canvas : Canvas) (centre : Point) (color : Color) : Option Canvas := do
  let canvas ← canvas.hline centre.y (clampI32 (centre.x - arm)) (clampI32 (centre.x + arm)) color
  canvas.vline centre.x (clampI32 (centre.y - arm)) (clampI32 (centre.y + arm)) color

/-- An addition of the source, which panics where it overflows. -/
def addI32 (first second : ℤ) : Option ℤ :=
  if InI32 (first + second) then some (first + second) else none

def slotWindowIds : ℤ := 0

def slotAppIds : ℤ := 1

def slotFocus : ℤ := 2

/-- The upper left corner of the plate in a slot of the window. -/
def slotOrigin (window : Rect) (slot : ℤ) (style : OverlayStyle) : Option Point := do
  let pad := style.pad
  let step := lineHeight style.scale + pad
  let x ← addI32 window.x pad
  let below ← addI32 window.y pad
  let y ← addI32 below (slot * step)
  some ⟨x, y⟩

/-- The width for the text of a label, where the width of the window is cast. -/
def innerWidth (window : Rect) (style : OverlayStyle) : ℤ :=
  clampI32 (wrapI32 window.w - 2 * style.pad)

/-- Draws the text in a slot of the window, cut to the window; nothing where it does not fit. -/
def drawSlot (canvas : Canvas) (window : Rect) (slot : ℤ) (text : String) (style : OverlayStyle) :
    Option (Option Rect × Canvas) :=
  if window.isEmpty then some (none, canvas)
  else
    match elide text (innerWidth window style) style.scale with
    | none => some (none, canvas)
    | some elided => do
      let plate ← slotOrigin window slot style
      let (rect, canvas) ← canvas.withClip window fun clipped =>
        drawLabel clipped (inkOrigin plate style.pad) elided style
      some (some rect, canvas)

/-! ## Painters -/

def windowIds (canvas : Canvas) (input : InspectionInput) (style : OverlayStyle) :
    Option Canvas :=
  input.windows.foldlM (fun canvas window =>
    (drawSlot canvas window.geometry slotWindowIds s!"win {window.id.val}" style).map Prod.snd)
    canvas

def appText (window : WindowRecord) : String :=
  match window.appId with
  | some appId => s!"app {appId.val}"
  | none => "app ?"

def appIds (canvas : Canvas) (input : InspectionInput) (style : OverlayStyle) : Option Canvas :=
  input.windows.foldlM (fun canvas window =>
    (drawSlot canvas window.geometry slotAppIds (appText window) style).map Prod.snd) canvas

def focus (canvas : Canvas) (input : InspectionInput) (style : OverlayStyle) : Option Canvas :=
  match input.active with
  | none => some canvas
  | some active =>
    match input.windows.find? fun window => window.id = active with
    | none => some canvas
    | some window => do
      let canvas ← canvas.outlineRect window.geometry style.focus
      let labelStyle := { style with text := style.focus }
      (drawSlot canvas window.geometry slotFocus "focus" labelStyle).map Prod.snd

def damage (canvas : Canvas) (input : InspectionInput) (style : OverlayStyle) : Option Canvas :=
  input.damage.foldlM (fun canvas rect =>
    if rect.isEmpty then some canvas
    else do
      let canvas ← canvas.fillRect rect style.fill
      canvas.outlineRect rect style.outline) canvas

def surfaceBounds (canvas : Canvas) (input : InspectionInput) (style : OverlayStyle) :
    Option Canvas :=
  input.windows.foldlM (fun canvas window =>
    if window.geometry.isEmpty then some canvas
    else canvas.outlineRect window.geometry style.outline) canvas

def cursor (canvas : Canvas) (input : InspectionInput) (style : OverlayStyle) : Option Canvas :=
  match input.cursor with
  | none => some canvas
  | some cursor => crosshair canvas cursor style.cursor

/-- The side of the square in the middle of a plus. -/
def centreSide : ℕ := 3

def plus (canvas : Canvas) (position : Point) (color : Color) : Option Canvas := do
  let canvas ← crosshair canvas position color
  canvas.fillRect ⟨clampI32 (position.x - 1), clampI32 (position.y - 1), centreSide, centreSide⟩
    color

def markerText (marker : ActionMarker) : String :=
  s!"{actionName marker.kind} #{marker.actionId.val} +{marker.ageMs}ms"

/-- The upper left corner of the plate in a line of the list of actions without a position. -/
def hudPlate (clip : Rect) (style : OverlayStyle) (hudLine : ℤ) : Point :=
  let pad := style.pad
  let step := clampI32 (lineHeight style.scale + pad)
  ⟨clampI32 (clip.x + pad), clampI32 (clampI32 (clip.y + pad) + clampI32 (hudLine * step))⟩

/-- The loop over the markers, with the next line of the list. -/
def actionsFrom (style : OverlayStyle) : ℤ → List ActionMarker → Canvas → Option Canvas
  | _, [], canvas => some canvas
  | hudLine, marker :: rest, canvas =>
    let accent := { style with text := style.action }
    match marker.position with
    | some position => do
      let canvas ← plus canvas position style.action
      let (_, canvas) ← drawLabel canvas (inkOrigin position arm) (markerText marker) accent
      actionsFrom style hudLine rest canvas
    | none => do
      let plate := hudPlate canvas.clip style hudLine
      let (_, canvas) ← drawLabel canvas (inkOrigin plate style.pad) (markerText marker) accent
      actionsFrom style (clampI32 (hudLine + 1)) rest canvas

def actions (canvas : Canvas) (input : InspectionInput) (style : OverlayStyle) : Option Canvas :=
  actionsFrom style 0 input.actions canvas

/-- The upper left corner of the plate that ends at the right edge of the clip. -/
def timingPlate (clip : Rect) (style : OverlayStyle) (label : String) : Point :=
  let pad := style.pad
  let size := measure label style.scale
  let plateWidth := wrapI32 (min (size.w + 2 * pad.toNat) u32Max : ℕ)
  ⟨clampI32 (clampI32 (clip.right - plateWidth) - pad), clampI32 (clip.y + pad)⟩

def commitText (commit : CommitInfo) : String := s!"commit {commit.commitSeq} +{commit.ageMs}ms"

def commitTiming (canvas : Canvas) (input : InspectionInput) (style : OverlayStyle) :
    Option Canvas :=
  match input.commit with
  | none => some canvas
  | some commit =>
    let accent := { style with text := style.timing }
    let plate := timingPlate canvas.clip style (commitText commit)
    (drawLabel canvas (inkOrigin plate style.pad) (commitText commit) accent).map Prod.snd

def overlay (kind : OverlayKind) : Canvas → InspectionInput → OverlayStyle → Option Canvas :=
  match kind with
  | .damage => damage
  | .surfaceBounds => surfaceBounds
  | .windowIds => windowIds
  | .appIds => appIds
  | .focus => focus
  | .cursor => cursor
  | .actions => actions
  | .commitTiming => commitTiming

/-! ## The inspector -/

/-- The place of an overlay in the order of composition. -/
def orderIndex (kind : OverlayKind) : ℕ := canonicalOrder.idxOf kind

/-- Drops all but the first of equal neighbours, behind a kind that is kept. -/
def dedupAfter (kind : OverlayKind) : List OverlayKind → List OverlayKind
  | [] => [kind]
  | next :: rest => if kind = next then dedupAfter kind rest else kind :: dedupAfter next rest

def dedup : List OverlayKind → List OverlayKind
  | [] => []
  | kind :: rest => dedupAfter kind rest

def normalize (overlays : List OverlayKind) : List OverlayKind :=
  dedup (overlays.insertionSort fun first second => orderIndex first ≤ orderIndex second)

inductive Error
  | invalidFrame (reason : String)
  | invalidRequest (reason : String)
  deriving DecidableEq

def Error.display : Error → String
  | .invalidFrame reason => s!"invalid inspection frame: {reason}"
  | .invalidRequest reason => s!"invalid inspection request: {reason}"

structure Inspector where
  overlays : List OverlayKind
  style : OverlayStyle := {}
  deriving DecidableEq

namespace Inspector

def new (overlays : List OverlayKind) : Inspector := { overlays := normalize overlays }

/-- Draws the input into a buffer of the same size; `none` where the code panics. -/
def renderInto (inspector : Inspector) (input : InspectionInput) (out : ImageBuffer) :
    Option (Except Error ImageBuffer) :=
  if out.size ≠ input.frame.size then
    some (.error (.invalidFrame (s!"target {out.width}x{out.height} does not match the " ++
      s!"{input.frame.width}x{input.frame.height} inspection frame")))
  else if out.data.length ≠ input.frame.data.length then
    some (.error (.invalidFrame (s!"target {out.data.length} bytes does not match the " ++
      s!"{input.frame.data.length} byte inspection frame")))
  else do
    let start := Canvas.new { out with data := input.frame.data }
    let canvas ← (normalize inspector.overlays).foldlM (fun canvas kind =>
      overlay kind canvas input inspector.style) start
    some (.ok canvas.buffer)

def render (inspector : Inspector) (input : InspectionInput) : Option (Except Error ImageBuffer) :=
  inspector.renderInto input input.frame

end Inspector

/-- The crop to the region, where there is one. -/
def cropRegion (frame : ImageBuffer) : Option Rect → Option (Except Error ImageBuffer)
  | none => some (.ok frame)
  | some region =>
    match frame.rect.intersect region with
    | none =>
      some (.error (.invalidRequest (s!"region {rectDebug region} does not intersect the " ++
        s!"{frame.width}x{frame.height} inspection frame")))
    | some clipped => (crop frame clipped).map .ok

def applyMaxDimension (frame : ImageBuffer) : Option ℕ → Option (Except Error ImageBuffer)
  | none => some (.ok frame)
  | some maxDimension =>
    if maxDimension = 0 then
      some (.error (.invalidRequest "max_dimension must be greater than zero"))
    else (downscale frame maxDimension).map .ok

/-- Crops a composed frame to the region and then scales it down. -/
def applyRequest (frame : ImageBuffer) (request : InspectionRequest) :
    Option (Except Error ImageBuffer) := do
  match ← cropRegion frame request.region with
  | .error error => some (.error error)
  | .ok frame => applyMaxDimension frame request.maxDimension

def Inspector.renderRequest (inspector : Inspector) (input : InspectionInput)
    (request : InspectionRequest) : Option (Except Error ImageBuffer) := do
  match ← inspector.render input with
  | .error error => some (.error error)
  | .ok composed => applyRequest composed request

/-! ## What the painters draw -/

/-- Every field is of its type in the source, and no slot of a window overflows. -/
structure InspectionInput.Typed (input : InspectionInput) : Prop where
  frame : WellFormed input.frame
  low : (input.frame.height : ℤ) < i32Max
  windows : ∀ window ∈ input.windows, InRange window.geometry ∧
    window.geometry.x ≤ i32Max - 16 ∧ window.geometry.y ≤ i32Max - 176
  cursor : ∀ p, input.cursor = some p → InI32 p.x ∧ InI32 p.y
  actions : ∀ marker ∈ input.actions, ∀ p, marker.position = some p → InI32 p.x ∧ InI32 p.y
  damage : ∀ rect ∈ input.damage, InRange rect

/-- The layers of a label in a slot of the window, which are inside the window. -/
def slotLayers (window : Rect) (slot : ℤ) (text : String) (style : OverlayStyle) :
    List (Layer Point Color) :=
  if window.isEmpty then []
  else
    match elide text (innerWidth window style) style.scale,
        slotOrigin window slot style with
    | some elided, some plate =>
      (labelLayers (inkOrigin plate style.pad) elided style).map (Layer.within (contains window))
    | _, _ => []

def crosshairLayers (centre : Point) (color : Color) : List (Layer Point Color) :=
  [⟨alongRow centre.y (clampI32 (centre.x - arm)) (clampI32 (centre.x + arm)), color⟩,
    ⟨alongColumn centre.x (clampI32 (centre.y - arm)) (clampI32 (centre.y + arm)), color⟩]

def plusLayers (position : Point) (color : Color) : List (Layer Point Color) :=
  crosshairLayers position color ++
    [⟨contains ⟨clampI32 (position.x - 1), clampI32 (position.y - 1), centreSide, centreSide⟩,
      color⟩]

def actionLayers (clip : Rect) (style : OverlayStyle) :
    ℤ → List ActionMarker → List (Layer Point Color)
  | _, [] => []
  | hudLine, marker :: rest =>
    let accent := { style with text := style.action }
    match marker.position with
    | some position =>
      plusLayers position style.action ++
        labelLayers (inkOrigin position arm) (markerText marker) accent ++
          actionLayers clip style hudLine rest
    | none =>
      labelLayers (inkOrigin (hudPlate clip style hudLine) style.pad) (markerText marker) accent ++
        actionLayers clip style (clampI32 (hudLine + 1)) rest

/-- The layers of one overlay, bottom to top. -/
def overlayLayers (clip : Rect) (input : InspectionInput) (style : OverlayStyle) :
    OverlayKind → List (Layer Point Color)
  | .damage => input.damage.flatMap fun rect =>
    if rect.isEmpty then [] else [⟨contains rect, style.fill⟩, ⟨onBoundary rect, style.outline⟩]
  | .surfaceBounds => input.windows.flatMap fun window =>
    if window.geometry.isEmpty then [] else [⟨onBoundary window.geometry, style.outline⟩]
  | .windowIds => input.windows.flatMap fun window =>
    slotLayers window.geometry slotWindowIds s!"win {window.id.val}" style
  | .appIds => input.windows.flatMap fun window =>
    slotLayers window.geometry slotAppIds (appText window) style
  | .focus =>
    match input.active.bind fun active => input.windows.find? fun window => window.id = active with
    | none => []
    | some window =>
      ⟨onBoundary window.geometry, style.focus⟩ ::
        slotLayers window.geometry slotFocus "focus" { style with text := style.focus }
  | .cursor => input.cursor.elim [] fun cursor => crosshairLayers cursor style.cursor
  | .actions => actionLayers clip style 0 input.actions
  | .commitTiming => input.commit.elim [] fun commit =>
    labelLayers (inkOrigin (timingPlate clip style (commitText commit)) style.pad)
      (commitText commit) { style with text := style.timing }

variable {canvas after : Canvas} {input : InspectionInput} {style : OverlayStyle}

/-- A loop that draws the layers of one item after the other. -/
theorem fold_draws {α : Type u} {step : Canvas → α → Option Canvas} {clip : Rect}
    {layers : α → List (Layer Point Color)} (items : List α)
    (draws : ∀ item ∈ items, ∀ canvas : Canvas, Sound canvas → canvas.clip = clip →
      ∃ after, step canvas item = some after ∧ Draws canvas (layers item) after) :
    ∀ {canvas : Canvas}, Sound canvas → canvas.clip = clip →
      ∃ after, items.foldlM step canvas = some after ∧
        Draws canvas (items.flatMap layers) after := by
  induction items with
  | nil => exact fun {canvas} _ _ => ⟨canvas, rfl, Draws.refl canvas⟩
  | cons item rest ih =>
    intro canvas sound within
    obtain ⟨next, stepped, first⟩ := draws item List.mem_cons_self canvas sound within
    obtain ⟨after, ran, others⟩ := ih
      (fun other member => draws other (List.mem_cons_of_mem _ member)) (first.sound sound)
      (first.clip.trans within)
    refine ⟨after, ?_, ?_⟩
    · rw [List.foldlM_cons, stepped]
      exact ran
    · rw [List.flatMap_cons]
      exact first.trans others

theorem pad_range (style : OverlayStyle) : 1 ≤ style.pad ∧ style.pad ≤ 16 := by
  unfold OverlayStyle.pad minPadding maxPadding
  split_ifs <;> omega

theorem ink_origin_range (anchor : Point) (delta : ℤ) :
    InI32 (inkOrigin anchor delta).x ∧ InI32 (inkOrigin anchor delta).y :=
  ⟨clamp_range _, clamp_range _⟩

theorem crosshair_draws (sound : Sound canvas) {centre : Point} (column : InI32 centre.x)
    (row : InI32 centre.y) (color : Color) :
    ∃ after, crosshair canvas centre color = some after ∧
      Draws canvas (crosshairLayers centre color) after := by
  obtain ⟨one, drawn, first⟩ := hline_draws sound row (clamp_range (centre.x - arm))
    (clamp_range (centre.x + arm)) color
  obtain ⟨two, drawn', second⟩ := vline_draws (first.sound sound) column
    (clamp_range (centre.y - arm)) (clamp_range (centre.y + arm)) color
  refine ⟨two, ?_, first.trans second⟩
  unfold crosshair
  rw [drawn]
  exact drawn'

theorem plus_draws (sound : Sound canvas) {position : Point} (column : InI32 position.x)
    (row : InI32 position.y) (color : Color) :
    ∃ after, plus canvas position color = some after ∧
      Draws canvas (plusLayers position color) after := by
  obtain ⟨one, drawn, first⟩ := crosshair_draws sound column row color
  have side : centreSide ≤ u32Max := by decide
  have range : InRange
      ⟨clampI32 (position.x - 1), clampI32 (position.y - 1), centreSide, centreSide⟩ :=
    ⟨(clamp_range _).1, (clamp_range _).2, (clamp_range _).1, (clamp_range _).2, side, side⟩
  obtain ⟨two, drawn', second⟩ := fill_rect_draws (first.sound sound) range color
  refine ⟨two, ?_, first.trans second⟩
  unfold plus
  rw [drawn]
  exact drawn'

/-- The slots of a window that is not at the end of the range do not overflow. -/
theorem slot_origin_some {window : Rect} (range : InRange window)
    (right : window.x ≤ i32Max - 16) (bottom : window.y ≤ i32Max - 176) {slot : ℤ}
    (low : 0 ≤ slot) (high : slot ≤ 2) (style : OverlayStyle) :
    ∃ plate, slotOrigin window slot style = some plate := by
  obtain ⟨least, most⟩ := pad_range style
  have left := range.left
  have top := range.top
  have height : lineHeight style.scale ≤ 8 * 8 := Nat.mul_le_mul_left 8 (clamp_scale_pos _).2
  have adds : ∀ first second : ℤ, i32Min ≤ first + second → first + second ≤ i32Max →
      addI32 first second = some (first + second) := fun first second low high =>
    if_pos ⟨low, high⟩
  have step : 0 ≤ slot * (lineHeight style.scale + style.pad) ∧
      slot * (lineHeight style.scale + style.pad) ≤ 160 := by
    have cases : slot = 0 ∨ slot = 1 ∨ slot = 2 := by omega
    rcases cases with rfl | rfl | rfl <;> omega
  unfold slotOrigin
  dsimp only
  rw [adds _ _ (by omega) (by omega), Option.bind_eq_bind, Option.bind_some,
    adds _ _ (by omega) (by omega), Option.bind_some, adds _ _ (by omega) (by omega)]
  exact ⟨_, rfl⟩

/-- Drawing with the clip narrowed to a rectangle draws the layers inside it. -/
theorem with_clip_draws {α : Type u} (sound : Sound canvas) {clip : Rect} (range : InRange clip)
    {draw : Canvas → Option (α × Canvas)} {result : α} {layers : List (Layer Point Color)}
    (draws : ∀ canvas, Sound canvas →
      ∃ after, draw canvas = some (result, after) ∧ Draws canvas layers after) :
    ∃ after, canvas.withClip clip draw = some (result, after) ∧
      Draws canvas (layers.map (Layer.within (contains clip))) after := by
  have narrowed : InRange ((canvas.clip.intersect clip).getD .empty) ∧
      ∀ p, contains ((canvas.clip.intersect clip).getD .empty) p =
        (contains canvas.clip p && contains clip p) := by
    cases found : canvas.clip.intersect clip with
    | none =>
      refine ⟨⟨by decide, by decide, by decide, by decide, by decide, by decide⟩, fun p => ?_⟩
      exact (intersect_disjoint found p).symm
    | some part =>
      obtain ⟨filled, shown⟩ := contains_intersect sound.clip range found
      exact ⟨filled.toInRange, shown⟩
  obtain ⟨narrow, shown⟩ := narrowed
  obtain ⟨inner, drawn, -, inked⟩ := draws
    { canvas with clip := (canvas.clip.intersect clip).getD .empty } ⟨sound.formed, sound.low, narrow⟩
  refine ⟨{ inner with clip := canvas.clip }, ?_, rfl, ?_⟩
  · unfold Canvas.withClip
    rw [drawn]
    rfl
  · have same : layers.map (Layer.within (contains ((canvas.clip.intersect clip).getD .empty))) =
        (layers.map (Layer.within (contains clip))).map (Layer.within (contains canvas.clip)) := by
      rw [List.map_map]
      refine List.map_congr_left fun layer _ => ?_
      unfold Layer.within
      simp only [Function.comp_apply, shown, Bool.and_assoc]
    rw [← same]
    exact inked

theorem slot_draws (sound : Sound canvas) {window : Rect} (range : InRange window)
    (right : window.x ≤ i32Max - 16) (bottom : window.y ≤ i32Max - 176) {slot : ℤ}
    (low : 0 ≤ slot) (high : slot ≤ 2) (text : String) (style : OverlayStyle) :
    ∃ after, (drawSlot canvas window slot text style).map Prod.snd = some after ∧
      Draws canvas (slotLayers window slot text style) after := by
  obtain ⟨plate, placed⟩ := slot_origin_some range right bottom low high style
  unfold drawSlot slotLayers
  generalize innerWidth window style = inner
  cases window.isEmpty with
  | true =>
    rw [if_pos rfl, if_pos rfl]
    exact ⟨canvas, rfl, Draws.refl canvas⟩
  | false =>
    rw [if_neg Bool.false_ne_true, if_neg Bool.false_ne_true, placed]
    cases elide text inner style.scale with
    | none => exact ⟨canvas, rfl, Draws.refl canvas⟩
    | some elided =>
      obtain ⟨column, row⟩ := ink_origin_range plate style.pad
      obtain ⟨after, drawn, draws⟩ := with_clip_draws sound range fun canvas sound =>
        label_draws sound column row elided style
      refine ⟨after, ?_, draws⟩
      dsimp only
      rw [Option.bind_eq_bind, Option.bind_some, drawn]
      rfl

theorem actions_draws (markers : List ActionMarker)
    (places : ∀ marker ∈ markers, ∀ p, marker.position = some p → InI32 p.x ∧ InI32 p.y) :
    ∀ {canvas : Canvas} (hudLine : ℤ), Sound canvas →
      ∃ after, actionsFrom style hudLine markers canvas = some after ∧
        Draws canvas (actionLayers canvas.clip style hudLine markers) after := by
  induction markers with
  | nil => exact fun {canvas} _ _ => ⟨canvas, rfl, Draws.refl canvas⟩
  | cons marker rest ih =>
    intro canvas hudLine sound
    have others := @ih fun other member => places other (List.mem_cons_of_mem _ member)
    unfold actionsFrom actionLayers
    dsimp only
    cases placed : marker.position with
    | some position =>
      obtain ⟨column, row⟩ := places marker List.mem_cons_self position placed
      obtain ⟨one, drawn, first⟩ := plus_draws sound column row style.action
      obtain ⟨inkColumn, inkRow⟩ := ink_origin_range position arm
      obtain ⟨two, labelled, second⟩ := label_draws (first.sound sound) inkColumn inkRow
        (markerText marker) { style with text := style.action }
      obtain ⟨after, ran, third⟩ := @others two hudLine (second.sound (first.sound sound))
      rw [second.clip, first.clip] at third
      refine ⟨after, ?_, (first.trans second).trans third⟩
      dsimp only
      rw [drawn, Option.bind_eq_bind, Option.bind_some, labelled]
      exact ran
    | none =>
      obtain ⟨inkColumn, inkRow⟩ := ink_origin_range (hudPlate canvas.clip style hudLine) style.pad
      obtain ⟨one, labelled, first⟩ := label_draws sound inkColumn inkRow
        (markerText marker) { style with text := style.action }
      obtain ⟨after, ran, second⟩ := @others one (clampI32 (hudLine + 1)) (first.sound sound)
      rw [first.clip] at second
      refine ⟨after, ?_, first.trans second⟩
      dsimp only
      rw [labelled]
      exact ran

theorem overlay_draws (typed : input.Typed) (kind : OverlayKind) (sound : Sound canvas) :
    ∃ after, overlay kind canvas input style = some after ∧
      Draws canvas (overlayLayers canvas.clip input style kind) after := by
  cases kind with
  | windowIds =>
    refine fold_draws input.windows (fun window member canvas sound _ => ?_) sound rfl
    obtain ⟨range, right, bottom⟩ := typed.windows window member
    exact slot_draws sound range right bottom (by decide) (by decide) _ style
  | appIds =>
    refine fold_draws input.windows (fun window member canvas sound _ => ?_) sound rfl
    obtain ⟨range, right, bottom⟩ := typed.windows window member
    exact slot_draws sound range right bottom (by decide) (by decide) _ style
  | focus =>
    unfold overlay focus overlayLayers
    dsimp only
    cases input.active with
    | none => exact ⟨canvas, rfl, Draws.refl canvas⟩
    | some active =>
      dsimp only [Option.bind_some]
      cases found : input.windows.find? fun window => window.id = active with
      | none => exact ⟨canvas, rfl, Draws.refl canvas⟩
      | some window =>
        obtain ⟨range, right, bottom⟩ := typed.windows window (List.mem_of_find?_eq_some found)
        obtain ⟨one, outlined, first⟩ := outline_rect_draws sound range style.focus
        obtain ⟨two, labelled, second⟩ := @slot_draws one (first.sound sound) window.geometry range
          right bottom slotFocus (by decide) (by decide) "focus" { style with text := style.focus }
        refine ⟨two, ?_, first.trans second⟩
        dsimp only
        rw [outlined]
        exact labelled
  | damage =>
    refine fold_draws input.damage (fun rect member canvas sound _ => ?_) sound rfl
    cases rect.isEmpty with
    | true =>
      rw [if_pos rfl, if_pos rfl]
      exact ⟨canvas, rfl, Draws.refl canvas⟩
    | false =>
      obtain ⟨one, filled, first⟩ := fill_rect_draws sound (typed.damage rect member) style.fill
      obtain ⟨two, outlined, second⟩ :=
        outline_rect_draws (first.sound sound) (typed.damage rect member) style.outline
      rw [if_neg Bool.false_ne_true, if_neg Bool.false_ne_true, filled]
      exact ⟨two, outlined, first.trans second⟩
  | surfaceBounds =>
    refine fold_draws input.windows (fun window member canvas sound _ => ?_) sound rfl
    cases window.geometry.isEmpty with
    | true =>
      rw [if_pos rfl, if_pos rfl]
      exact ⟨canvas, rfl, Draws.refl canvas⟩
    | false =>
      rw [if_neg Bool.false_ne_true, if_neg Bool.false_ne_true]
      exact outline_rect_draws sound (typed.windows window member).1 style.outline
  | cursor =>
    unfold overlay cursor overlayLayers
    dsimp only
    cases known : input.cursor with
    | none => exact ⟨canvas, rfl, Draws.refl canvas⟩
    | some position =>
      obtain ⟨column, row⟩ := typed.cursor position known
      exact crosshair_draws sound column row style.cursor
  | actions => exact actions_draws input.actions typed.actions 0 sound
  | commitTiming =>
    unfold overlay commitTiming overlayLayers
    dsimp only
    cases input.commit with
    | none => exact ⟨canvas, rfl, Draws.refl canvas⟩
    | some commit =>
      obtain ⟨column, row⟩ :=
        ink_origin_range (timingPlate canvas.clip style (commitText commit)) style.pad
      obtain ⟨after, labelled, draws⟩ := label_draws sound column row (commitText commit)
        { style with text := style.timing }
      refine ⟨after, ?_, draws⟩
      dsimp only
      rw [labelled]
      rfl

/-! ## Sets of overlays -/

theorem order_index_inj {first second : OverlayKind}
    (same : orderIndex first = orderIndex second) : first = second := by
  cases first <;> cases second <;> first | rfl | exact absurd same (by decide)

/-- Dropping equal neighbours of a sorted list leaves each of its kinds once. -/
theorem dedup_after_sorted (rest : List OverlayKind) :
    ∀ kind, (kind :: rest).Pairwise (fun first second => orderIndex first ≤ orderIndex second) →
      (dedupAfter kind rest).Pairwise (fun first second => orderIndex first < orderIndex second) ∧
        ∀ other, other ∈ dedupAfter kind rest ↔ other ∈ kind :: rest := by
  induction rest with
  | nil => exact fun kind _ => ⟨List.pairwise_singleton _ _, fun _ => Iff.rfl⟩
  | cons next rest ih =>
    intro kind sorted
    obtain ⟨least, others⟩ := List.pairwise_cons.mp sorted
    unfold dedupAfter
    split
    · next same =>
      subst same
      obtain ⟨strict, members⟩ := ih kind others
      refine ⟨strict, fun other => (members other).trans ?_⟩
      rw [List.mem_cons, List.mem_cons, List.mem_cons]
      tauto
    · next apart =>
      obtain ⟨strict, members⟩ := ih next others
      refine ⟨List.pairwise_cons.mpr ⟨fun other member => ?_, strict⟩, fun other => ?_⟩
      · have among := (members other).mp member
        have before := least next List.mem_cons_self
        have further : orderIndex next ≤ orderIndex other := by
          rcases List.mem_cons.mp among with rfl | later
          · exact Nat.le_refl _
          · exact (List.pairwise_cons.mp others).1 other later
        have distinct : orderIndex kind ≠ orderIndex next := fun same =>
          apart (order_index_inj same)
        omega
      · rw [List.mem_cons, List.mem_cons, members]

theorem dedup_sorted (kinds : List OverlayKind)
    (sorted : kinds.Pairwise fun first second => orderIndex first ≤ orderIndex second) :
    (dedup kinds).Pairwise (fun first second => orderIndex first < orderIndex second) ∧
      ∀ kind, kind ∈ dedup kinds ↔ kind ∈ kinds := by
  cases kinds with
  | nil => exact ⟨List.Pairwise.nil, fun _ => Iff.rfl⟩
  | cons kind rest => exact dedup_after_sorted rest kind sorted

/-- Sorting and dropping equal neighbours is taking the overlays in the order of composition. -/
theorem normalize_eq (overlays : List OverlayKind) :
    normalize overlays = Server.Inspection.normalize overlays := by
  have sorted := List.pairwise_insertionSort
    (fun first second : OverlayKind => orderIndex first ≤ orderIndex second) overlays
  obtain ⟨strict, members⟩ := dedup_sorted _ sorted
  have canonical : (Server.Inspection.normalize overlays).Pairwise
      fun first second => orderIndex first < orderIndex second :=
    List.Pairwise.filter _ (by decide)
  have same : ∀ kind, kind ∈ normalize overlays ↔ kind ∈ Server.Inspection.normalize overlays := by
    intro kind
    have listed : kind ∈ canonicalOrder := by cases kind <;> decide
    rw [normalize, members, List.mem_insertionSort, Server.Inspection.normalize, List.mem_filter,
      decide_eq_true_eq]
    exact ⟨fun asked => ⟨listed, asked⟩, fun asked => asked.2⟩
  have nodup : ∀ {kinds : List OverlayKind},
      kinds.Pairwise (fun first second => orderIndex first < orderIndex second) → kinds.Nodup :=
    fun ordered => ordered.imp fun {first second} before same => by
      rw [same] at before
      exact Nat.lt_irrefl _ before
  have perm := (List.perm_ext_iff_of_nodup (nodup strict) (nodup canonical)).mpr same
  exact perm.eq_of_pairwise (fun first second _ _ before after => by omega) strict canonical

/-! ## Composed frames -/

/-- The layers of all overlays over the frame. -/
def picture (overlays : List OverlayKind) (input : InspectionInput) (style : OverlayStyle) :
    List (Layer Point Color) :=
  (normalize overlays).flatMap (overlayLayers input.frame.rect input style)

theorem render_inked (typed : input.Typed) (inspector : Inspector) :
    ∃ out, inspector.render input = some (.ok out) ∧
      Inked (picture inspector.overlays input inspector.style) input.frame out := by
  have sound : Sound (Canvas.new input.frame) :=
    ⟨typed.frame, typed.low, buffer_rect_range typed.frame⟩
  obtain ⟨after, ran, -, inked⟩ := @fold_draws _
    (fun canvas kind => overlay kind canvas input inspector.style) input.frame.rect
    (overlayLayers input.frame.rect input inspector.style) (normalize inspector.overlays)
    (fun kind _ canvas sound within => within ▸ overlay_draws typed kind sound) _ sound rfl
  refine ⟨after.buffer, ?_, inked.congr fun x y under column row => ?_⟩
  · unfold Inspector.render Inspector.renderInto
    rw [if_neg (fun differ => differ rfl), if_neg (fun differ => differ rfl)]
    dsimp only
    rw [ran]
    rfl
  · have inside := buffer_rect_contains input.frame x y column row
    rw [laid_within]
    exact if_pos inside

/-- A window in the middle of a small frame. -/
def smallInput : InspectionInput where
  frame := .newRgba 4 3
  windows := [⟨⟨1⟩, ⟨1⟩, none, none, none, ⟨1, 1, 2, 2⟩, .inactive, true, 1, 0, 0⟩]
  damage := [⟨0, 0, 2, 1⟩]

theorem small_input_typed : smallInput.Typed where
  frame := ⟨by decide, by decide, by decide, by decide, by decide⟩
  low := by decide
  windows := by
    intro window member
    rw [List.mem_singleton.mp member]
    exact ⟨⟨by decide, by decide, by decide, by decide, by decide, by decide⟩, by decide, by decide⟩
  cursor := fun p known => by cases known
  actions := fun marker member => by cases member
  damage := by
    intro rect member
    rw [List.mem_singleton.mp member]
    exact ⟨by decide, by decide, by decide, by decide, by decide, by decide⟩

/-- The overlays that belong to windows. -/
def anchored : List OverlayKind := [.surfaceBounds, .windowIds, .appIds, .focus]

/-- No layer of a slot shows outside the window. -/
theorem slot_layers_confined (window : Rect) (slot : ℤ) (text : String) (style : OverlayStyle)
    {p : Point} (outside : contains window p = false) :
    ∀ layer ∈ slotLayers window slot text style, layer.shape p = false := by
  intro layer member
  unfold slotLayers at member
  split at member
  · cases member
  · split at member
    · obtain ⟨inner, -, rfl⟩ := List.mem_map.mp member
      exact (congrArg (· && inner.shape p) outside).trans (Bool.false_and _)
    · cases member

theorem on_boundary_confined {rect : Rect} {p : Point} (outside : contains rect p = false) :
    onBoundary rect p = false := by
  rw [onBoundary, outside, Bool.false_and]

end ADesk.Overlay.Painters
