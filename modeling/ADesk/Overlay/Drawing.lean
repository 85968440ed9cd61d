/- ADesk/Overlay/Drawing
   digest: The drawing surface of the overlays, whose strokes blend every visible pixel of their
   shape once and touch nothing else. -/

import Mathlib.Data.List.Pairwise
import Mathlib.Tactic.Ring
import ADesk.Core.Coverage
import ADesk.Core.Image
import ADesk.Foundation.Cells
import ADesk.Foundation.Layers

set_option autoImplicit false

namespace ADesk.Overlay.Drawing

open ADesk.Core.Coalescing (clamp_inside)
open ADesk.Core.Coverage
open ADesk.Core.Geometry
open ADesk.Core.Image
open ADesk.Foundation.Cells (halfUp half_up_bounds half_up_le half_up_mul half_up_next)
open ADesk.Foundation.Counted
open ADesk.Foundation.Layers
open ADesk.Foundation.Raster

universe u

/-! ## Colours -/

/-- Straight alpha; 0 is invisible and 255 opaque. -/
structure Color where
  r : UInt8
  g : UInt8
  b : UInt8
  a : UInt8
  deriving DecidableEq, Repr

def Color.rgb (r g b : UInt8) : Color := ⟨r, g, b, 255⟩

def Color.white : Color := .rgb 255 255 255

def Color.toArray (color : Color) : List UInt8 := [color.r, color.g, color.b, color.a]

/-- One channel of a colour over another one, at an alpha of at most 255. -/
def channel (alpha : ℕ) (src dst : UInt8) : UInt8 :=
  .ofNat ((src.toNat * alpha + dst.toNat * (255 - alpha) + 127) / 255)

def blendOver (src dst : Color) : Color :=
  let alpha := src.a.toNat
  { r := channel alpha src.r dst.r
    g := channel alpha src.g dst.g
    b := channel alpha src.b dst.b
    a := .ofNat (alpha + (dst.a.toNat * (255 - alpha) + 127) / 255) }

/-- An invisible colour changes nothing. -/
theorem blend_over_invisible {src : Color} (dst : Color) (invisible : src.a = 0) :
    blendOver src dst = dst := by
  have keep : ∀ value : UInt8, (value.toNat * 255 + 127) / 255 = value.toNat := by
    intro value
    omega
  have kept : ∀ value other : UInt8, channel 0 other value = value := by
    intro value other
    unfold channel
    rw [Nat.mul_zero, Nat.zero_add, Nat.sub_zero, keep, UInt8.ofNat_toNat]
  have alpha : (0 : UInt8).toNat = 0 := rfl
  unfold blendOver
  rw [invisible]
  dsimp only
  rw [alpha, kept, kept, kept, Nat.sub_zero, Nat.zero_add, keep, UInt8.ofNat_toNat]

/-- An opaque colour is written as it is. -/
theorem blend_over_opaque {src : Color} (dst : Color) (full : src.a = 255) :
    blendOver src dst = src := by
  have written : ∀ value other : UInt8, channel 255 value other = value := by
    intro value other
    have exactly : (value.toNat * 255 + 127) / 255 = value.toNat := by omega
    unfold channel
    rw [Nat.sub_self, Nat.mul_zero, Nat.add_zero, exactly, UInt8.ofNat_toNat]
  have alpha : (255 : UInt8).toNat = 255 := rfl
  unfold blendOver
  rw [full]
  dsimp only
  rw [alpha, written, written, written, Nat.sub_self, Nat.mul_zero]
  obtain ⟨r, g, b, a⟩ := src
  cases full
  rfl

/-! ## The surface -/

structure Canvas where
  buffer : ImageBuffer
  clip : Rect
  deriving DecidableEq

/-- The pixel whose bytes start at that place. -/
def pixelAt (data : List UInt8) (offset : ℕ) : Option Color :=
  match slice data offset 4 with
  | some [r, g, b, a] => some ⟨r, g, b, a⟩
  | _ => none

/-- The rectangle that two corner points span, both inside. -/
def span (x0 y0 x1 y1 : ℤ) : Rect :=
  ⟨x0, y0, min (x1 - x0 + 1).toNat u32Max, min (y1 - y0 + 1).toNat u32Max⟩

/-- A cast to `i32`, which wraps. -/
def wrapI32 (value : ℤ) : ℤ := value.bmod (2 ^ 32)

/-- The step along one axis towards the end of a line. -/
def toward (start stop : ℤ) : ℤ := if start < stop then 1 else -1

/-- Where the loop over the points of a line stands. -/
structure Pen where
  x : ℤ
  y : ℤ
  error : ℤ

/-- One round of the loop, behind its test for the end. -/
def Pen.next (dx dy stepX stepY : ℤ) (pen : Pen) : Pen :=
  let doubled := 2 * pen.error
  let pen := if doubled ≥ dy then { pen with error := pen.error + dy, x := pen.x + stepX } else pen
  if doubled ≤ dx then { pen with error := pen.error + dx, y := pen.y + stepY } else pen

namespace Canvas

/-- The clip is the whole buffer at first. -/
def new (buffer : ImageBuffer) : Canvas := ⟨buffer, buffer.rect⟩

/-- Draws with the clip narrowed, and restores it afterwards. -/
def withClip {α : Type u} (canvas : Canvas) (clip : Rect)
    (draw : Canvas → Option (α × Canvas)) : Option (α × Canvas) := do
  let (result, inner) ← draw { canvas with clip := (canvas.clip.intersect clip).getD .empty }
  some (result, { inner with clip := canvas.clip })

/-- Where the bytes of a visible pixel start. -/
def offset (canvas : Canvas) (p : Point) : Option ℕ :=
  if !contains canvas.clip p || decide (p.x < 0) || decide (p.y < 0) then none
  else
    let x := p.x.toNat
    let y := p.y.toNat
    if x ≥ canvas.buffer.width ∨ y ≥ canvas.buffer.height then none
    else
      let offset := y * canvas.buffer.stride + x * 4
      if offset + 4 > canvas.buffer.data.length then none else some offset

/-- The part of the rectangle that can be drawn. -/
def visible (canvas : Canvas) (rect : Rect) : Option Rect :=
  (rect.intersect canvas.buffer.rect).bind fun part => part.intersect canvas.clip

/-- Blends over the pixel that starts at that place; `none` where the code panics. -/
def blendAt (canvas : Canvas) (offset : ℕ) (color : Color) : Option Canvas := do
  let dst ← pixelAt canvas.buffer.data offset
  let data ← splice canvas.buffer.data offset (blendOver color dst).toArray
  some { canvas with buffer := { canvas.buffer with data } }

def pixel (canvas : Canvas) (p : Point) (color : Color) : Option Canvas :=
  match canvas.offset p with
  | some offset => canvas.blendAt offset color
  | none => some canvas

/-- The columns of one row; what is visible starts at zero or behind it. -/
def fillRow (area : Rect) (color : Color) (y : ℕ) (canvas : Canvas) : Option Canvas :=
  forRange area.x.toNat area.right.toNat
    (fun x canvas => canvas.blendAt (y * canvas.buffer.stride + x * 4) color) canvas

def fillRect (canvas : Canvas) (rect : Rect) (color : Color) : Option Canvas :=
  match canvas.visible rect with
  | none => some canvas
  | some area => forRange area.y.toNat area.bottom.toNat (fillRow area color) canvas

/-- Both ends belong to the line. -/
def hline (canvas : Canvas) (y x0 x1 : ℤ) (color : Color) : Option Canvas :=
  let (left, right) := if x0 ≤ x1 then (x0, x1) else (x1, x0)
  canvas.fillRect (span left y right y) color

def vline (canvas : Canvas) (x y0 y1 : ℤ) (color : Color) : Option Canvas :=
  let (top, bottom) := if y0 ≤ y1 then (y0, y1) else (y1, y0)
  canvas.fillRect (span x top x bottom) color

/-- The columns of an outline that is at least three rows tall. -/
def outlineColumns (canvas : Canvas) (x0 y0 x1 y1 : ℤ) (color : Color) : Option Canvas := do
  let top := clampI32 (y0 + 1)
  let bottom := y1 - 1
  let canvas ← canvas.vline x0 top bottom color
  if x1 > x0 then canvas.vline x1 top bottom color else some canvas

/-- The outline inside the rectangle's own bounds; the corners belong to the rows. -/
def outlineRect (canvas : Canvas) (rect : Rect) (color : Color) : Option Canvas :=
  if rect.isEmpty then some canvas
  else do
    let x0 := rect.x
    let y0 := rect.y
    let x1 := rect.right - 1
    let y1 := rect.bottom - 1
    let canvas ← canvas.hline y0 x0 x1 color
    let canvas ← (if y1 > y0 then canvas.hline y1 x0 x1 color else some canvas)
    if y1 ≥ clampI32 (y0 + 2) then canvas.outlineColumns x0 y0 x1 y1 color else some canvas

/-- The loop, for that many rounds; `none` where it needs more. -/
def lineFrom (dx dy stepX stepY : ℤ) (stop : Point) (color : Color) :
    ℕ → Pen → Canvas → Option Canvas
  | 0, _, _ => none
  | rounds + 1, pen, canvas => do
    let canvas ← canvas.pixel ⟨wrapI32 pen.x, wrapI32 pen.y⟩ color
    if pen.x = stop.x ∧ pen.y = stop.y then some canvas
    else lineFrom dx dy stepX stepY stop color rounds (pen.next dx dy stepX stepY) canvas

/-- A line of single pixels, both ends included; the code bounds the rounds only by the line. -/
def line (canvas : Canvas) (start stop : Point) (color : Color) (rounds : ℕ) : Option Canvas :=
  let dx : ℤ := (stop.x - start.x).natAbs
  let dy : ℤ := -(stop.y - start.y).natAbs
  let stepX := toward start.x stop.x
  let stepY := toward start.y stop.y
  lineFrom dx dy stepX stepY stop color rounds ⟨start.x, start.y, dx + dy⟩ canvas

end Canvas

/-! ## What is drawn on a buffer -/

/-- The colour of a pixel of the buffer. -/
def colorAt (image : ImageBuffer) (x y : ℕ) : Color :=
  let offset := y * image.stride + x * 4
  { r := image.data.getD offset 0
    g := image.data.getD (offset + 1) 0
    b := image.data.getD (offset + 2) 0
    a := image.data.getD (offset + 3) 0 }

/-- The byte belongs to a pixel and not to the padding. -/
def InPixel (image : ImageBuffer) (index : ℕ) : Prop :=
  ∃ x y, x < image.width ∧ y < image.height ∧
    y * image.stride + x * 4 ≤ index ∧ index < y * image.stride + x * 4 + 4

/-- The second buffer is the first one with the layers over it; the padding is as it was. -/
structure Inked (layers : List (Layer Point Color)) (before after : ImageBuffer) : Prop where
  width : after.width = before.width
  height : after.height = before.height
  stride : after.stride = before.stride
  format : after.format = before.format
  length : after.data.length = before.data.length
  pixels : ∀ x y : ℕ, x < before.width → y < before.height →
    colorAt after x y = laid blendOver layers ⟨x, y⟩ (colorAt before x y)
  padding : ∀ index, ¬ InPixel before index → after.data[index]? = before.data[index]?

variable {first second third : ImageBuffer} {layers others : List (Layer Point Color)}

theorem Inked.refl (image : ImageBuffer) : Inked [] image image :=
  ⟨rfl, rfl, rfl, rfl, rfl, fun _ _ _ _ => rfl, fun _ _ => rfl⟩

theorem Inked.in_pixel (inked : Inked layers first second) (index : ℕ) :
    InPixel second index ↔ InPixel first index := by
  unfold InPixel
  rw [inked.width, inked.height, inked.stride]

theorem Inked.formed (inked : Inked layers first second) (formed : WellFormed first) :
    WellFormed second := by
  obtain ⟨width, height, stride, row, full⟩ := formed
  constructor
  · rw [inked.width]; exact width
  · rw [inked.height]; exact height
  · rw [inked.stride]; exact stride
  · rw [inked.width, inked.stride]; exact row
  · rw [inked.stride, inked.height, inked.length]; exact full

theorem Inked.trans (under : Inked layers first second) (above : Inked others second third) :
    Inked (layers ++ others) first third where
  width := above.width.trans under.width
  height := above.height.trans under.height
  stride := above.stride.trans under.stride
  format := above.format.trans under.format
  length := above.length.trans under.length
  pixels x y column row := by
    have columns : x < second.width := by rw [under.width]; exact column
    have rows : y < second.height := by rw [under.height]; exact row
    rw [above.pixels x y columns rows, under.pixels x y column row, laid_append]
  padding index outside := by
    have still : ¬ InPixel second index := fun inside => outside ((under.in_pixel index).mp inside)
    rw [above.padding index still, under.padding index outside]

/-- Layers that show the same on all pixels are as good. -/
theorem Inked.congr (inked : Inked layers first second)
    (same : ∀ (x y : ℕ) (under : Color), x < first.width → y < first.height →
      laid blendOver layers ⟨x, y⟩ under = laid blendOver others ⟨x, y⟩ under) :
    Inked others first second :=
  { inked with
    pixels := fun x y column row => by
      rw [inked.pixels x y column row, same x y _ column row] }

/-! ## Single pixels -/

theorem length_to_array (color : Color) : color.toArray.length = 4 := rfl

theorem pixel_at_eq {data : List UInt8} {offset : ℕ} (inside : offset + 4 ≤ data.length) :
    pixelAt data offset = some ⟨data.getD offset 0, data.getD (offset + 1) 0,
      data.getD (offset + 2) 0, data.getD (offset + 3) 0⟩ := by
  have sliced := slice_inside inside
  have four : ((data.drop offset).take 4).length = 4 := slice_length sliced
  have bytes : ∀ index < 4, ((data.drop offset).take 4)[index]? = data[offset + index]? :=
    fun index low => slice_get sliced low
  unfold pixelAt
  rw [sliced]
  match found : (data.drop offset).take 4, four with
  | [r, g, b, a], _ =>
    rw [found] at bytes
    have byte : ∀ index (low : index < 4), data.getD (offset + index) 0 =
        [r, g, b, a].getD index 0 := by
      intro index low
      rw [List.getD_eq_getElem?_getD, List.getD_eq_getElem?_getD, ← bytes index low]
    have zeroth := byte 0 (by decide)
    rw [Nat.add_zero] at zeroth
    rw [zeroth, byte 1 (by decide), byte 2 (by decide), byte 3 (by decide)]
    rfl

/-- The bytes of two pixels are apart. -/
theorem pixels_apart {image : ImageBuffer} (formed : WellFormed image) {x y x' y' index : ℕ}
    (column : x < image.width) (column' : x' < image.width)
    (here : y * image.stride + x * 4 ≤ index ∧ index < y * image.stride + x * 4 + 4)
    (there : y' * image.stride + x' * 4 ≤ index ∧ index < y' * image.stride + x' * 4 + 4) :
    x = x' ∧ y = y' := by
  have row := formed.row
  have above : ∀ low high : ℕ, low < high →
      low * image.stride + image.stride ≤ high * image.stride := by
    intro low high order
    have next : (low + 1) * image.stride ≤ high * image.stride := Nat.mul_le_mul_right _ order
    rwa [Nat.add_mul, Nat.one_mul] at next
  have rows : y = y' := by
    rcases Nat.lt_trichotomy y y' with before | same | after
    · have room := above y y' before
      omega
    · exact same
    · have room := above y' y after
      omega
  subst rows
  exact ⟨by omega, rfl⟩

/-- Blending at a pixel changes that pixel and no other byte. -/
theorem blend_at_inked {canvas : Canvas} (formed : WellFormed canvas.buffer) {x y : ℕ}
    (column : x < canvas.buffer.width) (row : y < canvas.buffer.height) (color : Color) :
    ∃ buffer, canvas.blendAt (y * canvas.buffer.stride + x * 4) color =
        some { canvas with buffer } ∧
      Inked [⟨fun p => decide (p = ⟨x, y⟩), color⟩] canvas.buffer buffer := by
  obtain ⟨image, clip⟩ := canvas
  dsimp only at formed column row ⊢
  have inside := pixel_inside formed column row
  have room : y * image.stride + x * 4 + (blendOver color (colorAt image x y)).toArray.length ≤
      image.data.length := by
    rw [length_to_array]
    exact inside
  have old : pixelAt image.data (y * image.stride + x * 4) = some (colorAt image x y) :=
    pixel_at_eq inside
  have spliced : ∃ data, splice image.data (y * image.stride + x * 4)
      (blendOver color (colorAt image x y)).toArray = some data :=
    ⟨_, splice_inside room⟩
  obtain ⟨data, spliced⟩ := spliced
  have bytes := splice_get spliced
  rw [length_to_array] at bytes
  refine ⟨{ image with data }, ?_, rfl, rfl, rfl, rfl, splice_length spliced, ?_, ?_⟩
  · unfold Canvas.blendAt
    dsimp only
    rw [old, Option.bind_eq_bind, Option.bind_some, spliced]
    rfl
  · intro column' row' inColumn inRow
    have byte : ∀ index, index < 4 →
        data.getD (row' * image.stride + column' * 4 + index) 0 =
          if x = column' ∧ y = row' then
            (blendOver color (colorAt image x y)).toArray.getD index 0
          else image.data.getD (row' * image.stride + column' * 4 + index) 0 := by
      intro index low
      rw [List.getD_eq_getElem?_getD, bytes]
      by_cases same : x = column' ∧ y = row'
      · obtain ⟨rfl, rfl⟩ := same
        have here : y * image.stride + x * 4 ≤ y * image.stride + x * 4 + index ∧
            y * image.stride + x * 4 + index < y * image.stride + x * 4 + 4 := by omega
        rw [if_pos here, if_pos ⟨rfl, rfl⟩, Nat.add_sub_cancel_left,
          List.getD_eq_getElem?_getD]
      · have away : ¬ (y * image.stride + x * 4 ≤ row' * image.stride + column' * 4 + index ∧
            row' * image.stride + column' * 4 + index < y * image.stride + x * 4 + 4) :=
          fun here => same (pixels_apart formed column inColumn here (by omega))
        rw [if_neg same, if_neg away, List.getD_eq_getElem?_getD]
    have zeroth := byte 0 (by decide)
    rw [Nat.add_zero] at zeroth
    unfold colorAt
    dsimp only
    rw [zeroth, byte 1 (by decide), byte 2 (by decide), byte 3 (by decide)]
    by_cases same : x = column' ∧ y = row'
    · obtain ⟨rfl, rfl⟩ := same
      rw [if_pos ⟨rfl, rfl⟩, if_pos ⟨rfl, rfl⟩, if_pos ⟨rfl, rfl⟩, if_pos ⟨rfl, rfl⟩,
        laid_hit (decide_eq_true rfl)]
      rfl
    · have missed : ¬ (⟨column', row'⟩ : Point) = ⟨x, y⟩ := by
        rw [Point.mk.injEq]
        omega
      rw [if_neg same, if_neg same, if_neg same, if_neg same, laid_miss (decide_eq_false missed)]
      rfl
  · intro index outside
    have away : ¬ (y * image.stride + x * 4 ≤ index ∧ index < y * image.stride + x * 4 + 4) :=
      fun here => outside ⟨x, y, column, row, here⟩
    rw [bytes, if_neg away]

/-! ## Rectangles -/

/-- A buffer whose coordinates are an `i32` each, and a clip of the source. -/
structure Sound (canvas : Canvas) : Prop where
  formed : WellFormed canvas.buffer
  low : (canvas.buffer.height : ℤ) < i32Max
  clip : InRange canvas.clip

/-- The second canvas is the first one with the layers over what is visible of it. -/
structure Draws (canvas : Canvas) (layers : List (Layer Point Color)) (after : Canvas) : Prop where
  clip : after.clip = canvas.clip
  inked : Inked (layers.map (Layer.within (contains canvas.clip))) canvas.buffer after.buffer

variable {canvas after last : Canvas}

/-- Rows of four bytes for each pixel leave no room for more columns. -/
theorem Sound.narrow (sound : Sound canvas) : (canvas.buffer.width : ℤ) < i32Max := by
  have row := sound.formed.row
  have stride := sound.formed.stride
  simp only [i32Max, u32Max] at *
  omega

theorem Draws.refl (canvas : Canvas) : Draws canvas [] canvas := ⟨rfl, .refl _⟩

theorem Draws.trans (under : Draws canvas layers after) (above : Draws after others last) :
    Draws canvas (layers ++ others) last := by
  obtain ⟨clip, inked⟩ := above
  rw [under.clip] at clip inked
  refine ⟨clip, ?_⟩
  rw [List.map_append]
  exact under.inked.trans inked

theorem Draws.sound (draws : Draws canvas layers after) (sound : Sound canvas) : Sound after where
  formed := draws.inked.formed sound.formed
  low := by rw [draws.inked.height]; exact sound.low
  clip := by rw [draws.clip]; exact sound.clip

/-- Layers that show the same on all visible pixels are as good. -/
theorem Draws.congr (draws : Draws canvas layers after)
    (same : ∀ (x y : ℕ) (under : Color), x < canvas.buffer.width → y < canvas.buffer.height →
      contains canvas.clip ⟨x, y⟩ = true →
        laid blendOver layers ⟨x, y⟩ under = laid blendOver others ⟨x, y⟩ under) :
    Draws canvas others after := by
  refine ⟨draws.clip, draws.inked.congr fun x y under column row => ?_⟩
  rw [laid_within, laid_within]
  split
  · next inside => exact same x y under column row inside
  · rfl

/-- A shape of which nothing is visible needs no drawing. -/
theorem Draws.nothing {shape : Point → Bool} (color : Color)
    (hidden : ∀ x y : ℕ, x < canvas.buffer.width → y < canvas.buffer.height →
      contains canvas.clip ⟨x, y⟩ = true → shape ⟨x, y⟩ = false) :
    Draws canvas [⟨shape, color⟩] canvas := by
  refine (Draws.refl canvas).congr fun x y under column row inside => ?_
  rw [laid_miss (hidden x y column row inside)]

/-- Two shapes of one colour whose visible pixels are apart are drawn as one. -/
theorem Draws.joined (sound : Sound canvas) {shape piece : Point → Bool} {color : Color}
    (under : Draws canvas [⟨shape, color⟩] after) (above : Draws after [⟨piece, color⟩] last)
    (apart : ∀ p : Point, p.x < i32Max → p.y < i32Max → shape p = true → piece p = false) :
    Draws canvas [⟨fun p => shape p || piece p, color⟩] last := by
  refine (under.trans above).congr fun x y shown column row _ => ?_
  have narrow := sound.narrow
  have low := sound.low
  have aside := apart ⟨x, y⟩ (by dsimp only; omega) (by dsimp only; omega)
  rw [List.singleton_append]
  cases first : shape ⟨x, y⟩ with
  | true =>
    have both : (shape ⟨x, y⟩ || piece ⟨x, y⟩) = true := by rw [first, Bool.true_or]
    rw [laid_hit first, laid_miss (aside first), laid_hit both]
  | false =>
    have second : piece ⟨x, y⟩ = (shape ⟨x, y⟩ || piece ⟨x, y⟩) := by rw [first, Bool.false_or]
    rw [laid_miss first]
    exact laid_single color second

/-- Only the visible pixels of a shape matter. -/
theorem Draws.shaped (sound : Sound canvas) {shape other : Point → Bool} {color : Color}
    (draws : Draws canvas [⟨shape, color⟩] after)
    (same : ∀ p : Point, 0 ≤ p.x → p.x < i32Max - 1 → 0 ≤ p.y → p.y < i32Max - 1 →
      shape p = other p) :
    Draws canvas [⟨other, color⟩] after := by
  have narrow := sound.narrow
  have low := sound.low
  refine draws.congr fun x y under column row _ => laid_single color (same _ ?_ ?_ ?_ ?_) <;>
    · dsimp only
      omega

/-- A loop whose rounds draw pieces that are apart draws the whole shape. -/
theorem draws_rounds (sound : Sound canvas) {body : ℕ → Canvas → Option Canvas}
    {start stop : ℕ} (order : start ≤ stop) {color : Color} (piece : ℕ → Point → Bool)
    {whole : Point → Bool}
    (round : ∀ index state painted, start ≤ index → index < stop → Draws canvas painted state →
      ∃ next, body index state = some next ∧ Draws state [⟨piece index, color⟩] next)
    (apart : ∀ index other p, piece index p = true → piece other p = true → index = other)
    (same : ∀ p, whole p = true ↔ ∃ index, start ≤ index ∧ index < stop ∧ piece index p = true) :
    ∃ after, forRange start stop body canvas = some after ∧
      Draws canvas [⟨whole, color⟩] after := by
  let drawn (index : ℕ) (p : Point) : Bool :=
    union ((List.range' start (index - start)).map piece) p
  have drawn_iff : ∀ index p, drawn index p = true ↔
      ∃ earlier, start ≤ earlier ∧ earlier < index ∧ piece earlier p = true := by
    intro index p
    simp only [drawn, union, List.any_map, List.any_eq_true, List.mem_range'_1, and_assoc,
      Function.comp_apply]
    exact exists_congr fun earlier => and_congr_right fun later => by
      rw [show earlier < start + (index - start) ↔ earlier < index by omega]
  obtain ⟨after, ran, draws⟩ := for_range_rule body
    (fun index state => Draws canvas [⟨drawn index, color⟩] state) order
    (Draws.nothing color fun x y _ _ _ => by
      rw [Bool.eq_false_iff, ne_eq, drawn_iff]
      omega)
    (by
      intro index state later earlier draws
      obtain ⟨next, ran, more⟩ := round index state _ later earlier draws
      refine ⟨next, ran, (draws.joined sound more fun p _ _ inside => ?_).shaped sound
        fun p _ _ _ _ => ?_⟩
      · rw [Bool.eq_false_iff]
        intro again
        obtain ⟨old, -, before, covers⟩ := (drawn_iff index p).mp inside
        exact absurd (apart old index p covers again) (Nat.ne_of_lt before)
      · rw [Bool.eq_iff_iff, Bool.or_eq_true, drawn_iff, drawn_iff]
        constructor
        · rintro (⟨old, from_start, before, covers⟩ | covers)
          · exact ⟨old, from_start, by omega, covers⟩
          · exact ⟨index, later, Nat.lt_succ_self index, covers⟩
        · rintro ⟨old, from_start, before, covers⟩
          rcases Nat.lt_succ_iff_lt_or_eq.mp before with before | rfl
          · exact .inl ⟨old, from_start, before, covers⟩
          · exact .inr covers)
  refine ⟨after, ran, draws.shaped sound fun p _ _ _ _ => ?_⟩
  rw [Bool.eq_iff_iff, drawn_iff, same]

/-- A visible pixel is blended. -/
theorem blend_at_draws (formed : WellFormed canvas.buffer) {x y : ℕ}
    (column : x < canvas.buffer.width) (row : y < canvas.buffer.height)
    (shown : contains canvas.clip ⟨x, y⟩ = true) (color : Color) :
    ∃ after, canvas.blendAt (y * canvas.buffer.stride + x * 4) color = some after ∧
      Draws canvas [⟨fun p => decide (p = ⟨x, y⟩), color⟩] after := by
  obtain ⟨buffer, blended, inked⟩ := blend_at_inked formed column row color
  refine ⟨_, blended, rfl, inked.congr fun _ _ _ _ _ => laid_single color ?_⟩
  rw [Bool.eq_iff_iff, Bool.and_eq_true, decide_eq_true_eq]
  exact ⟨fun here => ⟨here ▸ shown, here⟩, And.right⟩

/-- What is visible of a rectangle is inside the buffer. -/
structure Visible (canvas : Canvas) (rect area : Rect) : Prop where
  left : 0 ≤ area.x
  top : 0 ≤ area.y
  width : area.x.toNat + area.w ≤ canvas.buffer.width
  height : area.y.toNat + area.h ≤ canvas.buffer.height
  right : area.right = area.x + area.w
  bottom : area.bottom = area.y + area.h
  shown : ∀ x y : ℕ, x < canvas.buffer.width → y < canvas.buffer.height →
    contains area ⟨x, y⟩ = (contains canvas.clip ⟨x, y⟩ && contains rect ⟨x, y⟩)

theorem buffer_rect_contains (image : ImageBuffer) (x y : ℕ) (column : x < image.width)
    (row : y < image.height) : contains image.rect ⟨x, y⟩ = true := by
  have filled : image.rect.isEmpty = false := by
    rw [empty_iff]
    exact ⟨Nat.zero_lt_of_lt column, Nat.zero_lt_of_lt row⟩
  rw [contains_iff, ImageBuffer.rect]
  dsimp only
  exact ⟨filled, by omega⟩

theorem buffer_rect_range {image : ImageBuffer} (formed : WellFormed image) :
    InRange image.rect := by
  have width := formed.width
  have height := formed.height
  constructor <;> simp only [ImageBuffer.rect, i32Min, i32Max] <;> omega

theorem visible_spec (sound : Sound canvas) {rect area : Rect} (range : InRange rect)
    (found : canvas.visible rect = some area) : Visible canvas rect area := by
  obtain ⟨part, inBuffer, inClip⟩ := Option.bind_eq_some_iff.mp found
  have bounds := buffer_rect_range sound.formed
  obtain ⟨partFilled, partShown⟩ := contains_intersect range bounds inBuffer
  obtain ⟨areaFilled, areaShown⟩ := contains_intersect partFilled.toInRange sound.clip inClip
  have filled : area.isEmpty = false := areaFilled.filled
  have narrow := sound.narrow
  have low := sound.low
  obtain ⟨width, height⟩ := empty_iff.mp filled
  -- Both corners of the area are inside the buffer.
  have corner : ∀ p, contains area p = true →
      0 ≤ p.x ∧ p.x < canvas.buffer.width ∧ 0 ≤ p.y ∧ p.y < canvas.buffer.height := by
    intro p inside
    rw [areaShown, partShown, Bool.and_eq_true, Bool.and_eq_true] at inside
    obtain ⟨-, left, right, top, bottom⟩ := contains_iff.mp inside.1.2
    simp only [ImageBuffer.rect] at left right top bottom
    omega
  have start := corner ⟨area.x, area.y⟩ (contains_iff.mpr ⟨filled, by dsimp only; omega⟩)
  have stop := corner ⟨area.x + area.w - 1, area.y + area.h - 1⟩
    (contains_iff.mpr ⟨filled, by dsimp only; omega⟩)
  dsimp only at start stop
  refine ⟨start.1, start.2.2.1, by omega, by omega, ?_, ?_, ?_⟩
  · exact clamp_inside (by simp only [i32Min]; omega) (by omega)
  · exact clamp_inside (by simp only [i32Min]; omega) (by omega)
  · intro x y column row
    rw [areaShown, partShown, buffer_rect_contains _ x y column row, Bool.and_true, Bool.and_comm]

/-- One row of what is visible of a rectangle is drawn. -/
theorem fill_row_draws (sound : Sound canvas) {rect area : Rect} {color : Color}
    (visible : Visible canvas rect area) {row : ℕ} (low : area.y ≤ row)
    (high : row < area.y + area.h) :
    ∃ after, Canvas.fillRow area color row canvas = some after ∧
      Draws canvas [⟨fun p => decide (p.y = row) && contains area p, color⟩] after := by
  have left := visible.left
  have width := visible.width
  have height := visible.height
  have right := visible.right
  refine draws_rounds sound (by omega) (fun x p => decide (p = ⟨x, row⟩)) ?_ ?_ ?_
  · intro x state painted later earlier draws
    have column : x < canvas.buffer.width := by omega
    have shown := visible.shown x row column (by omega)
    rw [contains_iff.mpr ⟨empty_iff.mpr (by omega), by dsimp only; omega⟩] at shown
    refine blend_at_draws (draws.inked.formed sound.formed) ?_ ?_ ?_ color
    · rw [draws.inked.width]; exact column
    · rw [draws.inked.height]; omega
    · rw [draws.clip]; exact (Bool.and_eq_true_iff.mp shown.symm).1
  · intro x other p here there
    have same := (of_decide_eq_true here).symm.trans (of_decide_eq_true there)
    exact Int.ofNat_inj.mp (Point.mk.inj same).1
  · rintro ⟨px, py⟩
    simp only [Bool.and_eq_true, decide_eq_true_eq, contains_iff, empty_iff, Point.mk.injEq]
    constructor
    · rintro ⟨rfl, -, inside⟩
      exact ⟨px.toNat, by omega, by omega, by omega, rfl⟩
    · rintro ⟨x, later, earlier, rfl, rfl⟩
      omega

/-- Filling a rectangle blends its visible pixels once each. -/
theorem fill_rect_draws (sound : Sound canvas) {rect : Rect} (range : InRange rect)
    (color : Color) :
    ∃ after, canvas.fillRect rect color = some after ∧
      Draws canvas [⟨contains rect, color⟩] after := by
  unfold Canvas.fillRect
  cases found : canvas.visible rect with
  | none =>
    refine ⟨canvas, rfl, Draws.nothing color fun x y column row inside => ?_⟩
    have bounds := buffer_rect_range sound.formed
    have shown := buffer_rect_contains canvas.buffer x y column row
    unfold Canvas.visible at found
    cases within : rect.intersect canvas.buffer.rect with
    | none =>
      have hidden := intersect_disjoint within ⟨x, y⟩
      rw [shown, Bool.and_true] at hidden
      exact hidden
    | some part =>
      rw [within, Option.bind_some] at found
      have hidden := intersect_disjoint found ⟨x, y⟩
      rw [(contains_intersect range bounds within).2, shown, inside, Bool.and_true,
        Bool.and_true] at hidden
      exact hidden
  | some area =>
    have visible := visible_spec sound range found
    have top := visible.top
    have height := visible.height
    have bottom := visible.bottom
    have filled : ∃ after, forRange area.y.toNat area.bottom.toNat (Canvas.fillRow area color)
        canvas = some after ∧ Draws canvas [⟨contains area, color⟩] after := by
      refine draws_rounds sound (by omega) (fun row p => decide (p.y = row) && contains area p)
        ?_ ?_ ?_
      · intro row state painted later earlier draws
        have same : Visible state rect area :=
          { visible with
            width := by rw [draws.inked.width]; exact visible.width
            height := by rw [draws.inked.height]; exact visible.height
            shown := by
              rw [draws.inked.width, draws.inked.height, draws.clip]
              exact visible.shown }
        exact fill_row_draws (draws.sound sound) same (by omega) (by omega)
      · intro row other p here there
        have first := of_decide_eq_true (Bool.and_eq_true_iff.mp here).1
        have second := of_decide_eq_true (Bool.and_eq_true_iff.mp there).1
        omega
      · intro p
        simp only [Bool.and_eq_true, decide_eq_true_eq]
        constructor
        · intro inside
          have covers := contains_iff.mp inside
          exact ⟨p.y.toNat, by omega, by omega, by omega, inside⟩
        · rintro ⟨-, -, -, -, inside⟩
          exact inside
    obtain ⟨after, ran, draws⟩ := filled
    refine ⟨after, ran, draws.congr fun x y under column row inside => laid_single color ?_⟩
    rw [visible.shown x y column row, inside, Bool.true_and]

/-! ## Outlines -/

def InI32 (value : ℤ) : Prop := i32Min ≤ value ∧ value ≤ i32Max

instance (value : ℤ) : Decidable (InI32 value) := inferInstanceAs (Decidable (_ ∧ _))

theorem span_range {x0 y0 x1 y1 : ℤ} (left : InI32 x0) (top : InI32 y0) :
    InRange (span x0 y0 x1 y1) :=
  ⟨left.1, left.2, top.1, top.2, Nat.min_le_right _ _, Nat.min_le_right _ _⟩

/-- A span is cut only where it ends at `i32::MAX`. -/
theorem span_iff {x0 y0 x1 y1 : ℤ} (left : i32Min ≤ x0) (top : i32Min ≤ y0) {p : Point}
    (column : p.x < i32Max) (row : p.y < i32Max) :
    contains (span x0 y0 x1 y1) p = true ↔ (x0 ≤ p.x ∧ p.x ≤ x1) ∧ y0 ≤ p.y ∧ p.y ≤ y1 := by
  rw [contains_iff, empty_iff, span]
  simp only [i32Min, i32Max, u32Max] at left top column row ⊢
  omega

/-- The pixels of a row from one column to the other, in either order. -/
def alongRow (y x0 x1 : ℤ) (p : Point) : Bool :=
  decide (p.y = y ∧ min x0 x1 ≤ p.x ∧ p.x ≤ max x0 x1)

def alongColumn (x y0 y1 : ℤ) (p : Point) : Bool :=
  decide (p.x = x ∧ min y0 y1 ≤ p.y ∧ p.y ≤ max y0 y1)

theorem span_draws (sound : Sound canvas) {x0 y0 : ℤ} (x1 y1 : ℤ) (left : InI32 x0)
    (top : InI32 y0) (color : Color) :
    ∃ after, canvas.fillRect (span x0 y0 x1 y1) color = some after ∧
      Draws canvas
        [⟨fun p => decide ((x0 ≤ p.x ∧ p.x ≤ x1) ∧ y0 ≤ p.y ∧ p.y ≤ y1), color⟩] after := by
  obtain ⟨after, drawn, draws⟩ := fill_rect_draws sound (@span_range x0 y0 x1 y1 left top) color
  refine ⟨after, drawn, draws.shaped sound fun p _ column _ row => ?_⟩
  rw [Bool.eq_iff_iff, decide_eq_true_eq]
  exact span_iff left.1 top.1 (by omega) (by omega)

theorem hline_draws (sound : Sound canvas) {y x0 x1 : ℤ} (row : InI32 y) (left : InI32 x0)
    (right : InI32 x1) (color : Color) :
    ∃ after, canvas.hline y x0 x1 color = some after ∧
      Draws canvas [⟨alongRow y x0 x1, color⟩] after := by
  have shape : ∀ p : Point, alongRow y x0 x1 p =
      decide ((min x0 x1 ≤ p.x ∧ p.x ≤ max x0 x1) ∧ y ≤ p.y ∧ p.y ≤ y) := by
    intro p
    rw [alongRow, decide_eq_decide]
    omega
  unfold Canvas.hline
  rw [funext shape]
  rcases le_or_gt x0 x1 with order | order
  · rw [if_pos order, min_eq_left order, max_eq_right order]
    exact span_draws sound x1 y left row color
  · rw [if_neg (not_le.mpr order), min_eq_right order.le, max_eq_left order.le]
    exact span_draws sound x0 y right row color

theorem vline_draws (sound : Sound canvas) {x y0 y1 : ℤ} (column : InI32 x) (top : InI32 y0)
    (bottom : InI32 y1) (color : Color) :
    ∃ after, canvas.vline x y0 y1 color = some after ∧
      Draws canvas [⟨alongColumn x y0 y1, color⟩] after := by
  have shape : ∀ p : Point, alongColumn x y0 y1 p =
      decide ((x ≤ p.x ∧ p.x ≤ x) ∧ min y0 y1 ≤ p.y ∧ p.y ≤ max y0 y1) := by
    intro p
    rw [alongColumn, decide_eq_decide]
    omega
  unfold Canvas.vline
  rw [funext shape]
  rcases le_or_gt y0 y1 with order | order
  · rw [if_pos order, min_eq_left order, max_eq_right order]
    exact span_draws sound x y1 column top color
  · rw [if_neg (not_le.mpr order), min_eq_right order.le, max_eq_left order.le]
    exact span_draws sound x y0 column bottom color

/-- Something that is drawn only under a condition. -/
theorem optional_draws {shape : Point → Bool} {color : Color} {drawing : Option Canvas}
    (condition : Prop) [Decidable condition]
    (draws : condition → ∃ after, drawing = some after ∧ Draws canvas [⟨shape, color⟩] after) :
    ∃ after, (if condition then drawing else some canvas) = some after ∧
      Draws canvas [⟨fun p => decide condition && shape p, color⟩] after := by
  by_cases holds : condition
  · obtain ⟨after, drawn, shown⟩ := draws holds
    refine ⟨after, (if_pos holds).trans drawn, shown.congr fun x y under _ _ _ => ?_⟩
    refine laid_single color ?_
    rw [decide_eq_true holds, Bool.true_and]
  · refine ⟨canvas, if_neg holds, Draws.nothing color fun x y _ _ _ => ?_⟩
    rw [decide_eq_false holds, Bool.false_and]

theorem outline_columns_draws (sound : Sound canvas) {x0 y0 x1 y1 : ℤ} (left : InI32 x0)
    (right : InI32 x1) (top : i32Min ≤ y0) (bottom : y1 ≤ i32Max) (tall : y0 + 2 ≤ y1)
    (color : Color) :
    ∃ after, canvas.outlineColumns x0 y0 x1 y1 color = some after ∧
      Draws canvas [⟨fun p => decide ((p.x = x0 ∨ x0 < x1 ∧ p.x = x1) ∧ y0 < p.y ∧ p.y < y1),
        color⟩] after := by
  have below : InI32 (y0 + 1) := by
    constructor <;> simp only [i32Min, i32Max] at * <;> omega
  have above : InI32 (y1 - 1) := by
    constructor <;> simp only [i32Min, i32Max] at * <;> omega
  have topAt : clampI32 (y0 + 1) = y0 + 1 := clamp_inside below.1 below.2
  obtain ⟨one, drawOne, first⟩ := vline_draws sound left below above color
  obtain ⟨two, drawTwo, second⟩ := optional_draws (x1 > x0)
    fun _ => vline_draws (first.sound sound) right below above color
  refine ⟨two, ?_, (first.joined sound second ?_).shaped sound ?_⟩
  · unfold Canvas.outlineColumns
    dsimp only
    rw [topAt, drawOne]
    exact drawTwo
  · intro p _ _ inside
    rw [alongColumn, decide_eq_true_eq] at inside
    rw [alongColumn, ← Bool.decide_and, decide_eq_false_iff_not]
    omega
  · intro p _ _ _ _
    rw [alongColumn, alongColumn, ← Bool.decide_and, ← Bool.decide_or, decide_eq_decide]
    omega

/-- The pixels of the first and the last row and column. -/
def onBoundary (rect : Rect) (p : Point) : Bool :=
  contains rect p && decide (p.x = rect.x ∨ p.x = rect.x + rect.w - 1 ∨
    p.y = rect.y ∨ p.y = rect.y + rect.h - 1)

/-- The last pixel of an axis, which saturates only far outside of every buffer. -/
theorem last_cases {start : ℤ} {size : ℕ} (range : InI32 start) (filled : 0 < size) :
    InI32 (clampI32 (start + size) - 1) ∧ clampI32 (start + size) ≤ i32Max ∧
      (clampI32 (start + size) = start + size ∨
        clampI32 (start + size) = i32Max ∧ i32Max ≤ start + size) := by
  unfold InI32 clampI32 at *
  simp only [i32Min, i32Max] at *
  split_ifs <;> omega

/-- Outlining a rectangle blends the visible pixels of its boundary once each. -/
theorem outline_rect_draws (sound : Sound canvas) {rect : Rect} (range : InRange rect)
    (color : Color) :
    ∃ after, canvas.outlineRect rect color = some after ∧
      Draws canvas [⟨onBoundary rect, color⟩] after := by
  unfold Canvas.outlineRect
  cases filled : rect.isEmpty with
  | true =>
    refine ⟨canvas, rfl, Draws.nothing color fun x y _ _ _ => ?_⟩
    rw [onBoundary, contains, filled]
    rfl
  | false =>
    obtain ⟨width, height⟩ := empty_iff.mp filled
    have left : InI32 rect.x := ⟨range.left, range.right⟩
    have top : InI32 rect.y := ⟨range.top, range.bottom⟩
    obtain ⟨right, -, rightAt⟩ := last_cases left width
    obtain ⟨bottom, highest, bottomAt⟩ := last_cases top height
    rw [if_neg (by decide)]
    dsimp only
    unfold Rect.right Rect.bottom
    generalize clampI32 (rect.x + rect.w) = x1 at *
    generalize clampI32 (rect.y + rect.h) = y1 at *
    obtain ⟨one, drawOne, first⟩ := hline_draws sound top left right color
    have soundOne := first.sound sound
    obtain ⟨two, drawTwo, second⟩ := optional_draws (y1 - 1 > rect.y)
      fun _ => hline_draws soundOne bottom left right color
    have rows := first.joined sound second (by
      intro p _ _ inside
      rw [alongRow, decide_eq_true_eq] at inside
      rw [alongRow, ← Bool.decide_and, decide_eq_false_iff_not]
      omega)
    have tallAt : y1 - 1 ≥ clampI32 (rect.y + 2) ↔ rect.y + 2 ≤ y1 - 1 := by
      have topLow := top.1
      have topHigh := top.2
      unfold clampI32
      simp only [i32Min, i32Max] at *
      split_ifs <;> omega
    obtain ⟨three, drawThree, third⟩ := optional_draws (y1 - 1 ≥ clampI32 (rect.y + 2))
      fun tall => outline_columns_draws (rows.sound sound) left right top.1 bottom.2
        (tallAt.mp tall) color
    refine ⟨three, ?_, (rows.joined sound third ?_).shaped sound ?_⟩
    · rw [drawOne, Option.bind_eq_bind, Option.bind_some, drawTwo]
      exact drawThree
    · intro p _ _ inside
      rw [alongRow, alongRow, ← Bool.decide_and, ← Bool.decide_or, decide_eq_true_eq] at inside
      rw [← Bool.decide_and, decide_eq_false_iff_not]
      omega
    · intro p _ column _ row
      rw [Bool.eq_iff_iff]
      simp only [alongRow, onBoundary, tallAt, Bool.or_eq_true, Bool.and_eq_true,
        decide_eq_true_eq, contains_iff, filled, true_and]
      rcases rightAt with rightAt | rightAt <;> rcases bottomAt with bottomAt | bottomAt <;> omega

/-! ## Lines -/

theorem pixel_draws (sound : Sound canvas) (p : Point) (color : Color) :
    ∃ after, canvas.pixel p color = some after ∧
      Draws canvas [⟨fun q => decide (q = p), color⟩] after := by
  unfold Canvas.pixel
  cases found : canvas.offset p with
  | none =>
    refine ⟨canvas, rfl, Draws.nothing color fun x y column row inside => ?_⟩
    rw [decide_eq_false_iff_not]
    rintro rfl
    have room := pixel_inside sound.formed column row
    unfold Canvas.offset at found
    rw [inside] at found
    simp only [Bool.not_true, Bool.false_or, Int.natCast_nonneg, not_lt_of_ge, decide_false,
      Bool.false_eq_true, if_false, Int.toNat_natCast] at found
    rw [if_neg (by omega), if_neg (by omega)] at found
    cases found
  | some offset =>
    unfold Canvas.offset at found
    split at found
    · cases found
    · next shown =>
      simp only [Bool.not_eq_true, Bool.or_eq_false_iff, Bool.not_eq_false',
        decide_eq_false_iff_not, not_lt] at shown
      obtain ⟨⟨inside, left⟩, top⟩ := shown
      obtain ⟨x, y⟩ := p
      lift x to ℕ using left
      lift y to ℕ using top
      dsimp only [Int.toNat_natCast] at found
      split at found
      · cases found
      · next within =>
        split at found
        · cases found
        · cases found
          exact blend_at_draws sound.formed (by omega) (by omega) inside color

/-- The longer of the two distances that a line covers. -/
def reach (start stop : Point) : ℕ := max (stop.x - start.x).natAbs (stop.y - start.y).natAbs

/-- How far an axis has come after that many of the steps of a line, rounded half up. -/
def advanced (start stop : Point) (distance steps : ℕ) : ℕ :=
  halfUp (distance * steps) (reach start stop)

/-- The pixels of a line, numbered from its start. -/
def linePoint (start stop : Point) (steps : ℕ) : Point :=
  ⟨start.x + toward start.x stop.x * advanced start stop (stop.x - start.x).natAbs steps,
    start.y + toward start.y stop.y * advanced start stop (stop.y - start.y).natAbs steps⟩

def onLine (start stop : Point) (p : Point) : Bool :=
  union ((List.range (reach start stop + 1)).map fun steps p =>
    decide (p = linePoint start stop steps)) p

/-- The pen of the loop after that many rounds. -/
def penAt (start stop : Point) (steps : ℕ) : Pen :=
  let across := (stop.x - start.x).natAbs
  let down := (stop.y - start.y).natAbs
  let point := linePoint start stop steps
  ⟨point.x, point.y, across * (advanced start stop down steps + 1) -
    down * (advanced start stop across steps + 1)⟩

variable {start stop : Point}

/-- The tests of the loop are the tests for rounding up, where the first axis is the longer one. -/
theorem tests_round {long short : ℕ} (positive : 0 < long) (order : short ≤ long) (steps : ℕ) :
    (2 * (short * (halfUp (long * steps) long + 1)) ≤
        2 * (long * (halfUp (short * steps) long + 1)) + short ↔
      2 * long * (halfUp (long * steps) long + 1) ≤ 2 * (long * (steps + 1)) + long) ∧
    (2 * (long * (halfUp (short * steps) long + 1)) ≤
        2 * (short * (halfUp (long * steps) long + 1)) + long ↔
      2 * long * (halfUp (short * steps) long + 1) ≤ 2 * (short * (steps + 1)) + long) := by
  obtain ⟨-, high⟩ := @half_up_bounds (short * steps) long positive
  rw [half_up_mul positive]
  have next : short * (steps + 1) = short * steps + short := Nat.mul_succ _ _
  rw [Nat.mul_assoc] at high
  rw [Nat.mul_assoc, Nat.mul_assoc]
  constructor
  · constructor
    · intro _
      omega
    · intro _
      omega
  · rw [Iff.comm]

/-- One round of the loop is one step along the line. -/
theorem pen_next {steps : ℕ} (before : steps < reach start stop) :
    (penAt start stop steps).next (stop.x - start.x).natAbs (-(stop.y - start.y).natAbs)
      (toward start.x stop.x) (toward start.y stop.y) = penAt start stop (steps + 1) := by
  have positive : 0 < reach start stop := Nat.zero_lt_of_lt before
  unfold penAt linePoint advanced
  dsimp only
  generalize toward start.x stop.x = stepX
  generalize toward start.y stop.y = stepY
  have across_le : (stop.x - start.x).natAbs ≤ reach start stop := le_max_left _ _
  have down_le : (stop.y - start.y).natAbs ≤ reach start stop := le_max_right _ _
  have longest : reach start stop = (stop.x - start.x).natAbs ∨
      reach start stop = (stop.y - start.y).natAbs := by
    unfold reach
    omega
  generalize (stop.x - start.x).natAbs = across at *
  generalize (stop.y - start.y).natAbs = down at *
  generalize reach start stop = most at *
  have nextX := half_up_next positive across_le steps
  have nextY := half_up_next positive down_le steps
  -- Both tests of the loop, as the rounding states them.
  have tests : (2 * (down * (halfUp (across * steps) most + 1)) ≤
        2 * (across * (halfUp (down * steps) most + 1)) + down ↔
      2 * most * (halfUp (across * steps) most + 1) ≤ 2 * (across * (steps + 1)) + most) ∧
    (2 * (across * (halfUp (down * steps) most + 1)) ≤
        2 * (down * (halfUp (across * steps) most + 1)) + across ↔
      2 * most * (halfUp (down * steps) most + 1) ≤ 2 * (down * (steps + 1)) + most) := by
    rcases longest with rfl | rfl
    · exact tests_round positive down_le steps
    · exact (tests_round positive across_le steps).symm
  generalize halfUp (across * steps) most = i at *
  generalize halfUp (down * steps) most = j at *
  rw [nextX, nextY]
  obtain ⟨testX, testY⟩ := tests
  have doubledX : 2 * ((across : ℤ) * (j + 1) - down * (i + 1)) ≥ -down ↔
      2 * most * (i + 1) ≤ 2 * (across * (steps + 1)) + most := by
    rw [← testX, ← Int.ofNat_le]
    push_cast
    omega
  have doubledY : 2 * ((across : ℤ) * (j + 1) - down * (i + 1)) ≤ across ↔
      2 * most * (j + 1) ≤ 2 * (down * (steps + 1)) + most := by
    rw [← testY, ← Int.ofNat_le]
    push_cast
    omega
  unfold Pen.next
  dsimp only
  simp only [doubledX, doubledY]
  split_ifs <;>
    · rw [Pen.mk.injEq]
      refine ⟨?_, ?_, ?_⟩ <;> push_cast <;> ring

/-- The points of a line stay between its ends. -/
theorem line_point_range {steps : ℕ} (low : steps ≤ reach start stop) (left : InI32 start.x)
    (right : InI32 stop.x) (top : InI32 start.y) (bottom : InI32 stop.y) :
    InI32 (linePoint start stop steps).x ∧ InI32 (linePoint start stop steps).y := by
  have across : (stop.x - start.x).natAbs ≤ reach start stop := le_max_left _ _
  have down : (stop.y - start.y).natAbs ≤ reach start stop := le_max_right _ _
  have within : ∀ distance ≤ reach start stop, advanced start stop distance steps ≤ distance := by
    intro distance bound
    unfold advanced
    rcases Nat.eq_zero_or_pos (reach start stop) with none | positive
    · rw [none] at bound low ⊢
      rw [Nat.le_zero.mp bound, Nat.zero_mul]
      exact Nat.le_of_eq rfl
    · exact half_up_le positive (Nat.mul_le_mul_left distance low)
  have x := within _ across
  have y := within _ down
  unfold linePoint toward
  generalize advanced start stop (stop.x - start.x).natAbs steps = i at *
  generalize advanced start stop (stop.y - start.y).natAbs steps = j at *
  unfold InI32 at *
  dsimp only
  constructor
  · split_ifs <;> omega
  · split_ifs <;> omega

theorem line_point_reach : linePoint start stop (reach start stop) = stop := by
  have across : (stop.x - start.x).natAbs ≤ reach start stop := le_max_left _ _
  have down : (stop.y - start.y).natAbs ≤ reach start stop := le_max_right _ _
  have whole : ∀ distance ≤ reach start stop,
      advanced start stop distance (reach start stop) = distance := by
    intro distance bound
    unfold advanced
    rcases Nat.eq_zero_or_pos (reach start stop) with none | positive
    · rw [none] at bound ⊢
      rw [Nat.le_zero.mp bound]
      rfl
    · rw [Nat.mul_comm, half_up_mul positive]
  have arrives : ∀ first last : ℤ, first + toward first last * (last - first).natAbs = last := by
    intro first last
    unfold toward
    split_ifs <;> omega
  unfold linePoint
  rw [whole _ across, whole _ down, arrives, arrives]

/-- A line passes no point twice: along its longer axis every step moves. -/
theorem line_points_apart {steps others : ℕ} (positive : 0 < reach start stop)
    (same : linePoint start stop steps = linePoint start stop others) : steps = others := by
  have moved : ∀ distance, distance = reach start stop →
      ∀ steps, advanced start stop distance steps = steps := by
    rintro distance rfl steps
    exact half_up_mul positive steps
  have unique : ∀ first last : ℤ, ∀ i j : ℕ,
      first + toward first last * i = first + toward first last * j → i = j := by
    intro first last i j equal
    unfold toward at equal
    split_ifs at equal <;> omega
  obtain ⟨x, y⟩ := Point.mk.inj same
  have i := unique _ _ _ _ x
  have j := unique _ _ _ _ y
  rcases max_choice (stop.x - start.x).natAbs (stop.y - start.y).natAbs with longest | longest
  · rw [moved _ longest.symm, moved _ longest.symm] at i
    exact i
  · rw [moved _ longest.symm, moved _ longest.symm] at j
    exact j

/-- The loop draws the rest of the line and ends, with any number of rounds that is enough. -/
theorem line_from_draws {color : Color} (left : InI32 start.x) (right : InI32 stop.x)
    (top : InI32 start.y) (bottom : InI32 stop.y) (rounds : ℕ) :
    ∀ (canvas : Canvas) (steps remaining : ℕ), Sound canvas →
      steps + remaining = reach start stop → remaining < rounds →
      ∃ after, Canvas.lineFrom (stop.x - start.x).natAbs (-(stop.y - start.y).natAbs)
          (toward start.x stop.x) (toward start.y stop.y) stop color rounds
          (penAt start stop steps) canvas = some after ∧
        Draws canvas ((List.range' steps (remaining + 1)).map fun index =>
          ⟨fun p => decide (p = linePoint start stop index), color⟩) after := by
  induction rounds with
  | zero =>
    intro canvas steps remaining _ _ enough
    omega
  | succ rounds ih =>
    intro canvas steps remaining sound sum enough
    have wrap : ∀ {value : ℤ}, InI32 value → wrapI32 value = value := by
      rintro value ⟨low, high⟩
      unfold wrapI32
      simp only [i32Min, i32Max] at low high
      exact Int.bmod_eq_of_le (by omega) (by omega)
    have inRange := @line_point_range start stop steps (by omega) left right top bottom
    have pen : (⟨wrapI32 (penAt start stop steps).x, wrapI32 (penAt start stop steps).y⟩ : Point) =
        linePoint start stop steps := by
      unfold penAt
      dsimp only
      rw [wrap inRange.1, wrap inRange.2]
    have ends : (penAt start stop steps).x = stop.x ∧ (penAt start stop steps).y = stop.y ↔
        linePoint start stop steps = stop := Point.mk.injEq _ _ _ _ ▸ Iff.rfl
    obtain ⟨next, drawn, draws⟩ := pixel_draws sound (linePoint start stop steps) color
    unfold Canvas.lineFrom
    rw [pen, drawn, Option.bind_eq_bind, Option.bind_some]
    cases remaining with
    | zero =>
      rw [Nat.add_zero] at sum
      rw [if_pos (ends.mpr (sum ▸ line_point_reach))]
      exact ⟨next, rfl, draws⟩
    | succ remaining =>
      have going : linePoint start stop steps ≠ stop := by
        intro arrived
        have last := line_points_apart (by omega) (arrived.trans line_point_reach.symm)
        omega
      obtain ⟨after, ran, rest⟩ := ih next (steps + 1) remaining (draws.sound sound) (by omega)
        (by omega)
      rw [if_neg (fun here => going (ends.mp here)), pen_next (by omega)]
      exact ⟨after, ran, draws.trans rest⟩

/-- Drawing a line ends, and blends once each the visible pixels of the ideal line, rounded half up
along its shorter axis. -/
theorem line_exact (sound : Sound canvas) (left : InI32 start.x) (right : InI32 stop.x)
    (top : InI32 start.y) (bottom : InI32 stop.y) (color : Color) {rounds : ℕ}
    (enough : reach start stop < rounds) :
    ∃ after, canvas.line start stop color rounds = some after ∧
      Draws canvas [⟨onLine start stop, color⟩] after := by
  obtain ⟨after, drawn, draws⟩ := @line_from_draws start stop color left right top bottom rounds
    canvas 0 (reach start stop) sound (Nat.zero_add _) enough
  rw [← List.range_eq_range'] at draws
  have first : penAt start stop 0 =
      ⟨start.x, start.y, (stop.x - start.x).natAbs + -(stop.y - start.y).natAbs⟩ := by
    have none : ∀ distance, advanced start stop distance 0 = 0 := by
      intro distance
      unfold advanced halfUp
      rw [Nat.mul_zero, Nat.mul_zero, Nat.zero_add]
      rcases Nat.eq_zero_or_pos (reach start stop) with still | positive
      · rw [still]
      · exact Nat.div_eq_of_lt (by omega)
    unfold penAt linePoint
    dsimp only
    rw [none, none, Pen.mk.injEq]
    refine ⟨?_, ?_, ?_⟩ <;> push_cast <;> ring
  refine ⟨after, ?_, draws.congr fun x y under _ _ _ => ?_⟩
  · rw [first] at drawn
    exact drawn
  · have apart : Apart ((List.range (reach start stop + 1)).map fun steps p =>
        decide (p = linePoint start stop steps)) := by
      refine List.pairwise_map.mpr (List.pairwise_lt_range.imp_of_mem ?_)
      intro steps others _ low order p there
      have place := of_decide_eq_true there
      refine decide_eq_false fun again => ?_
      have bound := List.mem_range.mp low
      exact absurd (line_points_apart (by omega) (place.symm.trans again)) (by omega)
    have pieces := @laid_pieces _ _ _ blendOver ⟨x, y⟩ under color _ apart
    rw [List.map_map] at pieces
    exact pieces

/-- A canvas of three by two pixels. -/
def smallCanvas : Canvas := .new (.newRgba 3 2)

theorem small_canvas_sound : Sound smallCanvas where
  formed := ⟨by decide, by decide, by decide, by decide, by decide⟩
  low := by decide
  clip := ⟨by decide, by decide, by decide, by decide, by decide, by decide⟩

theorem line_exact_diagonal :
    ∃ after, smallCanvas.line ⟨0, 0⟩ ⟨2, 1⟩ .white 3 = some after ∧
      Draws smallCanvas [⟨onLine ⟨0, 0⟩ ⟨2, 1⟩, .white⟩] after :=
  line_exact small_canvas_sound (by decide) (by decide) (by decide) (by decide) .white (by decide)

end ADesk.Overlay.Drawing
