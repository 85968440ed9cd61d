/- ADesk/Overlay/Text
   digest: The bitmap font, single lines of text on a canvas, and labels on their plates. -/

import ADesk.Overlay.Drawing

set_option autoImplicit false

namespace ADesk.Overlay.Text

open ADesk.Core.Coalescing (clamp_inside)
open ADesk.Core.Coverage
open ADesk.Core.Geometry
open ADesk.Core.Image (Size)
open ADesk.Foundation.Counted
open ADesk.Foundation.Layers
open ADesk.Overlay.Drawing

/-! ## The font -/

def fontHeight : ℕ := 7

def fontWidth : ℕ := 5

def fontAdvance : ℕ := 6

def fontLineHeight : ℕ := 8

def maxScale : ℕ := 8

def clampScale (scale : ℕ) : ℕ :=
  if scale < 1 then 1 else if scale > maxScale then maxScale else scale

/-- A row is one byte, of which bits 4 to 0 are the columns from left to right. -/
structure Glyph where
  rows : Vector UInt8 7

def Glyph.ink (glyph : Glyph) (x y : ℕ) : Bool :=
  if x ≥ fontWidth then false
  else
    match glyph.rows[y]? with
    | some row => row &&& ((1 : UInt8) <<< UInt8.ofNat (fontWidth - 1 - x)) != 0
    | none => false

/-- The glyphs of the printable characters, from the space to the tilde. -/
def glyphTable : List Glyph := [
  ⟨#v[0b00000, 0b00000, 0b00000, 0b00000, 0b00000, 0b00000, 0b00000]⟩,
  ⟨#v[0b00100, 0b00100, 0b00100, 0b00100, 0b00100, 0b00000, 0b00100]⟩,
  ⟨#v[0b01010, 0b01010, 0b00000, 0b00000, 0b00000, 0b00000, 0b00000]⟩,
  ⟨#v[0b01010, 0b01010, 0b11111, 0b01010, 0b11111, 0b01010, 0b01010]⟩,
  ⟨#v[0b00100, 0b01111, 0b10100, 0b01110, 0b00101, 0b11110, 0b00100]⟩,
  ⟨#v[0b11001, 0b11001, 0b00010, 0b00100, 0b01000, 0b10011, 0b10011]⟩,
  ⟨#v[0b01100, 0b10010, 0b10100, 0b01000, 0b10101, 0b10010, 0b01101]⟩,
  ⟨#v[0b00100, 0b00100, 0b00000, 0b00000, 0b00000, 0b00000, 0b00000]⟩,
  ⟨#v[0b00010, 0b00100, 0b01000, 0b01000, 0b01000, 0b00100, 0b00010]⟩,
  ⟨#v[0b01000, 0b00100, 0b00010, 0b00010, 0b00010, 0b00100, 0b01000]⟩,
  ⟨#v[0b00000, 0b00100, 0b10101, 0b01110, 0b10101, 0b00100, 0b00000]⟩,
  ⟨#v[0b00000, 0b00100, 0b00100, 0b11111, 0b00100, 0b00100, 0b00000]⟩,
  ⟨#v[0b00000, 0b00000, 0b00000, 0b00000, 0b00110, 0b00100, 0b01000]⟩,
  ⟨#v[0b00000, 0b00000, 0b00000, 0b11111, 0b00000, 0b00000, 0b00000]⟩,
  ⟨#v[0b00000, 0b00000, 0b00000, 0b00000, 0b00000, 0b01100, 0b01100]⟩,
  ⟨#v[0b00001, 0b00001, 0b00010, 0b00100, 0b01000, 0b10000, 0b10000]⟩,
  ⟨#v[0b01110, 0b10001, 0b10011, 0b10101, 0b11001, 0b10001, 0b01110]⟩,
  ⟨#v[0b00100, 0b01100, 0b00100, 0b00100, 0b00100, 0b00100, 0b01110]⟩,
  ⟨#v[0b01110, 0b10001, 0b00001, 0b00010, 0b00100, 0b01000, 0b11111]⟩,
  ⟨#v[0b11111, 0b00010, 0b00100, 0b00010, 0b00001, 0b10001, 0b01110]⟩,
  ⟨#v[0b00010, 0b00110, 0b01010, 0b10010, 0b11111, 0b00010, 0b00010]⟩,
  ⟨#v[0b11111, 0b10000, 0b11110, 0b00001, 0b00001, 0b10001, 0b01110]⟩,
  ⟨#v[0b00110, 0b01000, 0b10000, 0b11110, 0b10001, 0b10001, 0b01110]⟩,
  ⟨#v[0b11111, 0b00001, 0b00010, 0b00100, 0b01000, 0b01000, 0b01000]⟩,
  ⟨#v[0b01110, 0b10001, 0b10001, 0b01110, 0b10001, 0b10001, 0b01110]⟩,
  ⟨#v[0b01110, 0b10001, 0b10001, 0b01111, 0b00001, 0b00010, 0b01100]⟩,
  ⟨#v[0b00000, 0b00100, 0b00100, 0b00000, 0b00100, 0b00100, 0b00000]⟩,
  ⟨#v[0b00000, 0b00100, 0b00100, 0b00000, 0b00110, 0b00100, 0b01000]⟩,
  ⟨#v[0b00010, 0b00100, 0b01000, 0b10000, 0b01000, 0b00100, 0b00010]⟩,
  ⟨#v[0b00000, 0b00000, 0b11111, 0b00000, 0b11111, 0b00000, 0b00000]⟩,
  ⟨#v[0b01000, 0b00100, 0b00010, 0b00001, 0b00010, 0b00100, 0b01000]⟩,
  ⟨#v[0b01110, 0b10001, 0b00001, 0b00010, 0b00100, 0b00000, 0b00100]⟩,
  ⟨#v[0b01110, 0b10001, 0b10111, 0b10101, 0b10111, 0b10000, 0b01110]⟩,
  ⟨#v[0b01110, 0b10001, 0b10001, 0b11111, 0b10001, 0b10001, 0b10001]⟩,
  ⟨#v[0b11110, 0b10001, 0b10001, 0b11110, 0b10001, 0b10001, 0b11110]⟩,
  ⟨#v[0b01110, 0b10001, 0b10000, 0b10000, 0b10000, 0b10001, 0b01110]⟩,
  ⟨#v[0b11100, 0b10010, 0b10001, 0b10001, 0b10001, 0b10010, 0b11100]⟩,
  ⟨#v[0b11111, 0b10000, 0b10000, 0b11110, 0b10000, 0b10000, 0b11111]⟩,
  ⟨#v[0b11111, 0b10000, 0b10000, 0b11110, 0b10000, 0b10000, 0b10000]⟩,
  ⟨#v[0b01110, 0b10001, 0b10000, 0b10111, 0b10001, 0b10001, 0b01110]⟩,
  ⟨#v[0b10001, 0b10001, 0b10001, 0b11111, 0b10001, 0b10001, 0b10001]⟩,
  ⟨#v[0b01110, 0b00100, 0b00100, 0b00100, 0b00100, 0b00100, 0b01110]⟩,
  ⟨#v[0b00111, 0b00010, 0b00010, 0b00010, 0b00010, 0b10010, 0b01100]⟩,
  ⟨#v[0b10001, 0b10010, 0b10100, 0b11000, 0b10100, 0b10010, 0b10001]⟩,
  ⟨#v[0b10000, 0b10000, 0b10000, 0b10000, 0b10000, 0b10000, 0b11111]⟩,
  ⟨#v[0b10001, 0b11011, 0b10101, 0b10101, 0b10001, 0b10001, 0b10001]⟩,
  ⟨#v[0b10001, 0b10001, 0b11001, 0b10101, 0b10011, 0b10001, 0b10001]⟩,
  ⟨#v[0b01110, 0b10001, 0b10001, 0b10001, 0b10001, 0b10001, 0b01110]⟩,
  ⟨#v[0b11110, 0b10001, 0b10001, 0b11110, 0b10000, 0b10000, 0b10000]⟩,
  ⟨#v[0b01110, 0b10001, 0b10001, 0b10001, 0b10101, 0b10010, 0b01101]⟩,
  ⟨#v[0b11110, 0b10001, 0b10001, 0b11110, 0b10100, 0b10010, 0b10001]⟩,
  ⟨#v[0b01111, 0b10000, 0b10000, 0b01110, 0b00001, 0b00001, 0b11110]⟩,
  ⟨#v[0b11111, 0b00100, 0b00100, 0b00100, 0b00100, 0b00100, 0b00100]⟩,
  ⟨#v[0b10001, 0b10001, 0b10001, 0b10001, 0b10001, 0b10001, 0b01110]⟩,
  ⟨#v[0b10001, 0b10001, 0b10001, 0b10001, 0b10001, 0b01010, 0b00100]⟩,
  ⟨#v[0b10001, 0b10001, 0b10001, 0b10101, 0b10101, 0b11011, 0b10001]⟩,
  ⟨#v[0b10001, 0b10001, 0b01010, 0b00100, 0b01010, 0b10001, 0b10001]⟩,
  ⟨#v[0b10001, 0b10001, 0b01010, 0b00100, 0b00100, 0b00100, 0b00100]⟩,
  ⟨#v[0b11111, 0b00001, 0b00010, 0b00100, 0b01000, 0b10000, 0b11111]⟩,
  ⟨#v[0b01110, 0b01000, 0b01000, 0b01000, 0b01000, 0b01000, 0b01110]⟩,
  ⟨#v[0b10000, 0b10000, 0b01000, 0b00100, 0b00010, 0b00001, 0b00001]⟩,
  ⟨#v[0b01110, 0b00010, 0b00010, 0b00010, 0b00010, 0b00010, 0b01110]⟩,
  ⟨#v[0b00100, 0b01010, 0b10001, 0b00000, 0b00000, 0b00000, 0b00000]⟩,
  ⟨#v[0b00000, 0b00000, 0b00000, 0b00000, 0b00000, 0b00000, 0b11111]⟩,
  ⟨#v[0b01000, 0b00100, 0b00000, 0b00000, 0b00000, 0b00000, 0b00000]⟩,
  ⟨#v[0b00000, 0b00000, 0b01110, 0b00001, 0b01111, 0b10001, 0b01111]⟩,
  ⟨#v[0b10000, 0b10000, 0b11110, 0b10001, 0b10001, 0b10001, 0b11110]⟩,
  ⟨#v[0b00000, 0b00000, 0b01110, 0b10001, 0b10000, 0b10001, 0b01110]⟩,
  ⟨#v[0b00001, 0b00001, 0b01111, 0b10001, 0b10001, 0b10001, 0b01111]⟩,
  ⟨#v[0b00000, 0b00000, 0b01110, 0b10001, 0b11111, 0b10000, 0b01110]⟩,
  ⟨#v[0b00110, 0b01000, 0b01000, 0b11110, 0b01000, 0b01000, 0b01000]⟩,
  ⟨#v[0b00000, 0b01111, 0b10001, 0b10001, 0b01111, 0b00001, 0b01110]⟩,
  ⟨#v[0b10000, 0b10000, 0b11110, 0b10001, 0b10001, 0b10001, 0b10001]⟩,
  ⟨#v[0b00100, 0b00000, 0b01100, 0b00100, 0b00100, 0b00100, 0b01110]⟩,
  ⟨#v[0b00010, 0b00000, 0b00110, 0b00010, 0b00010, 0b10010, 0b01100]⟩,
  ⟨#v[0b10000, 0b10000, 0b10010, 0b10100, 0b11000, 0b10100, 0b10010]⟩,
  ⟨#v[0b01100, 0b00100, 0b00100, 0b00100, 0b00100, 0b00100, 0b01110]⟩,
  ⟨#v[0b00000, 0b00000, 0b11011, 0b10101, 0b10101, 0b10101, 0b10101]⟩,
  ⟨#v[0b00000, 0b00000, 0b11110, 0b10001, 0b10001, 0b10001, 0b10001]⟩,
  ⟨#v[0b00000, 0b00000, 0b01110, 0b10001, 0b10001, 0b10001, 0b01110]⟩,
  ⟨#v[0b00000, 0b00000, 0b11110, 0b10001, 0b11110, 0b10000, 0b10000]⟩,
  ⟨#v[0b00000, 0b00000, 0b01111, 0b10001, 0b01111, 0b00001, 0b00001]⟩,
  ⟨#v[0b00000, 0b00000, 0b10110, 0b11000, 0b10000, 0b10000, 0b10000]⟩,
  ⟨#v[0b00000, 0b00000, 0b01111, 0b10000, 0b01110, 0b00001, 0b11110]⟩,
  ⟨#v[0b01000, 0b01000, 0b11110, 0b01000, 0b01000, 0b01001, 0b00110]⟩,
  ⟨#v[0b00000, 0b00000, 0b10001, 0b10001, 0b10001, 0b10001, 0b01111]⟩,
  ⟨#v[0b00000, 0b00000, 0b10001, 0b10001, 0b10001, 0b01010, 0b00100]⟩,
  ⟨#v[0b00000, 0b00000, 0b10001, 0b10001, 0b10101, 0b10101, 0b01010]⟩,
  ⟨#v[0b00000, 0b00000, 0b10001, 0b01010, 0b00100, 0b01010, 0b10001]⟩,
  ⟨#v[0b00000, 0b00000, 0b10001, 0b10001, 0b01111, 0b00001, 0b01110]⟩,
  ⟨#v[0b00000, 0b00000, 0b11111, 0b00010, 0b00100, 0b01000, 0b11111]⟩,
  ⟨#v[0b00011, 0b00100, 0b00100, 0b01000, 0b00100, 0b00100, 0b00011]⟩,
  ⟨#v[0b00100, 0b00100, 0b00100, 0b00100, 0b00100, 0b00100, 0b00100]⟩,
  ⟨#v[0b11000, 0b00100, 0b00100, 0b01000, 0b00100, 0b00100, 0b11000]⟩,
  ⟨#v[0b00000, 0b00000, 0b01001, 0b10101, 0b10010, 0b00000, 0b00000]⟩]

def firstChar : Char := ' '

def lastChar : Char := '~'

def fallbackChar : Char := '?'

def glyph (c : Char) : Option Glyph :=
  if firstChar ≤ c ∧ c ≤ lastChar then glyphTable[c.toNat - firstChar.toNat]? else none

def fallback : Glyph := glyphTable.get ⟨fallbackChar.toNat - firstChar.toNat, by decide⟩

def glyphWidth (scale : ℕ) : ℕ := fontWidth * clampScale scale

def glyphHeight (scale : ℕ) : ℕ := fontHeight * clampScale scale

def advance (scale : ℕ) : ℕ := fontAdvance * clampScale scale

def lineHeight (scale : ℕ) : ℕ := fontLineHeight * clampScale scale

theorem clamp_scale_pos (scale : ℕ) : 0 < clampScale scale ∧ clampScale scale ≤ 8 := by
  unfold clampScale maxScale
  split_ifs <;> omega

/-- The table has a glyph for every printable character and for no other one. -/
theorem glyph_isSome (c : Char) : (glyph c).isSome = true ↔ firstChar ≤ c ∧ c ≤ lastChar := by
  unfold glyph
  split
  · next printable =>
    have low : firstChar.toNat ≤ c.toNat := printable.1
    have high : c.toNat ≤ lastChar.toNat := printable.2
    have size : glyphTable.length = 95 := rfl
    have first : firstChar.toNat = 32 := rfl
    have last : lastChar.toNat = 126 := rfl
    rw [List.getElem?_eq_getElem (by omega)]
    simp only [Option.isSome_some, printable, and_self]
  · next other => simp only [Option.isSome_none, Bool.false_eq_true, other]

/-! ## Lines of text -/

/-- The width of the ink, without the gap behind the last glyph. -/
def inkWidth (glyphs : ℕ) (scale : ℕ) : ℤ :=
  if glyphs = 0 then 0
  else
    let advance : ℤ := advance scale
    glyphs * advance - (advance - glyphWidth scale)

def measure (text : String) (scale : ℕ) : Size :=
  let glyphs := text.toList.length
  if glyphs = 0 then ⟨0, 0⟩
  else ⟨(max 0 (min (inkWidth glyphs scale) u32Max)).toNat, glyphHeight scale⟩

/-- One pixel of a glyph is a block of the canvas. -/
def drawBlock (glyph : Glyph) (penX y : ℤ) (block : ℕ) (color : Color) (gy gx : ℕ)
    (canvas : Canvas) : Option Canvas :=
  if !glyph.ink gx gy then some canvas
  else
    let x := clampI32 (penX + clampI32 (gx * block))
    canvas.fillRect ⟨x, y, block, block⟩ color

def drawGlyph (glyph : Glyph) (penX originY : ℤ) (block : ℕ) (color : Color) (canvas : Canvas) :
    Option Canvas :=
  forRange 0 fontHeight (fun gy canvas =>
    let y := clampI32 (originY + clampI32 (gy * block))
    forRange 0 fontWidth (drawBlock glyph penX y block color gy) canvas) canvas

def drawChars (originY : ℤ) (scale : ℕ) (color : Color) :
    List Char → ℤ → Canvas → Option Canvas
  | [], _, canvas => some canvas
  | c :: rest, penX, canvas => do
    let canvas ← drawGlyph ((glyph c).getD fallback) penX originY (clampScale scale) color canvas
    drawChars originY scale color rest (clampI32 (penX + advance scale)) canvas

/-- Draws the text with the upper left corner of its ink at the origin, and returns where the ink
is meant to be. -/
def draw (canvas : Canvas) (origin : Point) (text : String) (scale : ℕ) (color : Color) :
    Option (Rect × Canvas) :=
  if text.toList.isEmpty then some (.empty, canvas)
  else do
    let size := measure text scale
    let canvas ← drawChars origin.y scale color text.toList origin.x canvas
    some (⟨origin.x, origin.y, size.w, size.h⟩, canvas)

/-- The loop over the characters of a text that is too wide. -/
def keepFrom (text : List Char) (maxWidth : ℤ) (scale : ℕ) :
    ℕ → List Char → List Char → List Char
  | _, [], kept => kept
  | prefixGlyphs, _ :: rest, kept =>
    if inkWidth (prefixGlyphs + 2) scale > maxWidth then kept
    else keepFrom text maxWidth scale (prefixGlyphs + 1) rest (text.take prefixGlyphs)

/-- The text where it fits, else its longest part that fits with two dots behind it. -/
def elide (text : String) (maxWidth : ℤ) (scale : ℕ) : Option String :=
  let glyphs := text.toList.length
  if inkWidth glyphs scale ≤ maxWidth then some text
  else if inkWidth 2 scale > maxWidth then none
  else some (.ofList (keepFrom text.toList maxWidth scale 0 text.toList []) ++ "..")

/-! ## Labels -/

def minPadding : ℤ := 1

def maxPadding : ℤ := 16

structure OverlayStyle where
  fontScale : ℕ := 1
  padding : ℤ := 2
  text : Color := .white
  plate : Color := ⟨0, 0, 0, 160⟩
  outline : Color := .white
  fill : Color := ⟨255, 0, 0, 48⟩
  focus : Color := .rgb 0 255 0
  cursor : Color := .rgb 255 255 0
  action : Color := .rgb 0 255 255
  timing : Color := .rgb 255 0 255
  deriving DecidableEq

def OverlayStyle.scale (style : OverlayStyle) : ℕ := clampScale style.fontScale

def OverlayStyle.pad (style : OverlayStyle) : ℤ :=
  if style.padding < minPadding then minPadding
  else if style.padding > maxPadding then maxPadding
  else style.padding

/-- The plate of a label, which is its ink with some padding on every side. -/
def labelRect (origin : Point) (text : String) (style : OverlayStyle) : Rect :=
  if text.toList.isEmpty then .empty
  else
    let size := measure text style.scale
    let pad := style.pad.toNat
    ⟨clampI32 (origin.x - pad), clampI32 (origin.y - pad), min (size.w + 2 * pad) u32Max,
      min (size.h + 2 * pad) u32Max⟩

def drawLabel (canvas : Canvas) (origin : Point) (text : String) (style : OverlayStyle) :
    Option (Rect × Canvas) :=
  let plate := labelRect origin text style
  if plate.isEmpty then some (plate, canvas)
  else do
    let canvas ← canvas.fillRect plate style.plate
    let canvas ← canvas.outlineRect plate style.outline
    let (_, canvas) ← draw canvas origin text style.scale style.text
    some (plate, canvas)

/-! ## What is drawn of a text -/

/-- The pixels of one glyph whose upper left corner is at that place. -/
def glyphShape (glyph : Glyph) (x y : ℤ) (block : ℕ) (p : Point) : Bool :=
  decide (x ≤ p.x ∧ y ≤ p.y) && glyph.ink ((p.x - x).toNat / block) ((p.y - y).toNat / block)

/-- The pixels of a line of glyphs; every glyph has one cell of the line. -/
def textShape (chars : List Char) (x y : ℤ) (scale : ℕ) (p : Point) : Bool :=
  let cell := (p.x - x).toNat / advance scale
  decide (x ≤ p.x) &&
    match chars[cell]? with
    | none => false
    | some c =>
      glyphShape ((glyph c).getD fallback) (x + (cell * advance scale : ℕ)) y (clampScale scale) p

variable {canvas after : Canvas} {color : Color}

theorem ink_inside {glyph : Glyph} {x y : ℕ} (ink : glyph.ink x y = true) :
    x < fontWidth ∧ y < fontHeight := by
  unfold Glyph.ink at ink
  split at ink
  · cases ink
  · next inside =>
    refine ⟨not_le.mp inside, ?_⟩
    by_contra outside
    have missing : glyph.rows[y]? = none := by
      rw [Vector.getElem?_eq_none_iff]
      exact not_lt.mp outside
    rw [missing] at ink
    cases ink

theorem clamp_above {value : ℤ} (low : i32Min ≤ value) : clampI32 value = min value i32Max := by
  unfold clampI32
  simp only [i32Min, i32Max] at *
  split_ifs <;> omega

/-- Saturating additions of nothing negative saturate together. -/
theorem clamp_add {value amount : ℤ} (low : i32Min ≤ value) (more : 0 ≤ amount)
    (most : amount ≤ i32Max) :
    clampI32 (clampI32 value + clampI32 amount) = clampI32 (value + amount) := by
  unfold clampI32
  simp only [i32Min, i32Max] at *
  split_ifs <;> omega

/-- A block of the canvas, without saturation. -/
def blockShape (x y : ℤ) (block : ℕ) (p : Point) : Bool :=
  decide (x ≤ p.x ∧ p.x < x + block ∧ y ≤ p.y ∧ p.y < y + block)

/-- Offsets within a glyph do not saturate. -/
theorem offset_range {number block : ℕ} (low : number < 8) (small : 0 < block ∧ block ≤ 8) :
    (0 : ℤ) ≤ number * block ∧ (number * block : ℤ) ≤ i32Max := by
  have bound : number * block ≤ 8 * 8 := Nat.mul_le_mul low.le small.2
  have whole : ((number * block : ℕ) : ℤ) = number * block := by push_cast; rfl
  unfold i32Max
  omega

theorem block_draws (sound : Sound canvas) (glyph : Glyph) {x y : ℤ} (left : i32Min ≤ x)
    (top : i32Min ≤ y) {block : ℕ} (small : 0 < block ∧ block ≤ 8) (gy gx : ℕ) :
    ∃ after, drawBlock glyph (clampI32 x) (clampI32 y) block color gy gx canvas = some after ∧
      Draws canvas [⟨fun p => glyph.ink gx gy && blockShape (x + gx * block) y block p, color⟩]
        after := by
  unfold drawBlock
  cases ink : glyph.ink gx gy with
  | false => exact ⟨canvas, rfl, Draws.nothing color fun _ _ _ _ _ => Bool.false_and _⟩
  | true =>
    have column := (ink_inside ink).1
    obtain ⟨more, few⟩ := @offset_range gx block (by unfold fontWidth at column; omega) small
    have place := clamp_add left more few
    rw [if_neg (by decide)]
    dsimp only
    rw [place, clamp_above (by omega), clamp_above top]
    have range : InRange ⟨min (x + gx * block) i32Max, min y i32Max, block, block⟩ := by
      constructor <;> simp only [i32Min, i32Max, u32Max] at * <;> omega
    obtain ⟨after, drawn, draws⟩ := fill_rect_draws sound range color
    refine ⟨after, drawn, draws.shaped sound fun p _ column _ row => ?_⟩
    rw [Bool.eq_iff_iff, contains_iff, empty_iff, blockShape, Bool.true_and, decide_eq_true_eq]
    dsimp only
    omega

/-- The quotient by a block is the number of the block that a point is in. -/
theorem block_iff {block : ℕ} (positive : 0 < block) {start place : ℤ} {number : ℕ} :
    start + number * block ≤ place ∧ place < start + number * block + block ↔
      start ≤ place ∧ (place - start).toNat / block = number := by
  have whole : ((number * block : ℕ) : ℤ) = number * block := by push_cast; rfl
  rw [Nat.div_eq_iff positive]
  omega

/-- One row of blocks of a glyph. -/
theorem glyph_row_draws (sound : Sound canvas) (glyph : Glyph) {x y : ℤ} (left : i32Min ≤ x)
    (top : i32Min ≤ y) {block : ℕ} (small : 0 < block ∧ block ≤ 8) (gy : ℕ) :
    ∃ after, forRange 0 fontWidth (drawBlock glyph (clampI32 x) (clampI32 y) block color gy)
        canvas = some after ∧
      Draws canvas [⟨fun p => decide (x ≤ p.x ∧ y ≤ p.y ∧ p.y < y + block) &&
        glyph.ink ((p.x - x).toNat / block) gy, color⟩] after := by
  have column : ∀ {gx : ℕ} {p : Point}, (glyph.ink gx gy &&
      blockShape (x + gx * block) y block p) = true ↔ glyph.ink gx gy = true ∧
        (x ≤ p.x ∧ (p.x - x).toNat / block = gx) ∧ y ≤ p.y ∧ p.y < y + block := by
    intro gx p
    rw [← block_iff small.1, Bool.and_eq_true, blockShape, decide_eq_true_eq, and_assoc]
  refine draws_rounds sound (Nat.zero_le fontWidth)
    (fun gx p => glyph.ink gx gy && blockShape (x + gx * block) y block p) ?_ ?_ ?_
  · intro gx state _ _ _ draws
    exact block_draws (draws.sound sound) glyph left top small gy gx
  · intro gx other p here there
    exact (column.mp here).2.1.2.symm.trans (column.mp there).2.1.2
  · intro p
    rw [Bool.and_eq_true, decide_eq_true_eq]
    constructor
    · rintro ⟨⟨right, below⟩, ink⟩
      exact ⟨_, Nat.zero_le _, (ink_inside ink).1, column.mpr ⟨ink, ⟨right, rfl⟩, below⟩⟩
    · rintro ⟨gx, -, -, inside⟩
      obtain ⟨ink, ⟨right, rfl⟩, below⟩ := column.mp inside
      exact ⟨⟨right, below⟩, ink⟩

/-- Drawing a glyph blends the visible pixels of its ink once each, also where it saturates. -/
theorem glyph_draws (sound : Sound canvas) (glyph : Glyph) {x y : ℤ} (left : i32Min ≤ x)
    (top : InI32 y) {block : ℕ} (small : 0 < block ∧ block ≤ 8) :
    ∃ after, drawGlyph glyph (clampI32 x) y block color canvas = some after ∧
      Draws canvas [⟨glyphShape glyph x y block, color⟩] after := by
  have row : ∀ {gy : ℕ} {p : Point}, (decide (x ≤ p.x ∧ y + gy * block ≤ p.y ∧
      p.y < y + gy * block + block) && glyph.ink ((p.x - x).toNat / block) gy) = true ↔
        (x ≤ p.x ∧ y ≤ p.y ∧ (p.y - y).toNat / block = gy) ∧
          glyph.ink ((p.x - x).toNat / block) gy = true := by
    intro gy p
    rw [← block_iff small.1, Bool.and_eq_true, decide_eq_true_eq]
  refine draws_rounds sound (Nat.zero_le fontHeight) (fun gy p => decide (x ≤ p.x ∧
    y + gy * block ≤ p.y ∧ p.y < y + gy * block + block) &&
      glyph.ink ((p.x - x).toNat / block) gy) ?_ ?_ ?_
  · intro gy state _ _ low draws
    obtain ⟨more, few⟩ := @offset_range gy block (by unfold fontHeight at low; omega) small
    have place := clamp_add top.1 more few
    rw [clamp_inside top.1 top.2] at place
    dsimp only
    rw [place]
    exact glyph_row_draws (draws.sound sound) glyph left (top.1.trans (by omega)) small gy
  · intro gy other p here there
    exact (row.mp here).1.2.2.symm.trans (row.mp there).1.2.2
  · intro p
    rw [glyphShape, Bool.and_eq_true, decide_eq_true_eq]
    constructor
    · rintro ⟨⟨right, below⟩, ink⟩
      exact ⟨_, Nat.zero_le _, (ink_inside ink).2, row.mpr ⟨⟨right, below, rfl⟩, ink⟩⟩
    · rintro ⟨gy, -, -, inside⟩
      obtain ⟨⟨right, below, rfl⟩, ink⟩ := row.mp inside
      exact ⟨⟨right, below⟩, ink⟩

theorem advance_pos (scale : ℕ) : 0 < advance scale :=
  Nat.mul_pos (by decide) (clamp_scale_pos scale).1

/-- A glyph has no ink to the left of its cell or behind it. -/
theorem glyph_shape_cell {glyph : Glyph} {x y : ℤ} {scale : ℕ} {p : Point}
    (inked : glyphShape glyph x y (clampScale scale) p = true) :
    x ≤ p.x ∧ (p.x - x).toNat < glyphWidth scale ∧ y ≤ p.y ∧
      (p.y - y).toNat < glyphHeight scale := by
  obtain ⟨positive, -⟩ := clamp_scale_pos scale
  rw [glyphShape, Bool.and_eq_true, decide_eq_true_eq] at inked
  obtain ⟨⟨left, top⟩, ink⟩ := inked
  obtain ⟨column, row⟩ := ink_inside ink
  exact ⟨left, (Nat.div_lt_iff_lt_mul positive).mp column, top,
    (Nat.div_lt_iff_lt_mul positive).mp row⟩

theorem glyph_width_advance (scale : ℕ) : glyphWidth scale ≤ advance scale :=
  Nat.mul_le_mul_right _ (by decide)

theorem text_shape_cons (c : Char) (rest : List Char) (x y : ℤ) (scale : ℕ) (p : Point) :
    textShape (c :: rest) x y scale p =
      (glyphShape ((glyph c).getD fallback) x y (clampScale scale) p ||
        textShape rest (x + advance scale) y scale p) := by
  have positive := advance_pos scale
  have narrow := glyph_width_advance scale
  unfold textShape
  dsimp only
  by_cases left : x ≤ p.x
  · rw [decide_eq_true left, Bool.true_and]
    rcases Nat.lt_or_ge (p.x - x).toNat (advance scale) with inside | behind
    · have before : ¬ x + advance scale ≤ p.x := by omega
      rw [Nat.div_eq_of_lt inside, decide_eq_false before, Bool.false_and, Bool.or_false]
      dsimp only [List.getElem?_cons_zero]
      rw [Nat.zero_mul, Int.natCast_zero, Int.add_zero]
    · obtain ⟨beyond, offset⟩ := Nat.exists_eq_add_of_le behind
      have after : x + advance scale ≤ p.x := by omega
      have rest_offset : (p.x - (x + advance scale)).toNat = beyond := by omega
      have number : (p.x - x).toNat / advance scale = beyond / advance scale + 1 := by
        rw [offset, Nat.add_comm, Nat.add_div_right _ positive]
      have outside : glyphShape ((glyph c).getD fallback) x y (clampScale scale) p = false := by
        rw [Bool.eq_false_iff]
        intro inked
        have cell := (glyph_shape_cell inked).2.1
        omega
      have place : x + ((beyond / advance scale + 1) * advance scale : ℕ) =
          x + advance scale + (beyond / advance scale * advance scale : ℕ) := by
        rw [Nat.succ_mul]
        omega
      rw [number, rest_offset, outside, Bool.false_or, decide_eq_true after, Bool.true_and,
        List.getElem?_cons_succ, place]
  · have outside : glyphShape ((glyph c).getD fallback) x y (clampScale scale) p = false := by
      rw [Bool.eq_false_iff]
      exact fun inked => left (glyph_shape_cell inked).1
    have further : ¬ x + advance scale ≤ p.x := by omega
    rw [decide_eq_false left, decide_eq_false further, outside, Bool.false_and, Bool.false_and,
      Bool.or_false]

theorem chars_draws {y : ℤ} (top : InI32 y) (scale : ℕ) (color : Color) (chars : List Char) :
    ∀ {x : ℤ} {canvas : Canvas}, Sound canvas → i32Min ≤ x →
      ∃ after, drawChars y scale color chars (clampI32 x) canvas = some after ∧
        Draws canvas [⟨textShape chars x y scale, color⟩] after := by
  induction chars with
  | nil =>
    intro x canvas _ _
    refine ⟨canvas, rfl, Draws.nothing color fun _ _ _ _ _ => ?_⟩
    rw [textShape, List.getElem?_nil]
    exact Bool.and_false _
  | cons c rest ih =>
    intro x canvas sound left
    obtain ⟨positive, few⟩ := clamp_scale_pos scale
    have narrow := glyph_width_advance scale
    have small : (advance scale : ℤ) ≤ i32Max := by
      have most : advance scale ≤ 6 * 8 := Nat.mul_le_mul_left 6 few
      unfold i32Max
      omega
    have pen : clampI32 (clampI32 x + advance scale) = clampI32 (x + advance scale) := by
      have place := clamp_add left (Int.natCast_nonneg (advance scale)) small
      rwa [clamp_above (show i32Min ≤ (advance scale : ℤ) by unfold i32Min; omega),
        min_eq_left small] at place
    obtain ⟨one, drawn, first⟩ :=
      @glyph_draws canvas color sound ((glyph c).getD fallback) x y left top _ ⟨positive, few⟩
    obtain ⟨after, rest_drawn, others⟩ := @ih (x + advance scale) one (first.sound sound) (by omega)
    refine ⟨after, ?_, (first.joined sound others ?_).shaped sound ?_⟩
    · unfold drawChars
      rw [drawn, Option.bind_eq_bind, Option.bind_some, pen]
      exact rest_drawn
    · intro p _ _ inked
      have cell := (glyph_shape_cell inked).2.1
      rw [textShape, decide_eq_false (by omega), Bool.false_and]
    · intro p _ _ _ _
      exact (text_shape_cons c rest x y scale p).symm

theorem ink_width_succ (glyphs scale : ℕ) :
    inkWidth (glyphs + 1) scale = glyphs * advance scale + glyphWidth scale := by
  unfold inkWidth
  rw [if_neg (Nat.succ_ne_zero _)]
  push_cast
  ring

theorem ink_width_mono {scale low high : ℕ} (order : low ≤ high) :
    inkWidth low scale ≤ inkWidth high scale := by
  have wide : ∀ glyphs : ℕ, (0 : ℤ) ≤ glyphs * advance scale := fun glyphs =>
    Int.mul_nonneg (Int.natCast_nonneg _) (Int.natCast_nonneg _)
  cases low with
  | zero =>
    cases high with
    | zero => exact le_refl _
    | succ high =>
      have room := wide high
      rw [ink_width_succ]
      unfold inkWidth
      rw [if_pos rfl]
      omega
  | succ low =>
    obtain ⟨more, rfl⟩ := Nat.exists_eq_add_of_le order
    have room := wide more
    have sum : ((low + more : ℕ) : ℤ) * advance scale =
        low * advance scale + more * advance scale := by push_cast; ring
    rw [Nat.add_right_comm, ink_width_succ, ink_width_succ, sum]
    omega

theorem measure_cons (text : String) (scale : ℕ) {glyphs : ℕ}
    (long : text.toList.length = glyphs + 1) :
    measure text scale = ⟨min (glyphs * advance scale + glyphWidth scale) u32Max,
      glyphHeight scale⟩ := by
  have positive : (0 : ℤ) ≤ ((glyphs * advance scale + glyphWidth scale : ℕ) : ℤ) :=
    Int.natCast_nonneg _
  have width : inkWidth (glyphs + 1) scale =
      ((glyphs * advance scale + glyphWidth scale : ℕ) : ℤ) := by
    rw [ink_width_succ]
    push_cast
    rfl
  unfold measure
  rw [long, if_neg (Nat.succ_ne_zero _), width]
  congr 1
  omega

/-- Where the ink of a text is meant to be. -/
def inkRect (origin : Point) (text : String) (scale : ℕ) : Rect :=
  if text.toList.isEmpty then .empty
  else ⟨origin.x, origin.y, (measure text scale).w, (measure text scale).h⟩

theorem draw_draws (sound : Sound canvas) {origin : Point} (left : InI32 origin.x)
    (top : InI32 origin.y) (text : String) (scale : ℕ) (color : Color) :
    ∃ after, draw canvas origin text scale color = some (inkRect origin text scale, after) ∧
      Draws canvas [⟨textShape text.toList origin.x origin.y scale, color⟩] after := by
  obtain ⟨after, drawn, draws⟩ := chars_draws top scale color text.toList sound left.1
  rw [clamp_inside left.1 left.2] at drawn
  unfold draw inkRect
  cases chars : text.toList with
  | nil =>
    rw [chars] at drawn draws
    cases drawn
    exact ⟨canvas, rfl, draws⟩
  | cons c rest =>
    rw [chars] at drawn draws
    rw [List.isEmpty_cons, if_neg (by decide), if_neg (by decide), drawn]
    exact ⟨after, rfl, draws⟩

theorem ink_rect_covers {origin : Point} (left : i32Min ≤ origin.x) (text : String) (scale : ℕ)
    {p : Point} (column : p.x < i32Max)
    (inked : textShape text.toList origin.x origin.y scale p = true) :
    contains (inkRect origin text scale) p = true := by
  rw [textShape, Bool.and_eq_true, decide_eq_true_eq] at inked
  obtain ⟨behind, inked⟩ := inked
  have most := Nat.div_add_mod' (p.x - origin.x).toNat (advance scale)
  generalize cell : (p.x - origin.x).toNat / advance scale = number at inked most
  split at inked
  · cases inked
  · next glyph found =>
    have low := (List.getElem?_eq_some_iff.mp found).1
    obtain ⟨rest, long⟩ := Nat.exists_eq_succ_of_ne_zero (Nat.ne_of_gt (Nat.zero_lt_of_lt low))
    have some_text : text.toList.isEmpty = false := by
      rw [List.isEmpty_eq_false_iff, ← List.length_pos_iff]
      omega
    have cells : number * advance scale ≤ rest * advance scale :=
      Nat.mul_le_mul_right _ (by omega)
    obtain ⟨-, within, below, above⟩ := glyph_shape_cell inked
    rw [inkRect, some_text, if_neg (by decide), measure_cons text scale long, contains_iff,
      empty_iff]
    simp only [i32Min, i32Max, u32Max] at *
    omega

/-- Drawing a text never fails. It blends once each the visible pixels of the ink of its glyphs, at
their exact places also where the pen saturates, and all of them are inside the rectangle that it
returns. -/
theorem text_exact (sound : Sound canvas) {origin : Point} (left : InI32 origin.x)
    (top : InI32 origin.y) (text : String) (scale : ℕ) (color : Color) :
    ∃ rect after, draw canvas origin text scale color = some (rect, after) ∧
      Draws canvas [⟨textShape text.toList origin.x origin.y scale, color⟩] after ∧
      ∀ p : Point, p.x < i32Max → textShape text.toList origin.x origin.y scale p = true →
        contains rect p = true := by
  obtain ⟨after, drawn, draws⟩ := draw_draws sound left top text scale color
  exact ⟨_, after, drawn, draws, fun p column inked => ink_rect_covers left.1 text scale column inked⟩

theorem text_exact_small :
    ∃ rect after, draw smallCanvas ⟨0, 0⟩ "win 1" 1 .white = some (rect, after) ∧
      Draws smallCanvas [⟨textShape "win 1".toList 0 0 1, .white⟩] after ∧
      ∀ p : Point, p.x < i32Max → textShape "win 1".toList 0 0 1 p = true →
        contains rect p = true :=
  @text_exact smallCanvas small_canvas_sound ⟨0, 0⟩ (by decide) (by decide) "win 1" 1 .white

/-! ## Elided texts -/

/-- What the loop keeps: the parts up to it fit, and the next longer one is too wide or whole. -/
theorem keep_from_spec (text : List Char) {maxWidth : ℤ} {scale : ℕ} (rest : List Char) :
    ∀ number : ℕ, rest = text.drop (number + 1) → number < text.length →
      inkWidth (number + 2) scale ≤ maxWidth →
      ∃ kept, keepFrom text maxWidth scale (number + 1) rest (text.take number) = text.take kept ∧
        kept < text.length ∧ inkWidth (kept + 2) scale ≤ maxWidth ∧
        ∀ longer, kept < longer → longer < text.length → maxWidth < inkWidth (longer + 2) scale := by
  induction rest with
  | nil =>
    intro number rest low fits
    have whole : text.length ≤ number + 1 := List.drop_eq_nil_iff.mp rest.symm
    exact ⟨number, rfl, low, fits, fun longer more less => by omega⟩
  | cons c rest ih =>
    intro number here low fits
    have further : number + 1 < text.length := by
      have some_left := congrArg List.length here
      rw [List.length_cons, List.length_drop] at some_left
      omega
    unfold keepFrom
    split
    · next wide =>
      refine ⟨number, rfl, low, fits, fun longer more _ => ?_⟩
      have order := @ink_width_mono scale (number + 1 + 2) (longer + 2) (by omega)
      omega
    · next narrow =>
      refine ih (number + 1) ?_ further (not_lt.mp narrow)
      rw [← List.tail_drop, ← here, List.tail_cons]

/-- A text is shown whole where it fits; else as much of it as fits together with two dots, and not
at all where not even the dots fit. -/
theorem elide_longest (text : String) (maxWidth : ℤ) (scale : ℕ) :
    match elide text maxWidth scale with
    | none => maxWidth < inkWidth text.toList.length scale ∧ maxWidth < inkWidth 2 scale
    | some shown =>
      inkWidth shown.toList.length scale ≤ maxWidth ∧
        (shown = text ∨
          maxWidth < inkWidth text.toList.length scale ∧
            ∃ kept < text.toList.length,
              shown.toList = text.toList.take kept ++ ['.', '.'] ∧
                ∀ longer, kept < longer → longer < text.toList.length →
                  maxWidth < inkWidth (longer + 2) scale) := by
  unfold elide
  dsimp only
  by_cases whole : inkWidth text.toList.length scale ≤ maxWidth
  · rw [if_pos whole]
    exact ⟨whole, Or.inl rfl⟩
  · rw [if_neg whole]
    by_cases wide : inkWidth 2 scale > maxWidth
    · rw [if_pos wide]
      exact ⟨not_le.mp whole, wide⟩
    · rw [if_neg wide]
      have some_text : 0 < text.toList.length := by
        by_contra none
        have empty : text.toList.length = 0 := by omega
        have order := @ink_width_mono scale 0 2 (by decide)
        rw [empty] at whole
        omega
      -- The first round keeps nothing.
      have start : ∃ c rest, text.toList = c :: rest :=
        List.exists_cons_of_length_pos some_text
      obtain ⟨c, rest, chars⟩ := start
      have first : keepFrom text.toList maxWidth scale 0 text.toList [] =
          keepFrom text.toList maxWidth scale (0 + 1) rest (text.toList.take 0) := by
        conv_lhs => rw [chars]
        rw [keepFrom, if_neg wide, chars]
      obtain ⟨kept, keeps, low, fits, longest⟩ := @keep_from_spec text.toList maxWidth scale rest 0
        (by rw [chars]; rfl) some_text (not_lt.mp wide)
      have shown : (String.ofList (keepFrom text.toList maxWidth scale 0 text.toList []) ++
          "..").toList = text.toList.take kept ++ ['.', '.'] := by
        rw [String.toList_append, String.toList_ofList, first, keeps]
        rfl
      refine ⟨?_, Or.inr ⟨not_le.mp whole, kept, low, shown, longest⟩⟩
      rw [shown, List.length_append, List.length_take, min_eq_left low.le]
      exact fits

/-! ## What is drawn of a label -/

/-- The plate, its border and the text, bottom to top. -/
def labelLayers (origin : Point) (text : String) (style : OverlayStyle) :
    List (Layer Point Color) :=
  let plate := labelRect origin text style
  if plate.isEmpty then []
  else
    [⟨contains plate, style.plate⟩, ⟨onBoundary plate, style.outline⟩,
      ⟨textShape text.toList origin.x origin.y style.scale, style.text⟩]

theorem clamp_range (value : ℤ) : InI32 (clampI32 value) := by
  unfold InI32 clampI32
  simp only [i32Min, i32Max]
  split_ifs <;> omega

theorem label_rect_range (origin : Point) (text : String) (style : OverlayStyle) :
    InRange (labelRect origin text style) := by
  unfold labelRect
  split
  · exact ⟨by decide, by decide, by decide, by decide, by decide, by decide⟩
  · exact ⟨(clamp_range _).1, (clamp_range _).2, (clamp_range _).1, (clamp_range _).2,
      Nat.min_le_right _ _, Nat.min_le_right _ _⟩

theorem label_draws (sound : Sound canvas) {origin : Point} (left : InI32 origin.x)
    (top : InI32 origin.y) (text : String) (style : OverlayStyle) :
    ∃ after, drawLabel canvas origin text style = some (labelRect origin text style, after) ∧
      Draws canvas (labelLayers origin text style) after := by
  unfold drawLabel labelLayers
  have range := label_rect_range origin text style
  generalize labelRect origin text style = plate at *
  dsimp only
  cases plate.isEmpty with
  | true => exact ⟨canvas, rfl, Draws.refl canvas⟩
  | false =>
    obtain ⟨one, filled, first⟩ := fill_rect_draws sound range style.plate
    have sound := first.sound sound
    obtain ⟨two, outlined, second⟩ := outline_rect_draws sound range style.outline
    have sound := second.sound sound
    obtain ⟨three, written, third⟩ := draw_draws sound left top text style.scale style.text
    rw [if_neg (by decide), if_neg (by decide), filled, Option.bind_eq_bind, Option.bind_some,
      outlined, Option.bind_some, written]
    exact ⟨three, rfl, first.trans (second.trans third)⟩

end ADesk.Overlay.Text
