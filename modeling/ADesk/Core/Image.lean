/- ADesk/Core/Image
   digest: Pixel buffers, and the pixels that they hold. -/

import ADesk.Core.Geometry
import ADesk.Foundation.Raster

set_option autoImplicit false

namespace ADesk.Core.Image

open ADesk.Core.Geometry
open ADesk.Foundation.Raster

inductive PixelFormat
  | rgba8
  deriving DecidableEq

def PixelFormat.bytesPerPixel : PixelFormat → ℕ
  | .rgba8 => 4

structure Size where
  w : ℕ
  h : ℕ
  deriving DecidableEq

/-- Pixels in rows of `stride` bytes, which may be padded. -/
structure ImageBuffer where
  width : ℕ
  height : ℕ
  stride : ℕ
  format : PixelFormat
  data : List UInt8
  deriving DecidableEq

namespace ImageBuffer

def usizeMax : ℕ := 2 ^ 64 - 1

def opaqueBlack : List UInt8 := [0, 0, 0, 255]

/-- A buffer of opaque black; sizes that cannot be represented saturate. -/
def newRgba (width height : ℕ) : ImageBuffer :=
  let stride := min (width * 4) u32Max
  let length := min (stride * height) usizeMax
  ⟨width, height, stride, .rgba8,
    gather (length / 4) (fun _ => opaqueBlack) ++ List.replicate (length % 4) 0⟩

/-- A buffer of tightly packed data. -/
def fromRgba (width height : ℕ) (data : List UInt8) : Except String ImageBuffer :=
  let stride := width * 4
  if u32Max < stride then
    .error s!"invalid_request: image width {width} exceeds the maximum RGBA stride"
  else
    let expected := stride * height
    if expected ≠ data.length then
      .error (s!"invalid_request: RGBA data length {data.length} does not match {width}x{height} " ++
        s!"(expected {expected} bytes)")
    else .ok ⟨width, height, stride, .rgba8, data⟩

/-- The four bytes of a pixel, where it is inside the buffer. -/
def pixel (image : ImageBuffer) (x y : ℕ) : Option (List UInt8) :=
  if x ≥ image.width ∨ y ≥ image.height then none
  else slice image.data (y * image.stride + x * 4) 4

def size (image : ImageBuffer) : Size := ⟨image.width, image.height⟩

def rect (image : ImageBuffer) : Rect := ⟨0, 0, image.width, image.height⟩

end ImageBuffer

/-- The fields are a `u32` each, and the data holds all rows; there may be more of it. -/
structure WellFormed (image : ImageBuffer) : Prop where
  width : image.width ≤ u32Max
  height : image.height ≤ u32Max
  stride : image.stride ≤ u32Max
  row : 4 * image.width ≤ image.stride
  full : image.stride * image.height ≤ image.data.length

/-- The data is the rows and nothing else. -/
structure Tight (image : ImageBuffer) : Prop where
  row : image.stride = 4 * image.width
  full : image.data.length = 4 * image.width * image.height

/-- A new buffer is tight where its rows fit in a `u32`. -/
theorem new_rgba_tight (width height : ℕ) (narrow : 4 * width ≤ u32Max) (low : height ≤ u32Max) :
    (ImageBuffer.newRgba width height).stride = 4 * width ∧
      (ImageBuffer.newRgba width height).data = gather (width * height) fun _ =>
        ImageBuffer.opaqueBlack := by
  have stride : min (width * 4) u32Max = 4 * width := by omega
  have room : 4 * width * height ≤ u32Max * u32Max := Nat.mul_le_mul narrow low
  have most : u32Max * u32Max ≤ ImageBuffer.usizeMax := by decide
  have length : min (4 * width * height) ImageBuffer.usizeMax = 4 * (width * height) := by
    rw [Nat.min_eq_left (room.trans most), Nat.mul_assoc]
  refine ⟨stride, ?_⟩
  unfold ImageBuffer.newRgba
  dsimp only
  rw [stride, length, Nat.mul_div_cancel_left _ (by decide), Nat.mul_mod_right]
  exact List.append_nil _

/-- The bytes of a pixel of a well-formed buffer are there. -/
theorem pixel_inside {image : ImageBuffer} (sound : WellFormed image) {x y : ℕ}
    (column : x < image.width) (row : y < image.height) :
    y * image.stride + x * 4 + 4 ≤ image.data.length := by
  have rows : (y + 1) * image.stride ≤ image.height * image.stride :=
    Nat.mul_le_mul_right image.stride row
  have turn : image.height * image.stride = image.stride * image.height := Nat.mul_comm _ _
  have next : (y + 1) * image.stride = y * image.stride + image.stride := by ring
  have wide := sound.row
  have full := sound.full
  omega

theorem pixel_eq {image : ImageBuffer} {x y : ℕ} (column : x < image.width)
    (row : y < image.height) :
    image.pixel x y = slice image.data (y * image.stride + x * 4) 4 := by
  unfold ImageBuffer.pixel
  rw [if_neg (by omega)]

end ADesk.Core.Image
