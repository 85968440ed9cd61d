/- ADesk/Render/Cropping
   digest: Cropped images and read-back images show the pixels of their source. -/

import ADesk.Core.Coverage
import ADesk.Core.Image
import ADesk.Server.Failures

set_option autoImplicit false

namespace ADesk.Render.Cropping

open ADesk.Core.Coalescing (clamp_inside)
open ADesk.Core.Coverage (InRange)
open ADesk.Core.Geometry
open ADesk.Core.Image
open ADesk.Foundation.Raster
open ADesk.Server.Failures (RenderError)

def bpp : ℕ := 4

/-- The row-by-row copy of a rectangle inside the image; `none` where the code panics. -/
def cropRows (image : ImageBuffer) (clipped : Rect) : Option ImageBuffer := do
  let out := ImageBuffer.newRgba clipped.w clipped.h
  let data ← copyRows image.data clipped.h (clipped.w * bpp)
    (fun row => (clipped.y.toNat + row) * image.stride + clipped.x.toNat * bpp) out.data
  some { out with data }

/-- Crops the image to a rectangle, clamped to its bounds. -/
def crop (image : ImageBuffer) (rect : Rect) : Option ImageBuffer :=
  match rect.intersect image.rect with
  | none => some (ImageBuffer.newRgba 0 0)
  | some clipped =>
    if clipped = image.rect ∧ image.stride = image.width * bpp then some image
    else cropRows image clipped

/-- The row of the source that a row of the result is read from. -/
def sourceRow (height : ℕ) (flipped : Bool) (row : ℕ) : ℕ :=
  if flipped then height - 1 - row else row

/-- The rows without their padding and from top to bottom, which a tight buffer already holds. -/
def readRows (data : List UInt8) (height stride rowBytes : ℕ) (flipped : Bool) :
    Option (List UInt8) :=
  if stride = rowBytes ∧ flipped = false then slice data 0 (stride * height)
  else packRows data height rowBytes fun row => sourceRow height flipped row * stride

/-- Converts raw rows, which may be padded and run from bottom to top. -/
def imageFromReadback (data : List UInt8) (width height stride : ℕ) (flipped : Bool) :
    Option (Except RenderError ImageBuffer) :=
  if width = 0 ∨ height = 0 then
    some (.error (.invalidImage s!"readback dimensions {width}x{height} are empty"))
  else
    let rowBytes := width * bpp
    if stride < rowBytes then
      some (.error (.invalidImage (s!"readback stride {stride} is smaller than one " ++
        s!"{width}-pixel row ({rowBytes} bytes)")))
    else
      let needed := stride * height
      if ImageBuffer.usizeMax < needed then
        some (.error (.invalidImage "readback dimensions overflow"))
      else if data.length < needed then
        some (.error (.invalidImage (s!"readback buffer holds {data.length} bytes, " ++
          s!"{needed} required for {width}x{height} at stride {stride}")))
      else do
        let out ← readRows data height stride rowBytes flipped
        some ((ImageBuffer.fromRgba width height out).mapError .invalidImage)

/-! ## Packed rows -/

/-- The image whose rows are these. -/
def packed (width height : ℕ) (row : ℕ → List UInt8) : ImageBuffer :=
  ⟨width, height, 4 * width, .rgba8, gather height row⟩

theorem packed_tight {width height : ℕ} {row : ℕ → List UInt8}
    (even : ∀ index < height, (row index).length = width * bpp) :
    Tight (packed width height row) := by
  refine ⟨rfl, ?_⟩
  unfold packed
  dsimp only
  rw [length_gather even, bpp]
  ring

/-- A pixel of packed rows is where its row is in the buffer that the rows come from. -/
theorem pixel_packed {width height : ℕ} {buffer : List UInt8} {start : ℕ → ℕ}
    {row : ℕ → List UInt8}
    (rows : ∀ index < height, slice buffer (start index) (width * bpp) = some (row index))
    {x y : ℕ} (column : x < width) (low : y < height) :
    (packed width height row).pixel x y = slice buffer (start y + x * 4) 4 := by
  have place : y * (4 * width) + x * 4 = y * (width * bpp) + x * 4 := by
    rw [bpp]
    ring
  have inside : x * 4 + 4 ≤ width * bpp := by
    rw [bpp]
    omega
  have even : ∀ index < height, (row index).length = width * bpp := fun index low =>
    slice_length (rows index low)
  have bounds : x < (packed width height row).width ∧ y < (packed width height row).height :=
    ⟨column, low⟩
  rw [pixel_eq bounds.1 bounds.2]
  unfold packed
  dsimp only
  rw [place, slice_gather even low inside, slice_slice (rows y low) inside]

/-- The rows of an image from a place on. -/
theorem rows_inside {image : ImageBuffer} (sound : WellFormed image) {x y width height : ℕ}
    (across : x + width ≤ image.width) (down : y + height ≤ image.height) :
    ∃ row : ℕ → List UInt8, ∀ index < height,
      slice image.data ((y + index) * image.stride + x * bpp) (width * bpp) = some (row index) := by
  refine ⟨fun index =>
    (image.data.drop ((y + index) * image.stride + x * bpp)).take (width * bpp), ?_⟩
  intro index low
  refine slice_inside ?_
  have rows : (y + index + 1) * image.stride ≤ image.height * image.stride :=
    Nat.mul_le_mul_right image.stride (by omega)
  have turn : image.height * image.stride = image.stride * image.height := Nat.mul_comm _ _
  have next : (y + index + 1) * image.stride = (y + index) * image.stride + image.stride := by ring
  have wide := sound.row
  have full := sound.full
  have columns : x * bpp + width * bpp = (x + width) * 4 := by
    rw [bpp]
    ring
  omega

/-! ## Cropping -/

/-- The clipped rectangle lies inside the image, without any saturation. -/
theorem intersect_inside {image : ImageBuffer} {rect clipped : Rect} (range : InRange rect)
    (found : rect.intersect image.rect = some clipped) :
    0 ≤ clipped.x ∧ 0 ≤ clipped.y ∧ clipped.x.toNat + clipped.w ≤ image.width ∧
      clipped.y.toNat + clipped.h ≤ image.height := by
  have x : clampI32 (max rect.x 0) = max rect.x 0 :=
    clamp_inside (by have := range.left; omega)
      (by have := range.right; unfold i32Max at *; omega)
  have y : clampI32 (max rect.y 0) = max rect.y 0 :=
    clamp_inside (by have := range.top; omega)
      (by have := range.bottom; unfold i32Max at *; omega)
  unfold Rect.intersect ImageBuffer.rect at found
  split at found
  · cases found
  · dsimp only at found
    rw [x, y] at found
    split at found
    · cases found
    · next inside =>
      cases found
      simp only [Bool.or_eq_true, decide_eq_true_eq] at inside
      dsimp only
      omega

theorem crop_rows_packed {image : ImageBuffer} (sound : WellFormed image) {clipped : Rect}
    (across : clipped.x.toNat + clipped.w ≤ image.width)
    (down : clipped.y.toNat + clipped.h ≤ image.height) :
    ∃ row, cropRows image clipped = some (packed clipped.w clipped.h row) ∧
      ∀ index < clipped.h,
        slice image.data ((clipped.y.toNat + index) * image.stride + clipped.x.toNat * bpp)
          (clipped.w * bpp) = some (row index) := by
  obtain ⟨row, rows⟩ := rows_inside sound across down
  have wide := sound.row
  have stride := sound.stride
  have high := sound.height
  obtain ⟨narrow, black⟩ := new_rgba_tight clipped.w clipped.h (by omega) (by omega)
  have room : (ImageBuffer.newRgba clipped.w clipped.h).data.length =
      clipped.h * (clipped.w * bpp) := by
    rw [black, length_gather fun _ _ => rfl]
    exact (congrArg (· * 4) (Nat.mul_comm _ _)).trans (Nat.mul_assoc _ _ _)
  refine ⟨row, ?_, rows⟩
  unfold cropRows
  dsimp only
  rw [copy_rows_eq rows room, narrow]
  rfl

/-- The pixels of the row-by-row copy. -/
theorem pixel_cropped {image : ImageBuffer} {clipped : Rect} {row : ℕ → List UInt8}
    (rows : ∀ index < clipped.h,
      slice image.data ((clipped.y.toNat + index) * image.stride + clipped.x.toNat * bpp)
        (clipped.w * bpp) = some (row index))
    (across : clipped.x.toNat + clipped.w ≤ image.width)
    (down : clipped.y.toNat + clipped.h ≤ image.height) {x y : ℕ} (column : x < clipped.w)
    (low : y < clipped.h) :
    (packed clipped.w clipped.h row).pixel x y =
      image.pixel (clipped.x.toNat + x) (clipped.y.toNat + y) := by
  have place : (clipped.y.toNat + y) * image.stride + clipped.x.toNat * bpp + x * 4 =
      (clipped.y.toNat + y) * image.stride + (clipped.x.toNat + x) * 4 := by
    rw [bpp]
    ring
  rw [pixel_packed rows column low, place, pixel_eq (by omega) (by omega)]

/-- A tight image is what its own rows are packed to. -/
theorem packed_whole {image : ImageBuffer} (tight : Tight image) {row : ℕ → List UInt8}
    (rows : ∀ index < image.height,
      slice image.data (index * image.stride) (image.width * bpp) = some (row index)) :
    packed image.width image.height row = image := by
  have stride : image.stride = image.width * bpp := tight.row.trans (Nat.mul_comm _ _)
  have length : image.height * (image.width * bpp) = image.data.length := by
    rw [tight.full, bpp]
    ring
  rw [stride] at rows
  have all := take_gather rows
  rw [length, List.take_length] at all
  unfold packed
  rw [← all, ← tight.row]

/-- The shortcut of `crop` agrees with the row-by-row copy where the data is the rows alone. -/
theorem crop_whole {image : ImageBuffer} (sound : WellFormed image) (tight : Tight image) :
    cropRows image image.rect = some image := by
  have across : image.rect.x.toNat + image.rect.w ≤ image.width := Nat.le_of_eq (Nat.zero_add _)
  have down : image.rect.y.toNat + image.rect.h ≤ image.height := Nat.le_of_eq (Nat.zero_add _)
  obtain ⟨row, copied, rows⟩ := crop_rows_packed sound across down
  rw [copied]
  refine congrArg some (packed_whole tight fun index low => ?_)
  have place : (image.rect.y.toNat + index) * image.stride + image.rect.x.toNat * bpp =
      index * image.stride := by
    simp [ImageBuffer.rect]
  rw [← place]
  exact rows index low

/-! ## Reading back -/

/-- A read-back image with pixels is packed, whichever path is taken. -/
theorem image_from_readback_packed {image : ImageBuffer} (sound : WellFormed image)
    (width : 0 < image.width) (height : 0 < image.height) (flipped : Bool) :
    ∃ row, imageFromReadback image.data image.width image.height image.stride flipped =
        some (.ok (packed image.width image.height row)) ∧
      readRows image.data image.height image.stride (image.width * bpp) flipped =
        some (gather image.height row) ∧
      ∀ index < image.height,
        slice image.data (sourceRow image.height flipped index * image.stride) (image.width * bpp) =
          some (row index) := by
  have wide := sound.row
  have stride := sound.stride
  have full := sound.full
  have fits : ¬ ImageBuffer.usizeMax < image.stride * image.height := by
    have most : image.stride * image.height ≤ u32Max * u32Max := Nat.mul_le_mul stride sound.height
    have room : u32Max * u32Max ≤ ImageBuffer.usizeMax := by decide
    omega
  let row (index : ℕ) : List UInt8 :=
    (image.data.drop (sourceRow image.height flipped index * image.stride)).take (image.width * bpp)
  have rows : ∀ index < image.height, slice image.data
      (sourceRow image.height flipped index * image.stride) (image.width * bpp) =
        some (row index) := by
    intro index low
    have source : sourceRow image.height flipped index < image.height := by
      unfold sourceRow
      split <;> omega
    refine slice_inside ?_
    have below : (sourceRow image.height flipped index + 1) * image.stride ≤
        image.height * image.stride := Nat.mul_le_mul_right image.stride source
    have turn : image.height * image.stride = image.stride * image.height := Nat.mul_comm _ _
    have next : (sourceRow image.height flipped index + 1) * image.stride =
        sourceRow image.height flipped index * image.stride + image.stride := by ring
    rw [bpp]
    omega
  have size : (gather image.height row).length = image.width * 4 * image.height := by
    rw [length_gather fun index low => slice_length (rows index low), bpp]
    ring
  have copied : readRows image.data image.height image.stride (image.width * bpp) flipped =
      some (gather image.height row) := by
    unfold readRows
    by_cases plain : image.stride = image.width * bpp ∧ flipped = false
    · obtain ⟨tight, upright⟩ := plain
      have needed : image.stride * image.height = image.height * (image.width * bpp) := by
        rw [tight]
        ring
      rw [if_pos ⟨tight, upright⟩, slice_inside (by omega), List.drop_zero, needed, take_gather]
      intro index low
      have here := rows index low
      rw [upright, tight] at here
      exact here
    · rw [if_neg plain, pack_rows_eq rows]
  refine ⟨row, ?_, copied, rows⟩
  unfold imageFromReadback
  dsimp only
  rw [if_neg (by omega), if_neg (by rw [bpp]; omega), if_neg fits, if_neg (by omega), copied]
  simp only [Option.bind_eq_bind, Option.bind_some]
  unfold ImageBuffer.fromRgba
  dsimp only
  rw [if_neg (by omega), size, if_neg (by simp)]
  unfold packed
  rw [Nat.mul_comm 4 image.width]
  rfl

/-- A buffer without pixels is refused. -/
theorem image_from_readback_empty (data : List UInt8) {width height : ℕ} (stride : ℕ)
    (flipped : Bool) (none : width = 0 ∨ height = 0) :
    ∃ reason, imageFromReadback data width height stride flipped =
      some (.error (.invalidImage reason)) := by
  unfold imageFromReadback
  rw [if_pos none]
  exact ⟨_, rfl⟩

end ADesk.Render.Cropping
