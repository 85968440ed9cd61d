/- ADesk/Server/Images
   digest: Cropped, encoded and read-back images hold the pixels of their source, and where the
   shortcut of cropping keeps more than them. -/

import ADesk.Foundation.Base64
import ADesk.Proto.Image
import ADesk.Render.Cropping

set_option autoImplicit false

namespace ADesk.Server.Images

open ADesk.Core.Coverage (InRange)
open ADesk.Core.Geometry
open ADesk.Core.Image
open ADesk.Foundation.Raster
open ADesk.Proto.Image
open ADesk.Render.Cropping
open ADesk.Server.Failures (ProtoError RenderError ServerError)

/-! ## Encoding -/

def formatDebug : PixelFormat → String
  | .rgba8 => "Rgba8"

/-- The error about a buffer that does not describe its pixels. -/
def malformed (image : ImageBuffer) (reason : String) : ServerError :=
  .proto (.malformed (s!"cannot encode a {image.width}x{image.height} {formatDebug image.format} " ++
    s!"image (stride {image.stride}, {image.data.length} data bytes): {reason}"))

/-- The bytes of a row and the stride of a buffer that describes its pixels. -/
def bufferShape (image : ImageBuffer) : Except ServerError (ℕ × ℕ) :=
  let rowBytes := image.width * image.format.bytesPerPixel
  if image.stride < rowBytes then
    .error (malformed image s!"stride {image.stride} is shorter than one {rowBytes}-byte row")
  else
    let required := image.stride * image.height
    if image.data.length < required then
      .error (malformed image (s!"data length {image.data.length} is shorter than the {required} " ++
        s!"bytes described by stride {image.stride} x height {image.height}"))
    else .ok (rowBytes, image.stride)

/-- The rows copied without their padding. -/
def repacked (image : ImageBuffer) (rowBytes : ℕ) : Option (List UInt8) :=
  packRows image.data image.height rowBytes fun row => row * image.stride

/-- The pixels in tightly packed rows; `none` where the code panics. -/
def tightlyPacked (image : ImageBuffer) : Option (Except ServerError (List UInt8)) :=
  match bufferShape image with
  | .error error => some (.error error)
  | .ok (rowBytes, stride) =>
    if stride = rowBytes then (slice image.data 0 (rowBytes * image.height)).map .ok
    else (repacked image rowBytes).map .ok

/-- Encodes the image for the wire; the PNG encoder is given. -/
def encode (engine : Engine) (encodePng : ImageBuffer → Except ServerError (List UInt8))
    (image : ImageBuffer) (format : ImageFormat) (scale : ℚ) :
    Option (Except ServerError ImagePayload) :=
  match format with
  | .rgba8 => do
    let packed ← tightlyPacked image
    some do
      let tight ← packed
      (ImagePayload.fromRgba8 engine image.width image.height tight scale).mapError .proto
  | .png =>
    some do
      let png ← encodePng image
      .ok (ImagePayload.fromPng engine image.width image.height png scale)

theorem buffer_shape_ok {image : ImageBuffer} (sound : WellFormed image) :
    bufferShape image = .ok (image.width * bpp, image.stride) := by
  have wide := sound.row
  have full := sound.full
  have four : image.format.bytesPerPixel = bpp := by
    cases image.format
    rfl
  unfold bufferShape
  dsimp only
  rw [four, if_neg (by rw [bpp]; omega), if_neg (by omega)]

/-- The rows of a well-formed image are packed the same way on both paths. -/
theorem tightly_packed_rows {image : ImageBuffer} (sound : WellFormed image) :
    ∃ row, tightlyPacked image = some (.ok (gather image.height row)) ∧
      repacked image (image.width * bpp) = some (gather image.height row) ∧
      ∀ index < image.height,
        slice image.data (index * image.stride) (image.width * bpp) = some (row index) := by
  have across : 0 + image.width ≤ image.width := Nat.le_of_eq (Nat.zero_add _)
  have down : 0 + image.height ≤ image.height := Nat.le_of_eq (Nat.zero_add _)
  obtain ⟨row, inside⟩ := rows_inside sound across down
  have rows : ∀ index < image.height,
      slice image.data (index * image.stride) (image.width * bpp) = some (row index) := by
    intro index low
    have here := inside index low
    rw [Nat.zero_add, Nat.zero_mul, Nat.add_zero] at here
    exact here
  have slow : repacked image (image.width * bpp) = some (gather image.height row) :=
    pack_rows_eq rows
  refine ⟨row, ?_, slow, rows⟩
  unfold tightlyPacked
  rw [buffer_shape_ok sound]
  dsimp only
  by_cases tight : image.stride = image.width * bpp
  · have full := sound.full
    have needed : image.width * bpp * image.height = image.height * (image.width * bpp) :=
      Nat.mul_comm _ _
    rw [tight] at rows full
    rw [if_pos tight, slice_inside (by omega), List.drop_zero, needed, take_gather rows]
    rfl
  · rw [if_neg tight, slow]
    rfl

/-! ## The pixel function -/

/-- Both buffers are of one size and hold the same pixels. -/
structure SamePixels (image out : ImageBuffer) : Prop where
  tight : Tight out
  width : out.width = image.width
  height : out.height = image.height
  pixels : ∀ x y, out.pixel x y = image.pixel x y

/-- The rows of an image, packed. -/
theorem packed_same_pixels {image : ImageBuffer} {row : ℕ → List UInt8}
    (rows : ∀ index < image.height,
      slice image.data (index * image.stride) (image.width * bpp) = some (row index)) :
    SamePixels image (packed image.width image.height row) := by
  refine ⟨packed_tight fun index low => slice_length (rows index low), rfl, rfl, ?_⟩
  intro x y
  by_cases inside : x < image.width ∧ y < image.height
  · rw [pixel_packed rows inside.1 inside.2, pixel_eq inside.1 inside.2]
  · unfold ImageBuffer.pixel packed
    rw [if_pos (by dsimp only; omega), if_pos (by omega)]

/-- An image, encoded as raw pixels and read from the wire again, holds the same pixels. -/
theorem encode_round_trip {engine : Engine} (lossless : engine.Lossless)
    (encodePng : ImageBuffer → Except ServerError (List UInt8)) {image : ImageBuffer}
    (sound : WellFormed image) (scale : ℚ) :
    ∃ payload out, encode engine encodePng image .rgba8 scale = some (.ok payload) ∧
      payload.toRgba8Buffer engine = .ok out ∧ SamePixels image out := by
  obtain ⟨row, fast, -, rows⟩ := tightly_packed_rows sound
  have even : ∀ index < image.height, (row index).length = image.width * bpp := fun index low =>
    slice_length (rows index low)
  have wide := sound.row
  have stride := sound.stride
  have full : image.width * 4 * image.height = (gather image.height row).length := by
    rw [length_gather even, bpp]
    ring
  obtain ⟨payload, written, read⟩ := rgba8_round_trip lossless scale (by omega) sound.height full
  refine ⟨payload, packed image.width image.height row, ?_, ?_, packed_same_pixels rows⟩
  · unfold encode
    rw [fast]
    show some ((ImagePayload.fromRgba8 engine image.width image.height (gather image.height row)
      scale).mapError ServerError.proto) = _
    rw [written]
    rfl
  · rw [read, packed, Nat.mul_comm 4]

/-! ## Where all paths agree -/

/-- What is said of an image and a rectangle: the crop is tight and shows the source, the two
conversions keep the pixels, and every shortcut agrees with the row-by-row copy. -/
structure Agrees (engine : Engine) (encodePng : ImageBuffer → Except ServerError (List UInt8))
    (image : ImageBuffer) (rect : Rect) (scale : ℚ) (flipped : Bool) : Prop where
  disjoint : rect.intersect image.rect = none →
    ∃ out, crop image rect = some out ∧ Tight out ∧ out.size = ⟨0, 0⟩
  cropped : ∀ clipped, rect.intersect image.rect = some clipped →
    ∃ out, crop image rect = some out ∧ cropRows image clipped = some out ∧ Tight out ∧
      out.size = ⟨clipped.w, clipped.h⟩ ∧
      ∀ x < clipped.w, ∀ y < clipped.h, (out.pixel x y).isSome ∧
        out.pixel x y = image.pixel (clipped.x.toNat + x) (clipped.y.toNat + y)
  encoded : ∃ tight payload out, tightlyPacked image = some (.ok tight) ∧
    repacked image (image.width * bpp) = some tight ∧
    encode engine encodePng image .rgba8 scale = some (.ok payload) ∧
    payload.toRgba8Buffer engine = .ok out ∧ SamePixels image out
  readBack : 0 < image.width → 0 < image.height → ∃ out,
    imageFromReadback image.data image.width image.height image.stride flipped = some (.ok out) ∧
      readRows image.data image.height image.stride (image.width * bpp) flipped = some out.data ∧
      packRows image.data image.height (image.width * bpp)
        (fun row => sourceRow image.height flipped row * image.stride) = some out.data ∧
      Tight out ∧ out.size = image.size ∧
      ∀ x < image.width, ∀ y < image.height,
        out.pixel x y = image.pixel x (sourceRow image.height flipped y)
  -- A buffer without pixels is refused.
  empty : image.width = 0 ∨ image.height = 0 → ∃ reason,
    imageFromReadback image.data image.width image.height image.stride flipped =
      some (.error (.invalidImage reason))

/-- The shortcut of cropping is taken for an image that has bytes behind its last row. -/
def Overlong (image : ImageBuffer) (rect : Rect) : Prop :=
  rect.intersect image.rect = some image.rect ∧ image.stride = image.width * bpp ∧
    image.data.length ≠ 4 * image.width * image.height

theorem crop_disjoint {image : ImageBuffer} {rect : Rect}
    (apart : rect.intersect image.rect = none) :
    ∃ out, crop image rect = some out ∧ Tight out ∧ out.size = ⟨0, 0⟩ := by
  refine ⟨ImageBuffer.newRgba 0 0, ?_, ⟨by decide, by decide⟩, rfl⟩
  unfold crop
  rw [apart]

theorem crop_agrees {image : ImageBuffer} (sound : WellFormed image) {rect clipped : Rect}
    (range : InRange rect) (found : rect.intersect image.rect = some clipped)
    (fits : ¬ Overlong image rect) :
    ∃ out, crop image rect = some out ∧ cropRows image clipped = some out ∧ Tight out ∧
      out.size = ⟨clipped.w, clipped.h⟩ ∧
      ∀ x < clipped.w, ∀ y < clipped.h, (out.pixel x y).isSome ∧
        out.pixel x y = image.pixel (clipped.x.toNat + x) (clipped.y.toNat + y) := by
  obtain ⟨-, -, across, down⟩ := intersect_inside range found
  obtain ⟨row, copied, rows⟩ := crop_rows_packed sound across down
  have even : ∀ index < clipped.h, (row index).length = clipped.w * bpp := fun index low =>
    slice_length (rows index low)
  refine ⟨packed clipped.w clipped.h row, ?_, copied, packed_tight even, rfl, ?_⟩
  · unfold crop
    rw [found]
    dsimp only
    by_cases whole : clipped = image.rect ∧ image.stride = image.width * bpp
    · obtain ⟨all, stride⟩ := whole
      have tight : Tight image := by
        refine ⟨stride.trans (Nat.mul_comm _ _), ?_⟩
        by_contra more
        exact fits ⟨all ▸ found, stride, more⟩
      rw [if_pos ⟨all, stride⟩, ← copied, all]
      exact (crop_whole sound tight).symm
    · rw [if_neg whole, copied]
  · intro x column y low
    have same := pixel_cropped rows across down column low
    have inside := pixel_inside sound (x := clipped.x.toNat + x) (y := clipped.y.toNat + y)
      (by omega) (by omega)
    refine ⟨?_, same⟩
    rw [same, pixel_eq (by omega) (by omega), slice_inside inside]
    rfl

theorem read_back_agrees {image : ImageBuffer} (sound : WellFormed image)
    (width : 0 < image.width) (height : 0 < image.height) (flipped : Bool) : ∃ out,
    imageFromReadback image.data image.width image.height image.stride flipped = some (.ok out) ∧
      readRows image.data image.height image.stride (image.width * bpp) flipped = some out.data ∧
      packRows image.data image.height (image.width * bpp)
        (fun row => sourceRow image.height flipped row * image.stride) = some out.data ∧
      Tight out ∧ out.size = image.size ∧
      ∀ x < image.width, ∀ y < image.height,
        out.pixel x y = image.pixel x (sourceRow image.height flipped y) := by
  obtain ⟨row, converted, fast, rows⟩ := image_from_readback_packed sound width height flipped
  refine ⟨packed image.width image.height row, converted, fast, pack_rows_eq rows,
    packed_tight fun index low => slice_length (rows index low), rfl, ?_⟩
  intro x column y low
  have source : sourceRow image.height flipped y < image.height := by
    unfold sourceRow
    split <;> omega
  rw [pixel_packed rows column low, pixel_eq column source]

/-- The paths agree for every image and rectangle but those where cropping clones bytes that are no
pixels. -/
theorem images_agree_iff {engine : Engine} (lossless : engine.Lossless)
    (encodePng : ImageBuffer → Except ServerError (List UInt8)) {image : ImageBuffer}
    (sound : WellFormed image) {rect : Rect} (range : InRange rect) (scale : ℚ) (flipped : Bool) :
    Agrees engine encodePng image rect scale flipped ↔ ¬ Overlong image rect := by
  constructor
  · rintro agrees ⟨whole, stride, more⟩
    obtain ⟨out, taken, -, tight, -, -⟩ := agrees.cropped image.rect whole
    have clone : crop image rect = some image := by
      unfold crop
      rw [whole]
      exact if_pos ⟨rfl, stride⟩
    rw [Option.some.inj (taken.symm.trans clone)] at tight
    exact more tight.full
  · intro fits
    obtain ⟨row, fast, slow, rows⟩ := tightly_packed_rows sound
    obtain ⟨payload, out, written, read, same⟩ := encode_round_trip lossless encodePng sound scale
    exact {
      disjoint := crop_disjoint
      cropped := fun clipped found => crop_agrees sound range found fits
      encoded := ⟨_, payload, out, fast, slow, written, read, same⟩
      readBack := fun width height => read_back_agrees sound width height flipped
      empty := fun none => image_from_readback_empty _ _ _ none }

/-- The standard engine. -/
def standard : Engine where
  encode := Foundation.Base64.encode
  decode text := (Foundation.Base64.decode text).elim (.error "invalid input") .ok

/-- Two padded rows with three bytes behind them, cropped to their right half and flipped. -/
theorem agrees_padded :
    Agrees standard (fun _ => .ok []) ⟨2, 2, 10, .rgba8, List.replicate 23 9⟩ ⟨1, -4, 8, 9⟩ 1
      true := by
  have lossless : standard.Lossless := by
    intro bytes
    unfold standard
    dsimp only
    rw [Foundation.Base64.decode_encode]
    rfl
  have sound : WellFormed ⟨2, 2, 10, .rgba8, List.replicate 23 9⟩ := by
    constructor <;> decide
  have range : InRange ⟨1, -4, 8, 9⟩ := by
    constructor <;> decide
  refine (images_agree_iff lossless (fun _ => .ok []) sound range 1 true).mpr ?_
  unfold Overlong
  decide

/-- A tight pixel with a byte behind it: cropping to the whole image keeps the byte. -/
theorem crop_keeps_tail :
    ¬ ∀ image rect, WellFormed image → InRange rect →
      ∀ out, crop image rect = some out → out.data.length = 4 * out.width * out.height := by
  intro tight
  have sound : WellFormed ⟨1, 1, 4, .rgba8, [1, 2, 3, 4, 5]⟩ := by
    constructor <;> decide
  have range : InRange ⟨0, 0, 1, 1⟩ := by
    constructor <;> decide
  exact absurd (tight _ _ sound range ⟨1, 1, 4, .rgba8, [1, 2, 3, 4, 5]⟩ (by decide)) (by decide)

end ADesk.Server.Images
