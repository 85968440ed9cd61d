/- ADesk/Render/Scaling
   digest: The box filter that scales images down averages every source pixel into one pixel. -/

import Mathlib.Algebra.BigOperators.Intervals
import Mathlib.Algebra.Order.BigOperators.Group.Finset
import Mathlib.Tactic.IntervalCases
import ADesk.Core.Image
import ADesk.Foundation.Cells
import ADesk.Foundation.Counted

set_option autoImplicit false

namespace ADesk.Render.Scaling

open ADesk.Core.Geometry (u32Max)
open ADesk.Core.Image
open ADesk.Foundation.Cells
open ADesk.Foundation.Counted
open ADesk.Foundation.Raster

/-- A quotient, where the divisor is not zero. -/
def divide (value divisor : ℕ) : Option ℕ := if divisor = 0 then none else some (value / divisor)

def scaleEdge (longest bound value : ℕ) : Option ℕ := do
  let scaled ← divide (value * bound + longest / 2) longest
  some (min (max scaled 1) value)

/-- The size whose longest edge is at most `maxDimension`. -/
def fitDimensions (size : Size) (maxDimension : ℕ) : Option Size :=
  let longest := max size.w size.h
  if maxDimension = 0 ∨ size.w = 0 ∨ size.h = 0 ∨ longest ≤ maxDimension then some size
  else do
    let w ← scaleEdge longest maxDimension size.w
    let h ← scaleEdge longest maxDimension size.h
    some ⟨w, h⟩

/-- Where the box of an output column or row begins and ends. -/
def boxRange (parts size index : ℕ) : Option (ℕ × ℕ) := do
  let start ← divide (index * size) parts
  let stop ← divide ((index + 1) * size) parts
  some (start, min (max stop (start + 1)) size)

structure Sums where
  r : ℕ
  g : ℕ
  b : ℕ
  a : ℕ
  count : ℕ

def addPixel (image : ImageBuffer) (y x : ℕ) (sums : Sums) : Option Sums := do
  let off := y * image.stride + x * 4
  let r ← image.data[off]?
  let g ← image.data[off + 1]?
  let b ← image.data[off + 2]?
  let a ← image.data[off + 3]?
  some ⟨sums.r + r.toNat, sums.g + g.toNat, sums.b + b.toNat, sums.a + a.toNat, sums.count + 1⟩

def sumBox (image : ImageBuffer) (xs ys : ℕ × ℕ) : Option Sums :=
  forRange ys.1 ys.2 (fun y sums => forRange xs.1 xs.2 (addPixel image y) sums) ⟨0, 0, 0, 0, 0⟩

/-- The average of the sum, rounded half up. -/
def round (count sum : ℕ) : Option UInt8 := (divide (sum + count / 2) count).map UInt8.ofNat

def write (data : List UInt8) (off : ℕ) (value : UInt8) : Option (List UInt8) :=
  if off < data.length then some (data.set off value) else none

def writePixel (data : List UInt8) (off : ℕ) (sums : Sums) : Option (List UInt8) := do
  let data ← write data off (← round sums.count sums.r)
  let data ← write data (off + 1) (← round sums.count sums.g)
  let data ← write data (off + 2) (← round sums.count sums.b)
  write data (off + 3) (← round sums.count sums.a)

/-- One round of the inner loop: the pixel of a box. -/
def writeBox (image : ImageBuffer) (target : Size) (dy : ℕ) (ys : ℕ × ℕ) (dx : ℕ)
    (data : List UInt8) : Option (List UInt8) := do
  let xs ← boxRange target.w image.width dx
  let sums ← sumBox image xs ys
  writePixel data ((dy * target.w + dx) * 4) sums

/-- One round of the outer loop: the pixels of a row. -/
def writeRow (image : ImageBuffer) (target : Size) (dy : ℕ) (data : List UInt8) :
    Option (List UInt8) := do
  let ys ← boxRange target.h image.height dy
  forRange 0 target.w (writeBox image target dy ys) data

/-- Scales the image down to the bound; `none` where the code panics. -/
def downscale (image : ImageBuffer) (maxDimension : ℕ) : Option ImageBuffer :=
  let longest := max image.width image.height
  if maxDimension = 0 ∨ image.width = 0 ∨ image.height = 0 ∨ longest ≤ maxDimension then some image
  else do
    let target ← fitDimensions image.size maxDimension
    let out := ImageBuffer.newRgba target.w target.h
    let data ← forRange 0 target.h (writeRow image target) out.data
    some { out with data }

/-! ## The size -/

theorem divide_eq {value divisor : ℕ} (nonzero : 0 < divisor) :
    divide value divisor = some (value / divisor) := if_neg (Nat.ne_of_gt nonzero)

/-- An edge of the target. -/
def scaled (longest bound value : ℕ) : ℕ := max 1 (halfUp (value * bound) longest)

theorem half_up_small {longest bound value : ℕ} (small : bound < longest) :
    halfUp (value * bound) longest ≤ value :=
  half_up_le (Nat.zero_lt_of_lt small) (Nat.mul_le_mul_left value small.le)

theorem scale_edge_eq {longest bound value : ℕ} (small : bound < longest) (some_edge : 0 < value) :
    scaleEdge longest bound value = some (scaled longest bound value) := by
  have low : halfUp (value * bound) longest ≤ value := half_up_small small
  unfold scaleEdge scaled
  rw [divide_eq (Nat.zero_lt_of_lt small), half_up_eq]
  simp only [Option.bind_eq_bind, Option.bind_some, Option.some.injEq]
  omega

theorem fit_dimensions_eq {size : Size} {maxDimension : ℕ} (positive : 0 < maxDimension)
    (width : 0 < size.w) (height : 0 < size.h) (smaller : maxDimension < max size.w size.h) :
    fitDimensions size maxDimension =
      some ⟨scaled (max size.w size.h) maxDimension size.w,
        scaled (max size.w size.h) maxDimension size.h⟩ := by
  unfold fitDimensions
  rw [if_neg (by omega), scale_edge_eq smaller width, scale_edge_eq smaller height]
  rfl

theorem scaled_longest {longest bound : ℕ} (positive : 0 < bound) (small : bound < longest) :
    scaled longest bound longest = bound := by
  unfold scaled
  rw [half_up_mul (Nat.zero_lt_of_lt small)]
  omega

theorem scaled_bounds {longest bound value : ℕ} (small : bound < longest) (some_edge : 0 < value) :
    0 < scaled longest bound value ∧ scaled longest bound value ≤ value := by
  have low : halfUp (value * bound) longest ≤ value := half_up_small small
  unfold scaled
  omega

/-! ## The boxes -/

/-- The borders are what the two divisions say: the cells of a target no larger than the image are
not empty and end inside it. -/
theorem box_range_eq {parts size index : ℕ} (enough : parts ≤ size) (low : index < parts) :
    boxRange parts size index = some (edge size parts index, edge size parts (index + 1)) := by
  have some_cells : 0 < parts := Nat.zero_lt_of_lt low
  have filled := edge_lt some_cells enough index
  have inside : edge size parts (index + 1) ≤ size := edge_le some_cells low
  unfold boxRange
  rw [divide_eq some_cells, divide_eq some_cells]
  unfold edge at *
  simp only [Option.bind_eq_bind, Option.bind_some, Option.some.injEq, Prod.mk.injEq, true_and]
  omega

/-! ## The averages -/

def channel (image : ImageBuffer) (x y index : ℕ) : ℕ :=
  ((image.data[y * image.stride + x * 4 + index]?).map UInt8.toNat).getD 0

/-- What a channel adds up to in a box. -/
def channelSum (image : ImageBuffer) (xs ys : ℕ × ℕ) (index : ℕ) : ℕ :=
  ∑ y ∈ Finset.Ico ys.1 ys.2, ∑ x ∈ Finset.Ico xs.1 xs.2, channel image x y index

theorem channel_get {image : ImageBuffer} (sound : WellFormed image) {x y index : ℕ}
    (column : x < image.width) (row : y < image.height) (low : index < 4) :
    ∃ value, image.data[y * image.stride + x * 4 + index]? = some value ∧
      channel image x y index = value.toNat := by
  have inside := pixel_inside sound column row
  have found : image.data[y * image.stride + x * 4 + index]? = some _ :=
    List.getElem?_eq_getElem (by omega)
  refine ⟨_, found, ?_⟩
  unfold channel
  rw [found]
  rfl

/-- The sums with an amount added to each channel. -/
def Sums.plus (sums : Sums) (amount : ℕ → ℕ) (count : ℕ) : Sums :=
  ⟨sums.r + amount 0, sums.g + amount 1, sums.b + amount 2, sums.a + amount 3, sums.count + count⟩

theorem Sums.plus_plus (sums : Sums) (first second : ℕ → ℕ) (count more : ℕ) :
    (sums.plus first count).plus second more =
      sums.plus (fun index => first index + second index) (count + more) := by
  simp only [Sums.plus, Nat.add_assoc]

theorem add_pixel_eq {image : ImageBuffer} (sound : WellFormed image) {x y : ℕ}
    (column : x < image.width) (row : y < image.height) (sums : Sums) :
    addPixel image y x sums = some (sums.plus (channel image x y) 1) := by
  obtain ⟨r, gotR, isR⟩ := channel_get sound column row (show 0 < 4 by decide)
  obtain ⟨g, gotG, isG⟩ := channel_get sound column row (show 1 < 4 by decide)
  obtain ⟨b, gotB, isB⟩ := channel_get sound column row (show 2 < 4 by decide)
  obtain ⟨a, gotA, isA⟩ := channel_get sound column row (show 3 < 4 by decide)
  rw [Nat.add_zero] at gotR
  unfold addPixel Sums.plus
  dsimp only
  rw [gotR, gotG, gotB, gotA, isR, isG, isB, isA]
  rfl

theorem sum_row_eq {image : ImageBuffer} (sound : WellFormed image) {xs : ℕ × ℕ} {y : ℕ}
    (order : xs.1 ≤ xs.2) (columns : xs.2 ≤ image.width) (row : y < image.height) (sums : Sums) :
    forRange xs.1 xs.2 (addPixel image y) sums =
      some (sums.plus (fun index => ∑ x ∈ Finset.Ico xs.1 xs.2, channel image x y index)
        (xs.2 - xs.1)) := by
  let Inv (x : ℕ) (state : Sums) : Prop :=
    state = sums.plus (fun index => ∑ x ∈ Finset.Ico xs.1 x, channel image x y index) (x - xs.1)
  have first : Inv xs.1 sums := by
    simp [Inv, Sums.plus]
  obtain ⟨last, run, same⟩ := for_range_rule (addPixel image y) Inv order first (by
    intro x state low high here
    refine ⟨_, add_pixel_eq sound (by omega) row state, ?_⟩
    simp only [Inv] at here ⊢
    rw [here, Sums.plus_plus]
    simp only [Finset.sum_Ico_succ_top low]
    rw [Nat.sub_add_comm low])
  rw [run, same]

/-- The sums of a box inside the image. -/
theorem sum_box_eq {image : ImageBuffer} (sound : WellFormed image) {xs ys : ℕ × ℕ}
    (orderX : xs.1 ≤ xs.2) (columns : xs.2 ≤ image.width) (orderY : ys.1 ≤ ys.2)
    (rows : ys.2 ≤ image.height) :
    sumBox image xs ys = some (Sums.plus ⟨0, 0, 0, 0, 0⟩ (channelSum image xs ys)
      ((ys.2 - ys.1) * (xs.2 - xs.1))) := by
  let Inv (y : ℕ) (state : Sums) : Prop :=
    state = Sums.plus ⟨0, 0, 0, 0, 0⟩ (channelSum image xs (ys.1, y))
      ((y - ys.1) * (xs.2 - xs.1))
  have first : Inv ys.1 ⟨0, 0, 0, 0, 0⟩ := by
    simp [Inv, Sums.plus, channelSum]
  obtain ⟨last, run, same⟩ := for_range_rule
    (fun y sums => forRange xs.1 xs.2 (addPixel image y) sums) Inv orderY first (by
      intro y state low high here
      refine ⟨_, sum_row_eq sound orderX columns (by omega) state, ?_⟩
      simp only [Inv] at here ⊢
      have grown : channelSum image xs (ys.1, y + 1) = fun index =>
          channelSum image xs (ys.1, y) index +
            ∑ x ∈ Finset.Ico xs.1 xs.2, channel image x y index := by
        funext index
        exact Finset.sum_Ico_succ_top low _
      rw [here, Sums.plus_plus, Nat.sub_add_comm low, Nat.succ_mul, grown])
  rw [sumBox, run, same]

theorem channel_le (image : ImageBuffer) (x y index : ℕ) : channel image x y index ≤ 255 := by
  unfold channel
  rcases image.data[y * image.stride + x * 4 + index]? with _ | value
  · exact Nat.zero_le _
  · exact Nat.le_of_lt_succ value.toNat_lt

theorem channel_sum_le (image : ImageBuffer) (xs ys : ℕ × ℕ) (index : ℕ) :
    channelSum image xs ys index ≤ 255 * ((ys.2 - ys.1) * (xs.2 - xs.1)) := by
  have row : ∀ y ∈ Finset.Ico ys.1 ys.2,
      ∑ x ∈ Finset.Ico xs.1 xs.2, channel image x y index ≤ (xs.2 - xs.1) * 255 := by
    intro y _
    have bound := Finset.sum_le_card_nsmul (Finset.Ico xs.1 xs.2)
      (fun x => channel image x y index) 255 fun x _ => channel_le image x y index
    rwa [Nat.card_Ico, nsmul_eq_mul, Nat.cast_id] at bound
  have all := Finset.sum_le_card_nsmul _ _ _ row
  rw [Nat.card_Ico, nsmul_eq_mul, Nat.cast_id] at all
  calc channelSum image xs ys index ≤ (ys.2 - ys.1) * ((xs.2 - xs.1) * 255) := all
    _ = 255 * ((ys.2 - ys.1) * (xs.2 - xs.1)) := by ring

/-! ## The pixels that are written -/

/-- The averages of the four channels of a box. -/
def averages (amount : ℕ → ℕ) (count : ℕ) : List UInt8 :=
  (List.range 4).map fun index => UInt8.ofNat (halfUp (amount index) count)

theorem write_behind (written rest : List UInt8) (old value : UInt8) {off : ℕ}
    (behind : off = written.length) :
    write (written ++ old :: rest) off value = some (written ++ [value] ++ rest) := by
  unfold write
  rw [behind, if_pos (by simp), List.set_append_right _ _ (Nat.le_refl _), Nat.sub_self,
    List.append_assoc]
  rfl

/-- Four bytes are written right behind what was written before. -/
theorem write_pixel_eq {written rest : List UInt8} (room : 4 ≤ rest.length) {amount : ℕ → ℕ}
    {count off : ℕ} (some_pixels : 0 < count) (behind : off = written.length) :
    writePixel (written ++ rest) off (Sums.plus ⟨0, 0, 0, 0, 0⟩ amount count) =
      some (written ++ averages amount count ++ rest.drop 4) := by
  have rounded : ∀ sum, round count sum = some (UInt8.ofNat (halfUp sum count)) := by
    intro sum
    unfold round
    rw [divide_eq some_pixels, half_up_eq]
    rfl
  rcases rest with _ | ⟨r, _ | ⟨g, _ | ⟨b, _ | ⟨a, rest⟩⟩⟩⟩
  iterate 4 exact absurd room (by simp)
  unfold writePixel Sums.plus
  simp only [rounded, Option.bind_eq_bind, Option.bind_some, Nat.zero_add]
  rw [write_behind written _ r _ behind, Option.bind_some,
    write_behind (written ++ [_]) _ g _ (by simp [behind]), Option.bind_some,
    write_behind (written ++ [_] ++ [_]) _ b _ (by simp [behind]), Option.bind_some,
    write_behind (written ++ [_] ++ [_] ++ [_]) _ a _ (by simp [behind])]
  simp [averages, List.range_succ]

/-! ## The image that is written -/

/-- The pixels of the cell of the source. -/
def cellCount (image : ImageBuffer) (target : Size) (dx dy : ℕ) : ℕ :=
  (edge image.height target.h (dy + 1) - edge image.height target.h dy) *
    (edge image.width target.w (dx + 1) - edge image.width target.w dx)

def cellSum (image : ImageBuffer) (target : Size) (dx dy index : ℕ) : ℕ :=
  channelSum image (edge image.width target.w dx, edge image.width target.w (dx + 1))
    (edge image.height target.h dy, edge image.height target.h (dy + 1)) index

def averaged (image : ImageBuffer) (target : Size) (dx dy : ℕ) : List UInt8 :=
  averages (cellSum image target dx dy) (cellCount image target dx dy)

theorem length_averaged (image : ImageBuffer) (target : Size) (dx dy : ℕ) :
    (averaged image target dx dy).length = 4 := by
  unfold averaged averages
  rw [List.length_map, List.length_range]

/-- A target that is not larger than the image. -/
structure Smaller (target : Size) (image : ImageBuffer) : Prop where
  width : 0 < target.w
  height : 0 < target.h
  narrower : target.w ≤ image.width
  lower : target.h ≤ image.height

theorem cell_count_pos {image : ImageBuffer} {target : Size} (smaller : Smaller target image)
    (dx dy : ℕ) : 0 < cellCount image target dx dy := by
  have columns := edge_lt smaller.width smaller.narrower dx
  have rows := edge_lt smaller.height smaller.lower dy
  exact Nat.mul_pos (by omega) (by omega)

theorem write_box_eq {image : ImageBuffer} (sound : WellFormed image) {target : Size}
    (smaller : Smaller target image) {dx dy : ℕ} (column : dx < target.w) (row : dy < target.h)
    {written rest : List UInt8} (behind : (dy * target.w + dx) * 4 = written.length)
    (room : 4 ≤ rest.length) :
    writeBox image target dy (edge image.height target.h dy, edge image.height target.h (dy + 1)) dx
        (written ++ rest) =
      some (written ++ averaged image target dx dy ++ rest.drop 4) := by
  have columns : edge image.width target.w (dx + 1) ≤ image.width := edge_le smaller.width column
  have rows : edge image.height target.h (dy + 1) ≤ image.height := edge_le smaller.height row
  unfold writeBox
  rw [box_range_eq smaller.narrower column]
  simp only [Option.bind_eq_bind, Option.bind_some]
  rw [sum_box_eq sound (edge_mono (Nat.le_succ dx)) columns (edge_mono (Nat.le_succ dy)) rows]
  exact write_pixel_eq room (cell_count_pos smaller dx dy) behind

/-- One row of the target is written behind the rows before it. -/
theorem write_row_eq {image : ImageBuffer} (sound : WellFormed image) {target : Size}
    (smaller : Smaller target image) {dy : ℕ} (row : dy < target.h) {written rest : List UInt8}
    (behind : written.length = dy * (target.w * 4)) (room : target.w * 4 ≤ rest.length) :
    writeRow image target dy (written ++ rest) =
      some (written ++ gather target.w (fun dx => averaged image target dx dy) ++
        rest.drop (target.w * 4)) := by
  let Inv (dx : ℕ) (data : List UInt8) : Prop :=
    data = written ++ gather dx (fun dx => averaged image target dx dy) ++ rest.drop (dx * 4)
  have first : Inv 0 (written ++ rest) := by
    simp [Inv, gather]
  obtain ⟨last, run, same⟩ := for_range_rule (writeBox image target dy
    (edge image.height target.h dy, edge image.height target.h (dy + 1))) Inv
    (Nat.zero_le target.w) first (by
      intro dx data _ column here
      simp only [Inv] at here ⊢
      have size : (gather dx fun dx => averaged image target dx dy).length = dx * 4 :=
        length_gather fun index _ => length_averaged image target index dy
      refine ⟨_, ?_, rfl⟩
      rw [here, write_box_eq sound smaller column row, gather_succ, List.drop_drop]
      · simp only [List.append_assoc, Nat.succ_mul]
      · rw [List.length_append, behind, size]
        ring
      · rw [List.length_drop]
        omega)
  unfold writeRow
  rw [box_range_eq smaller.lower row]
  exact run.trans (congrArg some same)

/-- All rows of the target are written. -/
theorem write_rows_eq {image : ImageBuffer} (sound : WellFormed image) {target : Size}
    (smaller : Smaller target image) {data : List UInt8}
    (room : data.length = target.h * (target.w * 4)) :
    forRange 0 target.h (writeRow image target) data =
      some (gather target.h fun dy => gather target.w fun dx => averaged image target dx dy) := by
  let rows (dy : ℕ) : List UInt8 := gather target.w fun dx => averaged image target dx dy
  have even : ∀ dy, (rows dy).length = target.w * 4 := fun dy =>
    length_gather fun dx _ => length_averaged image target dx dy
  let Inv (dy : ℕ) (state : List UInt8) : Prop :=
    state = gather dy rows ++ data.drop (dy * (target.w * 4))
  have first : Inv 0 data := by
    simp [Inv, gather]
  obtain ⟨last, run, same⟩ := for_range_rule (writeRow image target) Inv (Nat.zero_le target.h)
    first (by
      intro dy state _ row here
      have below : (dy + 1) * (target.w * 4) ≤ target.h * (target.w * 4) :=
        Nat.mul_le_mul_right _ row
      have next : (dy + 1) * (target.w * 4) = dy * (target.w * 4) + target.w * 4 := by ring
      simp only [Inv] at here ⊢
      refine ⟨_, ?_, rfl⟩
      rw [here, write_row_eq sound smaller row, gather_succ, List.drop_drop, next]
      · exact length_gather fun index _ => even index
      · rw [List.length_drop]
        omega)
  rw [run, same, ← room, List.drop_length, List.append_nil]

theorem downscale_eq {image : ImageBuffer} (sound : WellFormed image) {maxDimension : ℕ}
    (positive : 0 < maxDimension) (width : 0 < image.width) (height : 0 < image.height)
    (small : maxDimension < max image.width image.height) {target : Size}
    (fits : fitDimensions image.size maxDimension = some target) (smaller : Smaller target image) :
    downscale image maxDimension = some ⟨target.w, target.h, 4 * target.w, .rgba8,
      gather target.h fun dy => gather target.w fun dx => averaged image target dx dy⟩ := by
  have narrower := smaller.narrower
  have wide := sound.row
  have stride := sound.stride
  obtain ⟨rows, black⟩ := new_rgba_tight target.w target.h (by omega)
    (smaller.lower.trans sound.height)
  have room : (ImageBuffer.newRgba target.w target.h).data.length =
      target.h * (target.w * 4) := by
    rw [black, length_gather fun _ _ => rfl]
    exact (congrArg (· * 4) (Nat.mul_comm _ _)).trans (Nat.mul_assoc _ _ _)
  unfold downscale
  dsimp only
  rw [if_neg (by omega), fits]
  simp only [Option.bind_eq_bind, Option.bind_some]
  rw [write_rows_eq sound smaller room, Option.bind_some, rows]
  rfl

/-! ## The law of the bound -/

/-- The image scaled down to the bound. -/
structure Scaled (image : ImageBuffer) (maxDimension : ℕ) (out : ImageBuffer) : Prop where
  size : fitDimensions image.size maxDimension = some out.size
  tight : Tight out
  -- The longest edge is the bound, the other one is rounded half up and at least 1.
  longest : (image.height ≤ image.width → out.width = maxDimension) ∧
    (image.width ≤ image.height → out.height = maxDimension)
  width : out.width =
    max 1 (halfUp (image.width * maxDimension) (max image.width image.height))
  height : out.height =
    max 1 (halfUp (image.height * maxDimension) (max image.width image.height))
  -- The borders that the loops compute are those of the cells.
  columns : ∀ dx < out.width, boxRange out.width image.width dx =
    some (edge image.width out.width dx, edge image.width out.width (dx + 1))
  rows : ∀ dy < out.height, boxRange out.height image.height dy =
    some (edge image.height out.height dy, edge image.height out.height (dy + 1))
  partition : ∀ x < image.width, ∀ y < image.height, ∃! box : ℕ × ℕ,
    (box.1 < out.width ∧ Inside image.width out.width box.1 x) ∧
      (box.2 < out.height ∧ Inside image.height out.height box.2 y)
  -- Every channel is the average of its cell.
  average : ∀ dx < out.width, ∀ dy < out.height, ∀ index < 4, ∃ bytes value,
    out.pixel dx dy = some bytes ∧ bytes[index]? = some value ∧
      0 < cellCount image out.size dx dy ∧
      value.toNat =
        halfUp (cellSum image out.size dx dy index) (cellCount image out.size dx dy)

theorem cells_partition {width height columns rows : ℕ} (some_columns : 0 < columns)
    (some_rows : 0 < rows) {x y : ℕ} (column : x < width) (row : y < height) :
    ∃! box : ℕ × ℕ, (box.1 < columns ∧ Inside width columns box.1 x) ∧
      (box.2 < rows ∧ Inside height rows box.2 y) := by
  obtain ⟨dx, across, onlyX⟩ := cell_unique some_columns column
  obtain ⟨dy, down, onlyY⟩ := cell_unique some_rows row
  refine ⟨(dx, dy), ⟨across, down⟩, ?_⟩
  rintro ⟨otherX, otherY⟩ ⟨sameX, sameY⟩
  rw [onlyX otherX sameX, onlyY otherY sameY]

theorem average_byte (image : ImageBuffer) (target : Size) {dx dy index : ℕ}
    (some_pixels : 0 < cellCount image target dx dy) (low : index < 4) :
    ∃ value, (averaged image target dx dy)[index]? = some value ∧
      value.toNat = halfUp (cellSum image target dx dy index) (cellCount image target dx dy) := by
  have small : halfUp (cellSum image target dx dy index) (cellCount image target dx dy) ≤ 255 :=
    half_up_le some_pixels (channel_sum_le image _ _ index)
  refine ⟨UInt8.ofNat (halfUp (cellSum image target dx dy index) (cellCount image target dx dy)),
    ?_, ?_⟩
  · unfold averaged averages
    rw [List.getElem?_map, List.getElem?_range low]
    rfl
  · exact UInt8.toNat_ofNat_of_lt' (Nat.lt_of_le_of_lt small (by decide))

/-- The pixel at the place of its box. -/
theorem pixel_averaged (image : ImageBuffer) (target : Size) {dx dy : ℕ} (column : dx < target.w)
    (row : dy < target.h) :
    ImageBuffer.pixel ⟨target.w, target.h, 4 * target.w, .rgba8,
        gather target.h fun dy => gather target.w fun dx => averaged image target dx dy⟩ dx dy =
      some (averaged image target dx dy) := by
  have place : dy * (4 * target.w) + dx * 4 = dy * (target.w * 4) + (dx * 4 + 0) := by ring
  have inside : dx * 4 + 0 + 4 ≤ target.w * 4 := by omega
  have even : ∀ dy < target.h,
      (gather target.w fun dx => averaged image target dx dy).length = target.w * 4 := fun dy _ =>
    length_gather fun dx _ => length_averaged image target dx dy
  have whole := slice_whole (averaged image target dx dy)
  rw [length_averaged] at whole
  rw [pixel_eq column row]
  dsimp only
  rw [place, slice_gather even row inside,
    slice_gather (fun index _ => length_averaged image target index dy) column (by omega), whole]

/-- Images are scaled down as the law of the bound says; one without pixels is left as it is. -/
theorem downscale_scaled (image : ImageBuffer) (sound : WellFormed image) (maxDimension : ℕ)
    (positive : 0 < maxDimension) (small : maxDimension < max image.width image.height) :
    (0 < image.width → 0 < image.height →
      ∃ out, downscale image maxDimension = some out ∧ Scaled image maxDimension out) ∧
    (image.width = 0 ∨ image.height = 0 →
      downscale image maxDimension = some image ∧
        fitDimensions image.size maxDimension = some image.size) := by
  constructor
  · intro width height
    let target : Size := ⟨scaled (max image.width image.height) maxDimension image.width,
      scaled (max image.width image.height) maxDimension image.height⟩
    have fits : fitDimensions image.size maxDimension = some target :=
      fit_dimensions_eq positive width height small
    obtain ⟨some_columns, narrower⟩ := scaled_bounds small width
    obtain ⟨some_rows, lower⟩ := scaled_bounds small height
    have smaller : Smaller target image := ⟨some_columns, some_rows, narrower, lower⟩
    refine ⟨_, downscale_eq sound positive width height small fits smaller, ?_⟩
    exact {
      size := fits
      tight := by
        refine ⟨rfl, ?_⟩
        dsimp only
        rw [length_gather fun dy _ => length_gather fun dx _ => length_averaged image target dx dy]
        ring
      longest := by
        constructor
        · intro wide
          have longest : max image.width image.height = image.width := Nat.max_eq_left wide
          exact (congrArg (scaled · maxDimension image.width) longest).trans
            (scaled_longest positive (longest ▸ small))
        · intro tall
          have longest : max image.width image.height = image.height := Nat.max_eq_right tall
          exact (congrArg (scaled · maxDimension image.height) longest).trans
            (scaled_longest positive (longest ▸ small))
      width := rfl
      height := rfl
      columns := fun dx column => box_range_eq narrower column
      rows := fun dy row => box_range_eq lower row
      partition := fun x column y row => cells_partition some_columns some_rows column row
      average := by
        intro dx column dy row index low
        have some_pixels := cell_count_pos smaller dx dy
        obtain ⟨value, found, same⟩ := average_byte image target some_pixels low
        exact ⟨_, value, pixel_averaged image target column row, found, some_pixels, same⟩ }
  · intro none
    constructor
    · unfold downscale
      dsimp only
      rw [if_pos (by omega)]
    · unfold fitDimensions ImageBuffer.size
      dsimp only
      rw [if_pos (by omega)]

/-- The sums of an image that fits in any address space are far below the range of a `u64`. -/
theorem sums_fit {image : ImageBuffer} (sound : WellFormed image) {target : Size}
    (smaller : Smaller target image) {dx dy : ℕ} (column : dx < target.w) (row : dy < target.h)
    (memory : image.data.length < 2 ^ 58) (index : ℕ) :
    cellSum image target dx dy index + cellCount image target dx dy / 2 < 2 ^ 64 := by
  have columns : edge image.width target.w (dx + 1) ≤ image.width := edge_le smaller.width column
  have rows : edge image.height target.h (dy + 1) ≤ image.height := edge_le smaller.height row
  have count : cellCount image target dx dy ≤ image.height * image.width :=
    Nat.mul_le_mul (Nat.le_trans (Nat.sub_le _ _) rows) (Nat.le_trans (Nat.sub_le _ _) columns)
  have sum : cellSum image target dx dy index ≤ 255 * cellCount image target dx dy :=
    channel_sum_le image _ _ index
  have bytes : 4 * image.width * image.height ≤ image.stride * image.height :=
    Nat.mul_le_mul_right _ sound.row
  have pixels : 4 * image.width * image.height = 4 * (image.height * image.width) := by ring
  have full := sound.full
  omega

/-- An image with padded rows and a byte behind them. -/
theorem downscale_scaled_padded :
    ∃ out, downscale ⟨3, 2, 13, .rgba8, List.replicate 27 7⟩ 2 = some out ∧
      Scaled ⟨3, 2, 13, .rgba8, List.replicate 27 7⟩ 2 out := by
  have sound : WellFormed ⟨3, 2, 13, .rgba8, List.replicate 27 7⟩ := by
    constructor <;> decide
  exact (downscale_scaled _ sound 2 (by decide) (by decide)).1 (by decide) (by decide)

/-- An image without pixels keeps an edge beyond the bound. -/
theorem empty_not_scaled :
    ¬ ∀ image maxDimension, WellFormed image → 0 < maxDimension →
      maxDimension < max image.width image.height →
      ∃ out, downscale image maxDimension = some out ∧ Scaled image maxDimension out := by
  intro all
  have sound : WellFormed ⟨0, 2, 0, .rgba8, []⟩ := by
    constructor <;> decide
  obtain ⟨out, same, bounded⟩ := all _ 1 sound (by decide) (by decide)
  have unscaled : downscale ⟨0, 2, 0, .rgba8, []⟩ 1 = some ⟨0, 2, 0, .rgba8, []⟩ := rfl
  have image : out = ⟨0, 2, 0, .rgba8, []⟩ := Option.some.inj (same.symm.trans unscaled)
  have height := bounded.longest.2 (by decide)
  rw [image] at height
  cases height

end ADesk.Render.Scaling
