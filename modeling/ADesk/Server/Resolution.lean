/- ADesk/Server/Resolution
   digest: Where the server and the window manager place a position in a window. -/

import ADesk.Compositor.Inject
import ADesk.Core.Coverage

set_option autoImplicit false

namespace ADesk.Server.Resolution

open ADesk.Core.Coalescing (clamp_inside)
open ADesk.Core.Coverage (InRange)
open ADesk.Core.Geometry
open ADesk.Core.Ids (WindowId)
open ADesk.Core.Position (clampBetween)

/-! ## Both paths -/

/-- A position whose normalized coordinates are numbers of any type. -/
inductive Position (F : Type)
  | pixels (point : Point)
  | normalized (x y : F)

section Paths

variable {F : Type}

-- `(clamp01(value) * (dim as f64 - 1.0)).round() as i64`, which both paths evaluate.
variable (offset : F → ℕ → ℕ)

/-- `Position::resolve`. -/
def Position.resolve (position : Position F) (window : Rect) : Point :=
  if window.isEmpty then ⟨window.x, window.y⟩
  else
    match position with
    | .pixels p =>
      ⟨clampI32 (clampBetween p.x window.x (window.x + window.w - 1)),
        clampI32 (clampBetween p.y window.y (window.y + window.h - 1))⟩
    | .normalized x y =>
      ⟨clampI32 (window.x + offset x window.w), clampI32 (window.y + offset y window.h)⟩

/-- `resolve_position`: resolved in a rectangle at the origin, then translated. -/
def resolvePosition (geometry : Rect) (position : Position F) : Point :=
  let placed := position.resolve offset ⟨0, 0, geometry.w, geometry.h⟩
  ⟨clampI32 (geometry.x + placed.x), clampI32 (geometry.y + placed.y)⟩

end Paths

/-! ## One axis -/

/-- The edge of the window is at the origin, or the coordinate is outside of the window and of the
window moved to the origin on the same side, or both results saturate. -/
def PixelAgrees (start : ℤ) (size : ℕ) (p : ℤ) : Prop :=
  start = 0 ∨ size = 1 ∨ (p ≤ 0 ∧ p ≤ start) ∨ (size ≤ p + 1 ∧ start + size ≤ p + 1) ∨
    start = i32Max ∨ (0 < start ∧ p = i32Max ∧ i32Max < start + size)

/-- The offset fits in an `i32`, or the results saturate. -/
def OffsetAgrees (start : ℤ) (offset : ℕ) : Prop := (offset : ℤ) ≤ i32Max ∨ 0 ≤ start

theorem clamp_high {value : ℤ} (low : i32Min ≤ value) : clampI32 value = min value i32Max := by
  unfold clampI32
  simp only [i32Max, i32Min] at *
  split_ifs <;> omega

theorem pixel_agrees_iff {start : ℤ} (low : i32Min ≤ start) (high : start ≤ i32Max) {size : ℕ}
    (some : 0 < size) {p : ℤ} (bound : p ≤ i32Max) :
    clampI32 (clampBetween p start (start + size - 1)) =
        clampI32 (start + clampI32 (clampBetween p 0 (0 + size - 1))) ↔
      PixelAgrees start size p := by
  have window : clampI32 (clampBetween p start (start + size - 1)) =
      max start (min p (start + size - 1)) := by
    refine clamp_inside ?_ ?_ <;> unfold clampBetween <;> omega
  have origin : clampI32 (clampBetween p 0 (0 + size - 1)) = max 0 (min p (size - 1)) := by
    have same : clampBetween p 0 (0 + size - 1) = max 0 (min p (size - 1)) := by
      unfold clampBetween
      rw [Int.zero_add]
    rw [same]
    refine clamp_inside ?_ ?_ <;> simp only [i32Max, i32Min] at * <;> omega
  rw [window, origin, clamp_high (by omega)]
  unfold PixelAgrees
  omega

theorem offset_agrees_iff {start : ℤ} (low : i32Min ≤ start) (offset : ℕ) :
    clampI32 (start + offset) = clampI32 (start + clampI32 (0 + offset)) ↔
      OffsetAgrees start offset := by
  have placed : clampI32 (0 + offset) = min (offset : ℤ) i32Max := by
    rw [Int.zero_add, clamp_high (by simp only [i32Min]; omega)]
  rw [placed, clamp_high (by omega), clamp_high (by simp only [i32Max, i32Min] at *; omega)]
  unfold OffsetAgrees
  simp only [i32Max, i32Min] at *
  omega

/-! ## Every position in every window -/

section Agreement

variable {F : Type} (offset : F → ℕ → ℕ)

/-- The pixels are `i32`. -/
def Position.InRange : Position F → Prop
  | .pixels p => p.x ≤ i32Max ∧ p.y ≤ i32Max
  | .normalized _ _ => True

def Agrees (geometry : Rect) : Position F → Prop
  | .pixels p => PixelAgrees geometry.x geometry.w p.x ∧ PixelAgrees geometry.y geometry.h p.y
  | .normalized x y =>
    OffsetAgrees geometry.x (offset x geometry.w) ∧ OffsetAgrees geometry.y (offset y geometry.h)

/-- Both paths give the same point just where they agree on each axis, or the window is empty. -/
theorem resolve_agrees_iff {geometry : Rect} (range : InRange geometry) {position : Position F}
    (bound : position.InRange) :
    position.resolve offset geometry = resolvePosition offset geometry position ↔
      geometry.isEmpty = true ∨ Agrees offset geometry position := by
  have local' : (Rect.mk 0 0 geometry.w geometry.h).isEmpty = geometry.isEmpty := rfl
  unfold resolvePosition Position.resolve
  rw [local']
  cases empty : geometry.isEmpty with
  | true =>
    simp only [if_true, Int.add_zero, true_or, iff_true]
    rw [clamp_inside range.left range.right, clamp_inside range.top range.bottom]
  | false =>
    obtain ⟨width, height⟩ := Core.Coverage.empty_iff.mp empty
    simp only [Bool.false_eq_true, if_false, false_or]
    cases position with
    | pixels p =>
      simp only [Point.mk.injEq, Agrees]
      exact and_congr (pixel_agrees_iff range.left range.right width bound.1)
        (pixel_agrees_iff range.top range.bottom height bound.2)
    | normalized x y =>
      simp only [Point.mk.injEq, Agrees]
      exact and_congr (offset_agrees_iff range.left _) (offset_agrees_iff range.top _)

end Agreement

/-! ## The paths of the model -/

/-- The offset without rounding of the product. -/
def rationalOffset (value : ℚ) (dim : ℕ) : ℕ :=
  (Core.Position.clamp01 value * (dim - 1) + 1 / 2).floor.toNat

def ofRational : Core.Event.Position → Position ℚ
  | .pixels p => .pixels p
  | .normalized x y => .normalized x y

theorem rational_offset {dim : ℕ} (some : 0 < dim) (value : ℚ) :
    (rationalOffset value dim : ℤ) =
      (Core.Position.clamp01 value * (dim - 1) + 1 / 2).floor := by
  refine Int.toNat_of_nonneg (Rat.le_floor_iff.mpr ?_)
  have clamped : 0 ≤ Core.Position.clamp01 value := le_max_left _ _
  have one : (1 : ℚ) ≤ dim := by exact_mod_cast some
  have half : (0 : ℚ) ≤ 1 / 2 := div_nonneg zero_le_one zero_le_two
  rw [Int.cast_zero]
  exact add_nonneg (mul_nonneg clamped (sub_nonneg.mpr one)) half

theorem resolve_rational (position : Core.Event.Position) (window : Rect) :
    Core.Position.resolve position window = (ofRational position).resolve rationalOffset window := by
  unfold Core.Position.resolve Position.resolve
  cases empty : window.isEmpty with
  | true => rfl
  | false =>
    obtain ⟨width, height⟩ := Core.Coverage.empty_iff.mp empty
    cases position with
    | pixels p => rfl
    | normalized x y =>
      simp only [ofRational, rational_offset width, rational_offset height]

/-- The compositor asks the window manager. -/
theorem seat_resolves {P : Type} {seat : Compositor.Inject.Seat P} {id : WindowId}
    {record : Wm.Policy.WindowRecord} (found : Wm.Policy.window seat.wm.manager id = some record)
    (position : Core.Event.Position) :
    seat.resolvePosition id position =
      .ok (resolvePosition rationalOffset record.geometry (ofRational position)) := by
  unfold Compositor.Inject.Seat.resolvePosition resolvePosition
  rw [found]
  simp only [resolve_rational]

/-- A pixel at the left edge of a window that is not at the origin. -/
theorem moved_window_differs :
    (Position.pixels ⟨10, 10⟩ : Position ℚ).resolve rationalOffset ⟨100, 50, 100, 50⟩ =
        ⟨100, 50⟩ ∧
      resolvePosition rationalOffset ⟨100, 50, 100, 50⟩ (.pixels ⟨10, 10⟩) = ⟨110, 60⟩ := by
  decide

theorem origin_window_agrees :
    (Position.pixels ⟨10, 10⟩ : Position ℚ).resolve rationalOffset ⟨0, 0, 100, 50⟩ =
      resolvePosition rationalOffset ⟨0, 0, 100, 50⟩ (.pixels ⟨10, 10⟩) :=
  (resolve_agrees_iff rationalOffset (show InRange ⟨0, 0, 100, 50⟩ by constructor <;> decide)
    (show Position.InRange (.pixels ⟨10, 10⟩ : Position ℚ) from ⟨by decide, by decide⟩)).mpr
      (Or.inr ⟨Or.inl rfl, Or.inl rfl⟩)

end ADesk.Server.Resolution
