/- ADesk/Core/Geometry
   digest: Half-open rectangles and damage regions, with the coalescing that observations report. -/

import Mathlib.Algebra.Group.Nat.Defs
import Mathlib.Algebra.Ring.Int.Defs
import Mathlib.Data.List.Sort

set_option autoImplicit false

namespace ADesk.Core.Geometry

def i32Max : ℤ := 2 ^ 31 - 1
def i32Min : ℤ := -2 ^ 31
def u32Max : ℕ := 2 ^ 32 - 1

/-- Saturating cast from `i64` to `i32`. -/
def clampI32 (value : ℤ) : ℤ :=
  if value > i32Max then i32Max else if value < i32Min then i32Min else value

structure Point where
  x : ℤ
  y : ℤ
  deriving DecidableEq, Repr

/-- A pixel rectangle covering `x..x+w` and `y..y+h`. -/
structure Rect where
  x : ℤ
  y : ℤ
  w : ℕ
  h : ℕ
  deriving DecidableEq, Repr

namespace Rect

/-- The empty rectangle at the origin. -/
def empty : Rect := ⟨0, 0, 0, 0⟩

def area (r : Rect) : ℕ := r.w * r.h

/-- Exclusive right edge, saturating at `i32::MAX`. -/
def right (r : Rect) : ℤ := clampI32 (r.x + r.w)

/-- Exclusive bottom edge, saturating at `i32::MAX`. -/
def bottom (r : Rect) : ℤ := clampI32 (r.y + r.h)

def isEmpty (r : Rect) : Bool := r.w == 0 || r.h == 0

/-- `none` when the rectangles are disjoint, touch only along an edge, or one is empty. -/
def intersect (a b : Rect) : Option Rect :=
  if a.isEmpty || b.isEmpty then none
  else
    let x0 := max a.x b.x
    let y0 := max a.y b.y
    let x1 := min (a.x + a.w) (b.x + b.w)
    let y1 := min (a.y + a.h) (b.y + b.h)
    if x1 ≤ x0 || y1 ≤ y0 then none
    else some ⟨clampI32 x0, clampI32 y0, (x1 - x0).toNat, (y1 - y0).toNat⟩

/-- Smallest rectangle covering both operands; empty operands are ignored. -/
def union (a b : Rect) : Rect :=
  if a.isEmpty then b
  else if b.isEmpty then a
  else
    let x0 := min a.x b.x
    let y0 := min a.y b.y
    let x1 := max (a.x + a.w) (b.x + b.w)
    let y1 := max (a.y + a.h) (b.y + b.h)
    ⟨clampI32 x0, clampI32 y0, min (x1 - x0).toNat u32Max, min (y1 - y0).toNat u32Max⟩

end Rect

/-- An ordered list of rectangles that may overlap; empty rectangles are never stored. -/
structure Region where
  rects : List Rect
  nonempty : ∀ r ∈ rects, r.isEmpty = false
  deriving DecidableEq

namespace Region

def empty : Region := ⟨[], by simp⟩

instance : Inhabited Region := ⟨empty⟩

/-- Appends a rectangle, ignoring an empty one. -/
def push (region : Region) (rect : Rect) : Region :=
  if fresh : rect.isEmpty then region
  else ⟨region.rects ++ [rect], by
    intro r member
    rcases List.mem_append.mp member with old | new
    · exact region.nonempty r old
    · rw [List.mem_singleton.mp new]
      exact eq_false_of_ne_true fresh⟩

def fromRect (rect : Rect) : Region := empty.push rect

/-- Appends all rectangles of the other region, which holds no empty one. -/
def extend (region other : Region) : Region :=
  ⟨region.rects ++ other.rects.filter (fun r => !r.isEmpty), by
    intro r member
    rcases List.mem_append.mp member with old | new
    · exact region.nonempty r old
    · exact other.nonempty r (List.mem_of_mem_filter new)⟩

/-- The part of the region inside `bounds`, not coalesced. -/
def clip (region : Region) (bounds : Rect) : Region :=
  if bounds.isEmpty then empty
  else region.rects.foldl (fun out rect =>
    match rect.intersect bounds with
    | some part => out.push part
    | none => out) empty

def isEmpty (region : Region) : Bool := region.rects.isEmpty

end Region

/-- The bounding box of two rectangles that overlap or touch along an edge segment;
corner-touching rectangles stay separate. -/
def mergePair (a b : Rect) : Option Rect :=
  if a.isEmpty || b.isEmpty then none
  else if (a.intersect b).isSome then some (a.union b)
  else
    let touchesX := a.right == b.x || b.right == a.x
    let spansY := decide (max a.y b.y < min a.bottom b.bottom)
    let touchesY := a.bottom == b.y || b.bottom == a.y
    let spansX := decide (max a.x b.x < min a.right b.right)
    if (touchesX && spansY) || (touchesY && spansX) then some (a.union b) else none

/-- The inner search: merges `a` with the first partner in `rest`, removing the partner. -/
def mergeInto (a : Rect) : List Rect → Option (Rect × List Rect)
  | [] => none
  | b :: rest =>
    match mergePair a b with
    | some merged => some (merged, rest)
    | none => (mergeInto a rest).map fun found => (found.1, b :: found.2)

/-- One round of the search loop: the first mergeable pair in index order, or none. -/
def mergeFirst : List Rect → Option (List Rect)
  | [] => none
  | a :: rest =>
    match mergeInto a rest with
    | some (merged, others) => some (merged :: others)
    | none => (mergeFirst rest).map (a :: ·)

/-- The `while merged` loop, bounded by the number of rectangles still to merge. -/
def coalesceRounds : ℕ → List Rect → List Rect
  | 0, rects => rects
  | rounds + 1, rects =>
    match mergeFirst rects with
    | some merged => coalesceRounds rounds merged
    | none => rects

/-- Merges overlapping or edge-adjacent rectangles until no pair can be merged. -/
def coalesce (rects : List Rect) : List Rect :=
  let kept := rects.filter (fun r => !r.isEmpty)
  coalesceRounds kept.length kept

/-- The sort key `(y, x, h, w)`. -/
def Rect.sortsBefore (a b : Rect) : Bool :=
  ((compare a.y b.y).then <| (compare a.x b.x).then <|
    (compare a.h b.h).then (compare a.w b.w)).isLE

/-- Coalesced rectangles in the deterministic order observations report. -/
def Region.simplified (region : Region) : List Rect :=
  (coalesce region.rects).insertionSort (fun a b => a.sortsBefore b)

private theorem merge_into_length {a : Rect} {rest others : List Rect} {merged : Rect}
    (found : mergeInto a rest = some (merged, others)) : others.length + 1 = rest.length := by
  induction rest generalizing merged others with
  | nil => simp [mergeInto] at found
  | cons b rest ih =>
    simp only [mergeInto] at found
    split at found
    · cases found
      rfl
    · obtain ⟨⟨inner, kept⟩, deeper, same⟩ := Option.map_eq_some_iff.mp found
      cases same
      simpa using ih deeper

private theorem merge_first_length {rects merged : List Rect}
    (found : mergeFirst rects = some merged) : merged.length + 1 = rects.length := by
  induction rects generalizing merged with
  | nil => simp [mergeFirst] at found
  | cons a rest ih =>
    simp only [mergeFirst] at found
    split at found
    · next joined others deeper =>
      cases found
      simpa using merge_into_length deeper
    · obtain ⟨kept, deeper, rfl⟩ := Option.map_eq_some_iff.mp found
      simpa using ih deeper

private theorem coalesce_rounds_stable (rounds : ℕ) (rects : List Rect)
    (enough : rects.length ≤ rounds) : mergeFirst (coalesceRounds rounds rects) = none := by
  induction rounds generalizing rects with
  | zero =>
    rw [List.eq_nil_of_length_eq_zero (Nat.le_zero.mp enough)]
    rfl
  | succ rounds ih =>
    simp only [coalesceRounds]
    split
    · next merged found =>
      have shorter := merge_first_length found
      exact ih merged (by omega)
    · assumption

/-- The loop bound is never what stops the loop: no pair of the result can be merged. -/
theorem coalesce_stable (rects : List Rect) : mergeFirst (coalesce rects) = none :=
  coalesce_rounds_stable _ _ (Nat.le_refl _)

end ADesk.Core.Geometry
