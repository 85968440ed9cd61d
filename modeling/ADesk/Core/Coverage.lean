/- ADesk/Core/Coverage
   digest: Simplified regions cover what they simplify and stay within its bounding box, also where
   edges saturate. -/

import Mathlib.Order.MinMax
import ADesk.Core.Coalescing

set_option autoImplicit false

namespace ADesk.Core.Coverage

open ADesk.Core.Geometry
open ADesk.Core.Coalescing (clamp_inside)

/-! ## Rectangles of the source -/

/-- The fields are an `i32` and a `u32` each. -/
structure InRange (r : Rect) : Prop where
  left : i32Min ≤ r.x
  right : r.x ≤ i32Max
  top : i32Min ≤ r.y
  bottom : r.y ≤ i32Max
  width : r.w ≤ u32Max
  height : r.h ≤ u32Max

/-- The point lies inside the half-open rectangle. -/
def contains (r : Rect) (p : Point) : Bool :=
  if r.isEmpty then false
  else decide (p.x ≥ r.x) && decide (p.x < r.x + r.w) && decide (p.y ≥ r.y) &&
    decide (p.y < r.y + r.h)

/-- The bounding box of the rectangles that are not empty. -/
def bounds (rects : List Rect) : Option Rect :=
  match rects.filter fun r => !r.isEmpty with
  | [] => none
  | first :: rest => some (rest.foldl Rect.union first)

/-- What a region simplifies to; regions read from outside may hold empty rectangles. -/
def simplified (rects : List Rect) : List Rect :=
  (coalesce rects).insertionSort fun a b => a.sortsBefore b

theorem contains_iff {r : Rect} {p : Point} :
    contains r p = true ↔ r.isEmpty = false ∧
      r.x ≤ p.x ∧ p.x < r.x + r.w ∧ r.y ≤ p.y ∧ p.y < r.y + r.h := by
  unfold contains
  cases r.isEmpty with
  | true => simp
  | false => simp [and_assoc]

theorem empty_iff {r : Rect} : r.isEmpty = false ↔ 0 < r.w ∧ 0 < r.h := by
  simp only [Rect.isEmpty, Bool.or_eq_false_iff, beq_eq_false_iff_ne]
  omega

/-! ## The union of two rectangles -/

/-- The rectangles that the merging loop handles. -/
structure Filled (r : Rect) : Prop extends InRange r where
  filled : r.isEmpty = false

/-- The union with its width and height cut to `u32`. -/
theorem union_fields {a b : Rect} (soundA : Filled a) (soundB : Filled b) :
    (a.union b).x = min a.x b.x ∧ (a.union b).y = min a.y b.y ∧
      (a.union b).w = min (max (a.x + a.w) (b.x + b.w) - min a.x b.x).toNat u32Max ∧
      (a.union b).h = min (max (a.y + a.h) (b.y + b.h) - min a.y b.y).toNat u32Max := by
  have x : clampI32 (min a.x b.x) = min a.x b.x :=
    clamp_inside (le_min soundA.left soundB.left) ((min_le_left _ _).trans soundA.right)
  have y : clampI32 (min a.y b.y) = min a.y b.y :=
    clamp_inside (le_min soundA.top soundB.top) ((min_le_left _ _).trans soundA.bottom)
  unfold Rect.union
  rw [soundA.filled, soundB.filled]
  simp only [Bool.false_eq_true, if_false, x, y, and_self]

/-- The size of the union along one axis, where `edge` is the higher of both edges. -/
structure Cut (start edge : ℤ) (size : ℕ) : Prop where
  low : i32Min ≤ start
  same : size = min (edge - start).toNat u32Max

/-- The size is cut only where the edge is at `i32::MAX` already. -/
theorem Cut.covers {start edge point : ℤ} {size : ℕ} (cut : Cut start edge size)
    (low : point < i32Max) (inside : point < edge) : point < start + size := by
  obtain ⟨lowest, same⟩ := cut
  simp only [i32Max, i32Min, u32Max] at *
  omega

theorem Cut.within {start edge limit : ℤ} {size : ℕ} (cut : Cut start edge size)
    (order : start ≤ edge) (bound : edge ≤ limit) : start + size ≤ limit := by
  have same := cut.same
  omega

theorem Cut.size_pos {start edge : ℤ} {size : ℕ} (cut : Cut start edge size)
    (order : start < edge) : 0 < size ∧ size ≤ u32Max := by
  have same := cut.same
  simp only [u32Max] at *
  omega

theorem clamp_mono {low high : ℤ} (order : low ≤ high) : clampI32 low ≤ clampI32 high := by
  unfold clampI32
  simp only [i32Max, i32Min]
  split_ifs <;> omega

/-- The saturating edge of the union is not lower than the edge itself. -/
theorem Cut.saturates {start edge : ℤ} {size : ℕ} (cut : Cut start edge size) :
    clampI32 edge ≤ clampI32 (start + size) := by
  obtain ⟨lowest, same⟩ := cut
  unfold clampI32
  simp only [i32Max, i32Min, u32Max] at *
  split_ifs <;> omega

theorem union_cut {a b : Rect} (soundA : Filled a) (soundB : Filled b) :
    Cut (a.union b).x (max (a.x + a.w) (b.x + b.w)) (a.union b).w ∧
      Cut (a.union b).y (max (a.y + a.h) (b.y + b.h)) (a.union b).h := by
  obtain ⟨x, y, w, h⟩ := union_fields soundA soundB
  rw [← x] at w
  rw [← y] at h
  exact ⟨⟨x ▸ le_min soundA.left soundB.left, w⟩, ⟨y ▸ le_min soundA.top soundB.top, h⟩⟩

theorem union_start {a b : Rect} (soundA : Filled a) (soundB : Filled b) :
    ((a.union b).x ≤ a.x ∧ (a.union b).x ≤ b.x) ∧ ((a.union b).y ≤ a.y ∧ (a.union b).y ≤ b.y) := by
  obtain ⟨x, y, -, -⟩ := union_fields soundA soundB
  rw [x, y]
  exact ⟨⟨min_le_left _ _, min_le_right _ _⟩, ⟨min_le_left _ _, min_le_right _ _⟩⟩

theorem union_filled {a b : Rect} (soundA : Filled a) (soundB : Filled b) :
    Filled (a.union b) := by
  obtain ⟨x, y, -, -⟩ := union_fields soundA soundB
  obtain ⟨cutX, cutY⟩ := union_cut soundA soundB
  obtain ⟨⟨startX, -⟩, ⟨startY, -⟩⟩ := union_start soundA soundB
  obtain ⟨widthA, heightA⟩ := empty_iff.mp soundA.filled
  have spanX : (a.union b).x < a.x + a.w := by omega
  have spanY : (a.union b).y < a.y + a.h := by omega
  obtain ⟨width, narrow⟩ := cutX.size_pos (spanX.trans_le (le_max_left _ _))
  obtain ⟨height, short⟩ := cutY.size_pos (spanY.trans_le (le_max_left _ _))
  exact {
    left := cutX.low
    right := startX.trans soundA.right
    top := cutY.low
    bottom := startY.trans soundA.bottom
    width := narrow
    height := short
    filled := empty_iff.mpr ⟨width, height⟩ }

theorem union_contains {a b : Rect} (soundA : Filled a) (soundB : Filled b) {p : Point}
    (low : p.x < i32Max) (high : p.y < i32Max)
    (inside : contains a p = true ∨ contains b p = true) : contains (a.union b) p = true := by
  have filled := (union_filled soundA soundB).filled
  obtain ⟨cutX, cutY⟩ := union_cut soundA soundB
  obtain ⟨⟨leftA, leftB⟩, ⟨topA, topB⟩⟩ := union_start soundA soundB
  simp only [contains_iff, filled, true_and] at inside ⊢
  rcases inside with ⟨-, left, right, top, bottom⟩ | ⟨-, left, right, top, bottom⟩
  · exact ⟨leftA.trans left, cutX.covers low (right.trans_le (le_max_left _ _)),
      topA.trans top, cutY.covers high (bottom.trans_le (le_max_left _ _))⟩
  · exact ⟨leftB.trans left, cutX.covers low (right.trans_le (le_max_right _ _)),
      topB.trans top, cutY.covers high (bottom.trans_le (le_max_right _ _))⟩

/-- The rectangle lies within the box of these edges, as far as an exact edge tells. -/
structure Within (left top right bottom : ℤ) (r : Rect) : Prop where
  left : left ≤ r.x
  top : top ≤ r.y
  right : r.x + r.w ≤ right
  bottom : r.y + r.h ≤ bottom

/-- The same as the saturating edges tell. -/
structure Inside (box r : Rect) : Prop where
  left : box.x ≤ r.x
  top : box.y ≤ r.y
  right : r.right ≤ box.right
  bottom : r.bottom ≤ box.bottom

theorem union_within {a b : Rect} (soundA : Filled a) (soundB : Filled b)
    {left top right bottom : ℤ} (withinA : Within left top right bottom a)
    (withinB : Within left top right bottom b) : Within left top right bottom (a.union b) := by
  obtain ⟨x, y, -, -⟩ := union_fields soundA soundB
  obtain ⟨cutX, cutY⟩ := union_cut soundA soundB
  obtain ⟨⟨startX, -⟩, ⟨startY, -⟩⟩ := union_start soundA soundB
  have spanX : (a.union b).x ≤ a.x + a.w := by omega
  have spanY : (a.union b).y ≤ a.y + a.h := by omega
  exact {
    left := x ▸ le_min withinA.left withinB.left
    top := y ▸ le_min withinA.top withinB.top
    right := cutX.within (spanX.trans (le_max_left _ _)) (max_le withinA.right withinB.right)
    bottom := cutY.within (spanY.trans (le_max_left _ _)) (max_le withinA.bottom withinB.bottom) }

theorem union_inside {a b box : Rect} (soundA : Filled a) (soundB : Filled b)
    (insideA : Inside box a) (insideB : Inside box b) : Inside box (a.union b) := by
  obtain ⟨x, y, -, -⟩ := union_fields soundA soundB
  obtain ⟨cutX, cutY⟩ := union_cut soundA soundB
  obtain ⟨⟨startX, -⟩, ⟨startY, -⟩⟩ := union_start soundA soundB
  have right : (a.union b).x + (a.union b).w ≤ max (a.x + a.w) (b.x + b.w) :=
    cutX.within (le_max_of_le_left (by omega)) le_rfl
  have bottom : (a.union b).y + (a.union b).h ≤ max (a.y + a.h) (b.y + b.h) :=
    cutY.within (le_max_of_le_left (by omega)) le_rfl
  constructor
  · exact x ▸ le_min insideA.left insideB.left
  · exact y ▸ le_min insideA.top insideB.top
  · rcases le_max_iff.mp right with right | right
    · exact (clamp_mono right).trans insideA.right
    · exact (clamp_mono right).trans insideB.right
  · rcases le_max_iff.mp bottom with bottom | bottom
    · exact (clamp_mono bottom).trans insideA.bottom
    · exact (clamp_mono bottom).trans insideB.bottom

theorem Inside.refl (r : Rect) : Inside r r :=
  ⟨Int.le_refl _, Int.le_refl _, Int.le_refl _, Int.le_refl _⟩

theorem Inside.trans {a b c : Rect} (lower : Inside b a) (upper : Inside c b) : Inside c a :=
  ⟨upper.left.trans lower.left, upper.top.trans lower.top, lower.right.trans upper.right,
    lower.bottom.trans upper.bottom⟩

/-- Both rectangles lie inside their union, as the saturating edges tell. -/
theorem inside_union {a b : Rect} (soundA : Filled a) (soundB : Filled b) :
    Inside (a.union b) a ∧ Inside (a.union b) b := by
  obtain ⟨cutX, cutY⟩ := union_cut soundA soundB
  obtain ⟨⟨leftA, leftB⟩, ⟨topA, topB⟩⟩ := union_start soundA soundB
  constructor
  · exact ⟨leftA, topA, (clamp_mono (le_max_left _ _)).trans cutX.saturates,
      (clamp_mono (le_max_left _ _)).trans cutY.saturates⟩
  · exact ⟨leftB, topB, (clamp_mono (le_max_right _ _)).trans cutX.saturates,
      (clamp_mono (le_max_right _ _)).trans cutY.saturates⟩

/-! ## Pairs that can be merged -/

theorem merge_pair_union {a b joined : Rect} (pair : mergePair a b = some joined) :
    joined = a.union b := by
  unfold mergePair at pair
  split at pair
  · cases pair
  · split at pair
    · exact (Option.some.inj pair).symm
    · dsimp only at pair
      split at pair
      · exact (Option.some.inj pair).symm
      · cases pair

theorem intersect_comm (a b : Rect) : a.intersect b = b.intersect a := by
  unfold Rect.intersect
  rw [Bool.or_comm, max_comm a.x, max_comm a.y, min_comm (a.x + a.w), min_comm (a.y + a.h)]

/-- The common part of two rectangles is what both cover, and nothing is cut from it. -/
theorem contains_intersect {a b part : Rect} (rangeA : InRange a) (rangeB : InRange b)
    (found : a.intersect b = some part) :
    Filled part ∧ ∀ p, contains part p = (contains a p && contains b p) := by
  have x : clampI32 (max a.x b.x) = max a.x b.x :=
    clamp_inside (rangeA.left.trans (le_max_left _ _)) (max_le rangeA.right rangeB.right)
  have y : clampI32 (max a.y b.y) = max a.y b.y :=
    clamp_inside (rangeA.top.trans (le_max_left _ _)) (max_le rangeA.bottom rangeB.bottom)
  have left := rangeA.left
  have top := rangeA.top
  have right := rangeA.right
  have bottom := rangeA.bottom
  have width := rangeA.width
  have height := rangeA.height
  have rightB := rangeB.right
  have bottomB := rangeB.bottom
  unfold Rect.intersect at found
  split at found
  · cases found
  · next filled =>
    rw [Bool.not_eq_true, Bool.or_eq_false_iff] at filled
    obtain ⟨filledA, filledB⟩ := filled
    dsimp only at found
    rw [x, y] at found
    split at found
    · cases found
    · next overlap =>
      cases found
      simp only [Bool.or_eq_true, decide_eq_true_eq] at overlap
      constructor
      · refine ⟨?_, empty_iff.mpr (by dsimp only; omega)⟩
        constructor <;> dsimp only <;> omega
      · intro p
        rw [Bool.eq_iff_iff, Bool.and_eq_true]
        simp only [contains_iff, filledA, filledB, true_and, empty_iff]
        omega

theorem intersect_disjoint {a b : Rect} (missed : a.intersect b = none) (p : Point) :
    (contains a p && contains b p) = false := by
  unfold Rect.intersect at missed
  rw [Bool.eq_false_iff, ne_eq, Bool.and_eq_true]
  rintro ⟨inA, inB⟩
  obtain ⟨filledA, betweenA⟩ := contains_iff.mp inA
  obtain ⟨filledB, betweenB⟩ := contains_iff.mp inB
  rw [filledA, filledB] at missed
  simp only [Bool.or_self, Bool.false_eq_true, if_false, Bool.or_eq_true, decide_eq_true_eq,
    ite_eq_left_iff, reduceCtorEq, imp_false, not_not] at missed
  omega

theorem merge_pair_symm {a b : Rect} (apart : mergePair a b = none) : mergePair b a = none := by
  unfold mergePair at apart ⊢
  rw [Bool.or_comm, intersect_comm b a, Bool.or_comm (b.right == a.x), Bool.or_comm (b.bottom == a.y),
    max_comm b.y, max_comm b.x, min_comm b.bottom, min_comm b.right]
  split at apart
  · next empty => rw [if_pos empty]
  · next filled =>
    rw [if_neg filled]
    split at apart
    · cases apart
    · next disjoint =>
      rw [if_neg disjoint]
      dsimp only at apart ⊢
      split at apart
      · cases apart
      · next untouched => rw [if_neg untouched]

/-- A rectangle overlaps itself. -/
theorem merge_pair_self {a : Rect} (filled : a.isEmpty = false) : mergePair a a ≠ none := by
  obtain ⟨width, height⟩ := empty_iff.mp filled
  have overlaps : (a.intersect a).isSome = true := by
    unfold Rect.intersect
    rw [filled]
    simp only [Bool.or_self, Bool.false_eq_true, if_false, max_self, min_self]
    rw [if_neg]
    · rfl
    · simp only [Bool.or_eq_true, decide_eq_true_eq]
      omega
  unfold mergePair
  rw [filled, if_neg (by decide), if_pos overlaps]
  exact Option.some_ne_none _

/-! ## The merging loop -/

/-- The rectangles of the loop stand for the ones that it started with. -/
structure Stands (input current : List Rect) : Prop where
  filled : ∀ r ∈ current, Filled r
  covers : ∀ p : Point, p.x < i32Max → p.y < i32Max →
    (∃ r ∈ input, contains r p = true) → ∃ r ∈ current, contains r p = true
  within : ∀ left top right bottom : ℤ,
    (∀ r ∈ input, r.isEmpty = false → Within left top right bottom r) →
      ∀ r ∈ current, Within left top right bottom r
  inside : ∀ box, (∀ r ∈ input, r.isEmpty = false → Inside box r) → ∀ r ∈ current, Inside box r

theorem stands_start {input : List Rect} (range : ∀ r ∈ input, InRange r) :
    Stands input (input.filter fun r => !r.isEmpty) := by
  have kept : ∀ r, (r ∈ input.filter fun r => !r.isEmpty) ↔ r ∈ input ∧ r.isEmpty = false := by
    intro r
    rw [List.mem_filter, Bool.not_eq_true']
  refine ⟨?_, ?_, ?_, ?_⟩
  · intro r member
    obtain ⟨there, filled⟩ := (kept r).mp member
    exact ⟨range r there, filled⟩
  · intro p _ _ covered
    obtain ⟨r, there, inside⟩ := covered
    exact ⟨r, (kept r).mpr ⟨there, (contains_iff.mp inside).1⟩, inside⟩
  · intro left top right bottom all r member
    obtain ⟨there, filled⟩ := (kept r).mp member
    exact all r there filled
  · intro box all r member
    obtain ⟨there, filled⟩ := (kept r).mp member
    exact all r there filled

theorem Stands.step {input current next : List Rect} (stands : Stands input current)
    (round : mergeFirst current = some next) : Stands input next := by
  obtain ⟨a, b, joined, rest, split, pair, after⟩ := Coalescing.merge_first_split round
  have same := merge_pair_union pair
  subst same
  have memberA : a ∈ current := split.mem_iff.mpr List.mem_cons_self
  have memberB : b ∈ current := split.mem_iff.mpr (List.mem_cons_of_mem _ List.mem_cons_self)
  have others : ∀ r ∈ rest, r ∈ current := fun r member =>
    split.mem_iff.mpr (List.mem_cons_of_mem _ (List.mem_cons_of_mem _ member))
  have soundA := stands.filled a memberA
  have soundB := stands.filled b memberB
  -- What holds of the union and of the other rectangles holds of every rectangle.
  have all : ∀ holds : Rect → Prop, holds (a.union b) → (∀ r ∈ rest, holds r) →
      ∀ r ∈ next, holds r := by
    intro holds first later r member
    rcases List.mem_cons.mp (after.mem_iff.mp member) with same | member
    · rw [same]
      exact first
    · exact later r member
  refine ⟨?_, ?_, ?_, ?_⟩
  · exact all Filled (union_filled soundA soundB) fun r member => stands.filled r (others r member)
  · intro p low high covered
    obtain ⟨r, member, inside⟩ := stands.covers p low high covered
    have union : contains a p = true ∨ contains b p = true →
        ∃ r ∈ next, contains r p = true := fun either =>
      ⟨a.union b, after.mem_iff.mpr List.mem_cons_self,
        union_contains soundA soundB low high either⟩
    rcases List.mem_cons.mp (split.mem_iff.mp member) with same | member
    · exact union (Or.inl (same ▸ inside))
    · rcases List.mem_cons.mp member with same | member
      · exact union (Or.inr (same ▸ inside))
      · exact ⟨r, after.mem_iff.mpr (List.mem_cons_of_mem _ member), inside⟩
  · intro left top right bottom given
    have before := stands.within left top right bottom given
    exact all _ (union_within soundA soundB (before a memberA) (before b memberB))
      fun r member => before r (others r member)
  · intro box given
    have before := stands.inside box given
    exact all _ (union_inside soundA soundB (before a memberA) (before b memberB))
      fun r member => before r (others r member)

theorem stands_rounds (rounds : ℕ) {input current : List Rect} (stands : Stands input current) :
    Stands input (coalesceRounds rounds current) := by
  induction rounds generalizing current with
  | zero => exact stands
  | succ rounds ih =>
    simp only [coalesceRounds]
    split
    · next merged round => exact ih (stands.step round)
    · exact stands

/-- Every rectangle that is not empty lies inside the bounding box. -/
theorem bounds_inside {rects : List Rect} (range : ∀ r ∈ rects, InRange r) {box : Rect}
    (bounded : bounds rects = some box) : ∀ r ∈ rects, r.isEmpty = false → Inside box r := by
  have fold : ∀ (rest : List Rect) (first : Rect), Filled first → (∀ r ∈ rest, Filled r) →
      Inside (rest.foldl Rect.union first) first ∧
        ∀ r ∈ rest, Inside (rest.foldl Rect.union first) r := by
    intro rest
    induction rest with
    | nil => exact fun first _ _ => ⟨Inside.refl first, fun r member => by cases member⟩
    | cons second rest ih =>
      intro first sound sounds
      have soundSecond := sounds second List.mem_cons_self
      obtain ⟨union, later⟩ := ih (first.union second) (union_filled sound soundSecond)
        fun r member => sounds r (List.mem_cons_of_mem _ member)
      obtain ⟨left, right⟩ := inside_union sound soundSecond
      refine ⟨left.trans union, fun r member => ?_⟩
      rcases List.mem_cons.mp member with same | member
      · rw [same]
        exact right.trans union
      · exact later r member
  have filled := (stands_start range).filled
  intro r member some
  have kept : r ∈ rects.filter fun r => !r.isEmpty := by
    rw [List.mem_filter, Bool.not_eq_true']
    exact ⟨member, some⟩
  unfold bounds at bounded
  split at bounded
  · next none => exact absurd (none ▸ kept) List.not_mem_nil
  · next first rest split =>
    cases bounded
    rw [split] at kept filled
    obtain ⟨front, others⟩ := fold rest first (filled first List.mem_cons_self)
      fun r member => filled r (List.mem_cons_of_mem _ member)
    rcases List.mem_cons.mp kept with same | member
    · rw [same]
      exact front
    · exact others r member

/-! ## Simplified regions -/

/-- The rectangles are a simplification of the region. -/
structure Simplifies (input output : List Rect) : Prop where
  filled : ∀ r ∈ output, r.isEmpty = false
  distinct : output.Nodup
  apart : ∀ a ∈ output, ∀ b ∈ output, a ≠ b → mergePair a b = none
  sorted : output.Pairwise fun a b => a.sortsBefore b = true
  covers : ∀ p : Point, p.x < i32Max → p.y < i32Max →
    (∃ r ∈ input, contains r p = true) → ∃ r ∈ output, contains r p = true
  -- Every box that the rectangles of the region lie in holds those of the output.
  within : ∀ left top right bottom : ℤ,
    (∀ r ∈ input, r.isEmpty = false → Within left top right bottom r) →
      ∀ r ∈ output, Within left top right bottom r
  bounded : ∀ box, bounds input = some box → ∀ r ∈ output, Inside box r

/-- No run of the merging loop is endless. -/
theorem rounds_end (run : ℕ → List Rect) :
    ¬ ∀ round, mergeFirst (run round) = some (run (round + 1)) := by
  intro endless
  have shorter : ∀ round, (run round).length + round = (run 0).length := by
    intro round
    induction round with
    | zero => rfl
    | succ round ih =>
      obtain ⟨a, b, joined, rest, split, -, after⟩ := Coalescing.merge_first_split (endless round)
      have before := split.length_eq
      have later := after.length_eq
      simp only [List.length_cons] at before later
      omega
  have last := shorter ((run 0).length + 1)
  omega

/-- For every region the merging loop ends, with no pair left to merge, and the region simplifies
to distinct rectangles that are apart, in order, cover what the region covers below `i32::MAX`,
and lie within its bounding box. -/
theorem simplified_covers (rects : List Rect) (range : ∀ r ∈ rects, InRange r) :
    (∀ run : ℕ → List Rect, ¬ ∀ round, mergeFirst (run round) = some (run (round + 1))) ∧
      mergeFirst (coalesce rects) = none ∧ Simplifies rects (simplified rects) := by
  refine ⟨rounds_end, coalesce_stable rects, ?_⟩
  have stands : Stands rects (coalesce rects) := stands_rounds _ (stands_start range)
  have settled := Coalescing.merge_first_apart (coalesce_stable rects)
  have perm : (simplified rects).Perm (coalesce rects) := List.perm_insertionSort _ _
  have inside : ∀ r ∈ simplified rects, r ∈ coalesce rects := fun r member =>
    perm.mem_iff.mp member
  have distinct : (coalesce rects).Nodup := by
    refine settled.imp_of_mem fun {a b} member _ apart same => ?_
    subst same
    exact merge_pair_self (stands.filled a member).filled apart
  have symmetric : Std.Symm fun a b : Rect => mergePair a b = none :=
    ⟨fun _ _ apart => merge_pair_symm apart⟩
  exact {
    filled := fun r member => (stands.filled r (inside r member)).filled
    distinct := perm.nodup_iff.mpr distinct
    apart := fun a memberA b memberB different =>
      List.Pairwise.forall settled (inside a memberA) (inside b memberB) different
    sorted := List.pairwise_insertionSort (fun a b : Rect => a.sortsBefore b = true) _
    covers := fun p low high covered => by
      obtain ⟨r, member, covers⟩ := stands.covers p low high covered
      exact ⟨r, perm.mem_iff.mpr member, covers⟩
    within := fun left top right bottom given r member =>
      stands.within left top right bottom given r (inside r member)
    bounded := fun box bounded r member =>
      stands.inside box (bounds_inside range bounded) r (inside r member) }

/-- Two rectangles that touch where the edges saturate, and an empty one. -/
theorem saturated_covers :
    mergeFirst (coalesce [⟨i32Max - 5, 0, 9, 3⟩, ⟨0, 0, 7, 0⟩, ⟨i32Max - 8, 0, 3, 3⟩]) = none ∧
      Simplifies [⟨i32Max - 5, 0, 9, 3⟩, ⟨0, 0, 7, 0⟩, ⟨i32Max - 8, 0, 3, 3⟩]
        (simplified [⟨i32Max - 5, 0, 9, 3⟩, ⟨0, 0, 7, 0⟩, ⟨i32Max - 8, 0, 3, 3⟩]) := by
  refine (simplified_covers _ fun r member => ?_).2
  simp only [List.mem_cons, List.not_mem_nil, or_false] at member
  rcases member with rfl | rfl | rfl <;> constructor <;> decide

end ADesk.Core.Coverage
