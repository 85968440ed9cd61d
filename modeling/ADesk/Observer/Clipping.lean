/- ADesk/Observer/Clipping
   digest: The damage a waiter counts is the clipped damage, unless an edge saturates. -/

import ADesk.Core.Coverage
import ADesk.Observer.Waiter

set_option autoImplicit false

namespace ADesk.Observer.Clipping

open ADesk.Core.Geometry
open ADesk.Core.Coalescing (clamp_inside)
open ADesk.Core.Coverage (InRange empty_iff)
open ADesk.Observer.Journal (CountedEvent)
open ADesk.Observer.Waiter

section FilterMap

variable {α β : Type*} {whole part : α → Option β}

theorem length_filter_map_le {elements : List α}
    (weaker : ∀ element ∈ elements, whole element = none → part element = none) :
    (elements.filterMap part).length ≤ (elements.filterMap whole).length := by
  induction elements with
  | nil => exact Nat.le_refl _
  | cons element rest ih =>
    have shorter := ih fun e member => weaker e (List.mem_cons_of_mem _ member)
    have first := weaker element List.mem_cons_self
    cases found : whole element with
    | none =>
      rw [List.filterMap_cons_none found, List.filterMap_cons_none (first found)]
      exact shorter
    | some value =>
      rw [List.filterMap_cons_some found, List.length_cons]
      cases other : part element with
      | none =>
        rw [List.filterMap_cons_none other]
        omega
      | some value' =>
        rw [List.filterMap_cons_some other, List.length_cons]
        omega

/-- A list that keeps more elements is as long only when both keep the same ones. -/
theorem filter_map_inj {elements : List α}
    (weaker : ∀ element ∈ elements, whole element = none → part element = none)
    (same : elements.filterMap whole = elements.filterMap part) :
    ∀ element ∈ elements, whole element = part element := by
  induction elements with
  | nil => exact fun element member => by cases member
  | cons element rest ih =>
    have first := weaker element List.mem_cons_self
    have later : ∀ e ∈ rest, whole e = none → part e = none := fun e member =>
      weaker e (List.mem_cons_of_mem _ member)
    have heads : whole element = part element ∧ rest.filterMap whole = rest.filterMap part := by
      cases found : whole element with
      | none =>
        rw [List.filterMap_cons_none found, List.filterMap_cons_none (first found)] at same
        exact ⟨(first found).symm, same⟩
      | some value =>
        rw [List.filterMap_cons_some found] at same
        cases other : part element with
        | none =>
          rw [List.filterMap_cons_none other] at same
          have shorter := length_filter_map_le later
          rw [← same, List.length_cons] at shorter
          omega
        | some value' =>
          rw [List.filterMap_cons_some other] at same
          injection same with head tail
          exact ⟨congrArg some head, tail⟩
    intro e member
    rcases List.mem_cons.mp member with rfl | member
    · exact heads.1
    · exact ih later heads.2 e member

end FilterMap

/-! ## The parts that both paths append -/

/-- What the plain path appends for one rectangle. -/
def clipped (geometry rect : Rect) : Option Rect :=
  (rect.intersect geometry).filter fun part => !part.isEmpty

/-- What the fast path appends for one rectangle. -/
def absorbed (geometry rect : Rect) : Option Rect :=
  if containedIn rect geometry then (some rect).filter fun part => !part.isEmpty
  else clipped geometry rect

theorem push_rects (region : Region) (rect : Rect) :
    (region.push rect).rects =
      region.rects ++ ((some rect).filter fun part => !part.isEmpty).toList := by
  unfold Region.push
  split
  · next empty => simp [Option.filter, empty]
  · next filled => simp [Option.filter, filled]

/-- A fold that appends at most one part for each rectangle. -/
theorem fold_rects {step : Region → Rect → Region} {part : Rect → Option Rect}
    (appends : ∀ region rect, (step region rect).rects = region.rects ++ (part rect).toList)
    (rects : List Rect) (region : Region) :
    (rects.foldl step region).rects = region.rects ++ rects.filterMap part := by
  induction rects generalizing region with
  | nil => simp
  | cons rect rects ih =>
    rw [List.foldl_cons, ih, appends, List.append_assoc]
    cases found : part rect with
    | none => simp [List.filterMap_cons_none found]
    | some value => simp [List.filterMap_cons_some found]

theorem clipped_empty {geometry : Rect} (empty : geometry.isEmpty = true) (rect : Rect) :
    clipped geometry rect = none := by
  simp [clipped, Rect.intersect, empty]

/-- The plain path, also for a window without any area. -/
theorem clip_rects (region : Region) (geometry : Rect) :
    (region.clip geometry).rects = region.rects.filterMap (clipped geometry) := by
  unfold Region.clip
  split
  · next empty =>
    symm
    rw [Region.empty, List.filterMap_eq_nil_iff]
    exact fun rect _ => clipped_empty empty rect
  · refine fold_rects (fun out rect => ?_) _ _
    unfold clipped
    cases rect.intersect geometry with
    | none => simp
    | some part => exact push_rects out part

theorem absorb_rects (union damage : Region) (geometry : Rect) :
    (absorbDamage union damage (some geometry)).rects =
      union.rects ++ damage.rects.filterMap (absorbed geometry) := by
  unfold absorbDamage
  refine fold_rects (fun region rect => ?_) _ _
  unfold absorbed
  split
  · exact push_rects region rect
  · unfold clipped
    cases rect.intersect geometry with
    | none => simp
    | some part => exact push_rects region part

/-! ## Where both paths agree -/

/-- The rectangle lies within the geometry by its exact edges. -/
def WithinExactly (geometry rect : Rect) : Prop :=
  rect.x + rect.w ≤ geometry.x + geometry.w ∧ rect.y + rect.h ≤ geometry.y + geometry.h

theorem filter_filled {rect : Rect} (filled : rect.isEmpty = false) :
    ((some rect).filter fun part => !part.isEmpty) = some rect := by
  simp [Option.filter, filled]

/-- Clipping keeps a rectangle that the geometry contains just where its exact edges fit. -/
theorem clipped_iff {geometry rect : Rect} (range : InRange rect) (filled : rect.isEmpty = false)
    (contained : containedIn rect geometry = true) :
    clipped geometry rect = some rect ↔ WithinExactly geometry rect := by
  obtain ⟨width, height⟩ := empty_iff.mp filled
  simp only [containedIn, Bool.and_eq_true, decide_eq_true_eq] at contained
  obtain ⟨⟨⟨left, top⟩, -⟩, -⟩ := contained
  have x := clamp_inside range.left range.right
  have y := clamp_inside range.top range.bottom
  unfold WithinExactly
  cases bounds : geometry.isEmpty with
  | true =>
    have flat : geometry.w = 0 ∨ geometry.h = 0 := by
      simpa only [Rect.isEmpty, Bool.or_eq_true, beq_iff_eq] using bounds
    rw [clipped_empty bounds]
    simp only [reduceCtorEq, false_iff]
    omega
  | false =>
    unfold clipped Rect.intersect
    rw [filled, bounds, max_eq_left left, max_eq_left top]
    simp only [Bool.or_self, Bool.false_eq_true, if_false, x, y]
    constructor
    · intro same
      split at same
      · cases same
      · obtain ⟨same, -⟩ := Option.filter_eq_some_iff.mp same
        have w := congrArg Rect.w (Option.some.inj same)
        have h := congrArg Rect.h (Option.some.inj same)
        simp only at w h
        omega
    · intro within
      have w : (min (rect.x + rect.w) (geometry.x + geometry.w) - rect.x).toNat = rect.w := by omega
      have h : (min (rect.y + rect.h) (geometry.y + geometry.h) - rect.y).toNat = rect.h := by omega
      rw [if_neg, w, h]
      · exact filter_filled filled
      · simp only [Bool.or_eq_true, decide_eq_true_eq]
        omega

/-- A waiter appends the clipped damage of a commit just where every rectangle that counts as
contained in the window fits it by exact edges. -/
theorem absorb_clips_iff (acc : Accumulator) (event : CountedEvent) (geometry : Rect)
    (commitSeq : ℕ) (damage : Region) (kind : event.kind = .commit commitSeq damage)
    (range : ∀ rect ∈ damage.rects, InRange rect) :
    (acc.absorb event (some geometry)).damage.rects =
        acc.damage.rects ++ (damage.clip geometry).rects ↔
      ∀ rect ∈ damage.rects, containedIn rect geometry = true → WithinExactly geometry rect := by
  have damaged : (acc.absorb event (some geometry)).damage =
      absorbDamage acc.damage damage (some geometry) := by
    unfold Accumulator.absorb
    simp only [kind]
  have weaker : ∀ rect ∈ damage.rects, absorbed geometry rect = none →
      clipped geometry rect = none := by
    intro rect member none
    unfold absorbed at none
    split at none
    · rw [filter_filled (damage.nonempty rect member)] at none
      cases none
    · exact none
  rw [damaged, absorb_rects, clip_rects, List.append_cancel_left_eq]
  constructor
  · intro same rect member contained
    have filled := damage.nonempty rect member
    have part := filter_map_inj weaker same rect member
    rw [absorbed, if_pos contained, filter_filled filled] at part
    exact (clipped_iff (range rect member) filled contained).mp part.symm
  · intro exact
    refine List.filterMap_congr fun rect member => ?_
    unfold absorbed
    split
    · next contained =>
      have filled := damage.nonempty rect member
      rw [filter_filled filled]
      exact ((clipped_iff (range rect member) filled contained).mpr
        (exact rect member contained)).symm
    · rfl

/-- A commit of one window. -/
def committed (damage : Region) : CountedEvent where
  seq := 1
  tsMs := 0
  windowId := some ⟨1⟩
  kind := .commit 1 damage

/-- A rectangle that ends past `i32::MAX` counts as contained in a window that ends there. -/
theorem saturated_unclipped :
    ((Accumulator.new ⟨none, 0, none⟩).absorb (committed (.fromRect ⟨10, 0, u32Max, 5⟩))
        (some ⟨0, 0, 2147483647, 10⟩)).damage.rects = [⟨10, 0, u32Max, 5⟩] ∧
      (Region.fromRect ⟨10, 0, u32Max, 5⟩ |>.clip ⟨0, 0, 2147483647, 10⟩).rects =
        [⟨10, 0, 2147483637, 5⟩] := by
  decide

/-- One rectangle escapes the window, the other one lies in it. -/
theorem escaping_clipped :
    ((Accumulator.new ⟨none, 0, none⟩).absorb
        (committed ((Region.fromRect ⟨-4, 2, 10, 5⟩).push ⟨1, 1, 2, 2⟩))
        (some ⟨0, 0, 8, 6⟩)).damage.rects = [] ++
      (((Region.fromRect ⟨-4, 2, 10, 5⟩).push ⟨1, 1, 2, 2⟩).clip ⟨0, 0, 8, 6⟩).rects := by
  have either : ∀ rect ∈ ((Region.fromRect ⟨-4, 2, 10, 5⟩).push ⟨1, 1, 2, 2⟩).rects,
      rect = ⟨-4, 2, 10, 5⟩ ∨ rect = ⟨1, 1, 2, 2⟩ := by decide
  refine (absorb_clips_iff _ (committed _) _ 1 _ rfl fun rect member => ?_).mpr
    fun rect member contained => ?_
  · rcases either rect member with rfl | rfl <;> constructor <;> decide
  · rcases either rect member with rfl | rfl
    · exact absurd contained (by decide)
    · constructor <;> decide

end ADesk.Observer.Clipping
