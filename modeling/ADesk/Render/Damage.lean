/- ADesk/Render/Damage
   digest: Damage that is sorted before it is coalesced is the simplified damage. -/

import ADesk.Core.Coverage
import ADesk.Observer.Clipping

set_option autoImplicit false

namespace ADesk.Render.Damage

open ADesk.Core.Geometry
open ADesk.Core.Coalescing
open ADesk.Core.Coverage (InRange empty_iff merge_pair_union)
open ADesk.Foundation.Merging
open ADesk.Observer.Clipping (clip_rects clipped push_rects)
open Relation (ReflTransGen)

/-! ## Coalesced damage -/

theorem union_not_empty {a b : Rect} (filledA : a.isEmpty = false) (filledB : b.isEmpty = false) :
    (a.union b).isEmpty = false := by
  obtain ⟨widthA, heightA⟩ := empty_iff.mp filledA
  have positive : 0 < u32Max := by decide
  unfold Rect.union
  rw [filledA, filledB, if_neg Bool.false_ne_true, if_neg Bool.false_ne_true, empty_iff]
  dsimp only
  omega

theorem merge_first_not_empty {rects merged : List Rect} (found : mergeFirst rects = some merged)
    (filled : ∀ r ∈ rects, r.isEmpty = false) : ∀ r ∈ merged, r.isEmpty = false := by
  obtain ⟨a, b, joined, rest, split, pair, after⟩ := merge_first_split found
  intro r member
  rcases List.mem_cons.mp (after.mem_iff.mp member) with same | other
  · rw [same, merge_pair_union pair]
    exact union_not_empty (filled a (split.mem_iff.mpr List.mem_cons_self))
      (filled b (split.mem_iff.mpr (List.mem_cons_of_mem _ List.mem_cons_self)))
  · exact filled r
      (split.mem_iff.mpr (List.mem_cons_of_mem _ (List.mem_cons_of_mem _ other)))

theorem coalesce_rounds_not_empty (rounds : ℕ) {rects : List Rect}
    (filled : ∀ r ∈ rects, r.isEmpty = false) :
    ∀ r ∈ coalesceRounds rounds rects, r.isEmpty = false := by
  induction rounds generalizing rects with
  | zero => exact filled
  | succ rounds ih =>
    simp only [coalesceRounds]
    split
    · next merged found => exact ih (merge_first_not_empty found filled)
    · exact filled

def coalesced (region : Region) : Region :=
  ⟨coalesce region.rects, coalesce_rounds_not_empty _ fun r member => by
    simpa using (List.mem_filter.mp member).2⟩

/-- The parts of the region inside the bounds, in a buffer of their own. -/
def parts (region : Region) (bounds : Rect) : List Rect :=
  region.rects.foldl (fun rects rect =>
    match rect.intersect bounds with
    | some part => rects ++ [part]
    | none => rects) []

/-- Clips the region, merges what overlaps or touches and drops what is smaller than `minArea`. -/
def coalesceDamage (region : Region) (bounds : Rect) (minArea : ℕ) : Region :=
  if region.isEmpty || bounds.isEmpty then Region.empty
  else
    let sorted := (parts region bounds).insertionSort fun a b => a.sortsBefore b
    let out := coalesced (sorted.foldl Region.push Region.empty)
    if minArea == 0 || !(out.rects.any fun rect => decide (rect.area < minArea)) then out
    else
      out.rects.foldl (fun filtered rect =>
        if minArea ≤ rect.area then filtered.push rect else filtered) Region.empty

/-! ## Anchors -/

/-- A point on the top row of the rectangle. -/
structure Anchored (r : Rect) (anchor : Point) : Prop where
  top : anchor.y = r.y
  left : r.x ≤ anchor.x
  right : anchor.x < r.x + r.w

/-- The order in which a page is read. -/
def ReadBefore (p q : Point) : Prop := p.y < q.y ∨ p.y = q.y ∧ p.x ≤ q.x

/-- The rectangles stand in the order of some anchors. -/
structure Placed (rects : List Rect) (anchors : List Point) : Prop where
  anchored : List.Forall₂ Anchored rects anchors
  ordered : anchors.Pairwise ReadBefore

/-- A union that grows to the left of rectangles that are listed before keeps its anchor. -/
theorem union_anchored {a b : Rect} (validA : Valid a) (validB : Valid b) {p q : Point}
    (first : Anchored a p) (second : Anchored b q) (order : ReadBefore p q) :
    Anchored (a.union b) p := by
  obtain ⟨x, y, right, -⟩ := union_box validA validB
  obtain ⟨topA, leftA, rightA⟩ := first
  obtain ⟨topB, leftB, rightB⟩ := second
  unfold ReadBefore at order
  constructor <;> omega

theorem merge_into_anchored {a joined : Rect} {rest others : List Rect} {anchors : List Point}
    (found : mergeInto a rest = some (joined, others))
    (placed : List.Forall₂ Anchored rest anchors) :
    ∃ b q left, b ∈ rest ∧ q ∈ anchors ∧ Anchored b q ∧ joined = a.union b ∧
      left.Sublist anchors ∧ List.Forall₂ Anchored others left := by
  induction rest generalizing joined others anchors with
  | nil => cases found
  | cons b rest ih =>
    cases placed with
    | @cons _ q _ anchors here later =>
      simp only [mergeInto] at found
      split at found
      · next union pair =>
        cases found
        exact ⟨b, q, anchors, List.mem_cons_self, List.mem_cons_self, here, merge_pair_union pair,
          List.sublist_cons_self q anchors, later⟩
      · obtain ⟨⟨inner, kept⟩, deeper, same⟩ := Option.map_eq_some_iff.mp found
        cases same
        obtain ⟨c, p, left, member, inside, anchored, union, sublist, placed⟩ := ih deeper later
        exact ⟨c, p, q :: left, List.mem_cons_of_mem _ member, List.mem_cons_of_mem _ inside,
          anchored, union, sublist.cons_cons q, .cons here placed⟩

/-- A merge keeps the anchor of the earlier rectangle and drops that of the later one. -/
theorem merge_first_anchored {rects merged : List Rect} {anchors : List Point}
    (valid : ∀ r ∈ rects, Valid r) (found : mergeFirst rects = some merged)
    (placed : Placed rects anchors) :
    ∃ left, left.Sublist anchors ∧ List.Forall₂ Anchored merged left := by
  obtain ⟨anchored, ordered⟩ := placed
  induction rects generalizing merged anchors with
  | nil => cases found
  | cons a rest ih =>
    cases anchored with
    | @cons _ p _ anchors here later =>
      obtain ⟨before, ordered⟩ := List.pairwise_cons.mp ordered
      simp only [mergeFirst] at found
      split at found
      · next joined others into =>
        cases found
        obtain ⟨b, q, left, member, inside, second, union, sublist, placed⟩ :=
          merge_into_anchored into later
        have validA := valid a List.mem_cons_self
        have validB := valid b (List.mem_cons_of_mem _ member)
        refine ⟨p :: left, sublist.cons_cons p, .cons ?_ placed⟩
        rw [union]
        exact union_anchored validA validB here second (before q inside)
      · obtain ⟨kept, deeper, same⟩ := Option.map_eq_some_iff.mp found
        cases same
        obtain ⟨left, sublist, placed⟩ :=
          ih (fun r member => valid r (List.mem_cons_of_mem _ member)) deeper later ordered
        exact ⟨p :: left, sublist.cons_cons p, .cons here placed⟩

theorem coalesce_rounds_placed (rounds : ℕ) {rects : List Rect} {anchors : List Point}
    (valid : AllValid boxes rects) (placed : Placed rects anchors) :
    ∃ left, Placed (coalesceRounds rounds rects) left := by
  induction rounds generalizing rects anchors with
  | zero => exact ⟨anchors, placed⟩
  | succ rounds ih =>
    simp only [coalesceRounds]
    split
    · next merged found =>
      obtain ⟨left, sublist, anchored⟩ := merge_first_anchored valid found placed
      exact ih ((merge_first_merges valid found).valid valid)
        ⟨anchored, placed.ordered.sublist sublist⟩
    · exact ⟨anchors, placed⟩

/-! ## The order of the result -/

theorem sorts_before_of {a b : Rect} (before : a.y < b.y ∨ a.y = b.y ∧ a.x < b.x) :
    a.sortsBefore b = true := by
  unfold Rect.sortsBefore
  rcases before with above | ⟨level, left⟩
  · rw [compare_lt_iff_lt.mpr above]
    rfl
  · rw [compare_eq_iff_eq.mpr level, compare_lt_iff_lt.mpr left]
    rfl

theorem read_before_of {a b : Rect} (sorted : a.sortsBefore b = true) :
    ReadBefore ⟨a.x, a.y⟩ ⟨b.x, b.y⟩ := by
  by_contra other
  have swapped : b.sortsBefore a = true := by
    unfold ReadBefore at other
    dsimp only at other
    exact sorts_before_of (by omega)
  have same := sorts_before_antisymm sorted swapped
  unfold ReadBefore at other
  rw [same] at other
  exact other (Or.inr ⟨rfl, Int.le_refl _⟩)

/-- Sorted rectangles start with their corners as anchors. -/
theorem sorted_placed {rects : List Rect} (valid : ∀ r ∈ rects, Valid r)
    (sorted : rects.Pairwise fun a b => a.sortsBefore b = true) :
    Placed rects (rects.map fun r => ⟨r.x, r.y⟩) where
  anchored := by
    rw [List.forall₂_map_right_iff, List.forall₂_same]
    intro r member
    have width := (valid r member).width
    exact ⟨rfl, Int.le_refl _, by dsimp only; omega⟩
  ordered := List.pairwise_map.mpr (sorted.imp read_before_of)

/-- Of two rectangles that do not meet, the one whose anchor is read first sorts first. -/
theorem apart_sorted {a b : Rect} (validA : Valid a) (validB : Valid b) {p q : Point}
    (first : Anchored a p) (second : Anchored b q) (order : ReadBefore p q) (apart : ¬ Meets a b) :
    a.sortsBefore b = true := by
  obtain ⟨topA, leftA, rightA⟩ := first
  obtain ⟨topB, leftB, rightB⟩ := second
  have heightA := validA.height
  have heightB := validB.height
  unfold ReadBefore at order
  unfold Meets at apart
  exact sorts_before_of (by omega)

theorem anchor_of {rects : List Rect} {anchors : List Point}
    (placed : List.Forall₂ Anchored rects anchors) {r : Rect} (member : r ∈ rects) :
    ∃ p ∈ anchors, Anchored r p := by
  induction placed with
  | nil => cases member
  | @cons _ p _ _ here _ ih =>
    rcases List.mem_cons.mp member with same | later
    · exact ⟨p, List.mem_cons_self, same ▸ here⟩
    · obtain ⟨q, inside, anchored⟩ := ih later
      exact ⟨q, List.mem_cons_of_mem _ inside, anchored⟩

theorem placed_sorted {rects : List Rect} {anchors : List Point} (valid : ∀ r ∈ rects, Valid r)
    (placed : Placed rects anchors) (settled : Settled boxes rects) :
    rects.Pairwise fun a b => a.sortsBefore b = true := by
  obtain ⟨anchored, ordered⟩ := placed
  induction anchored with
  | nil => exact List.Pairwise.nil
  | @cons a p rest anchors here later ih =>
    obtain ⟨before, ordered⟩ := List.pairwise_cons.mp ordered
    obtain ⟨alone, settled⟩ := List.pairwise_cons.mp settled
    refine List.Pairwise.cons (fun b member => ?_)
      (ih (fun r member => valid r (List.mem_cons_of_mem _ member)) settled ordered)
    obtain ⟨q, inside, second⟩ := anchor_of later member
    exact apart_sorted (valid a List.mem_cons_self) (valid b (List.mem_cons_of_mem _ member)) here
      second (before q inside) (alone b member)

/-- What was sorted stays sorted when it is coalesced. -/
theorem coalesce_sorted {region : Region} (fits : ∀ r ∈ region.rects, Fits r)
    (sorted : region.rects.Pairwise fun a b => a.sortsBefore b = true) :
    (coalesce region.rects).Pairwise fun a b => a.sortsBefore b = true := by
  have valid := region_valid fits
  obtain ⟨run, settled⟩ := coalesce_merges fits
  have kept : region.rects.filter (fun r => !r.isEmpty) = region.rects := by
    rw [List.filter_eq_self]
    intro r member
    rw [region.nonempty r member]
    rfl
  obtain ⟨anchors, placed⟩ :=
    coalesce_rounds_placed region.rects.length valid (sorted_placed valid sorted)
  have same : coalesceRounds region.rects.length region.rects = coalesce region.rects := by
    unfold coalesce
    rw [kept]
  rw [same] at placed
  exact placed_sorted (merged_valid valid run) placed settled

/-- Coalescing what was sorted is sorting what was coalesced. -/
theorem coalesce_of_sorted {region sorted : Region} (fits : ∀ r ∈ region.rects, Fits r)
    (same : sorted.rects = region.rects.insertionSort fun a b => a.sortsBefore b) :
    coalesce sorted.rects = region.simplified := by
  have perm : sorted.rects.Perm region.rects := by
    rw [same]
    exact List.perm_insertionSort _ _
  have fitsSorted : ∀ r ∈ sorted.rects, Fits r := fun r member => fits r (perm.mem_iff.mp member)
  have order := coalesce_sorted fitsSorted (by
    rw [same]
    exact List.pairwise_insertionSort (fun a b : Rect => a.sortsBefore b = true) _)
  obtain ⟨merges, done⟩ := coalesce_merges fitsSorted
  unfold Region.simplified
  rw [← sorted_unique (merged_perm fits perm merges done)]
  exact (List.Pairwise.insertionSort_eq order).symm

/-! ## The damage that is reported -/

theorem push_all (rects : List Rect) (filled : ∀ r ∈ rects, r.isEmpty = false) (region : Region) :
    (rects.foldl Region.push region).rects = region.rects ++ rects := by
  induction rects generalizing region with
  | nil => exact (List.append_nil _).symm
  | cons r rest ih =>
    have here := filled r List.mem_cons_self
    rw [List.foldl_cons, ih (fun s member => filled s (List.mem_cons_of_mem _ member)), push_rects]
    simp [Option.filter, here]

theorem push_large (minArea : ℕ) (rects : List Rect) (filled : ∀ r ∈ rects, r.isEmpty = false)
    (region : Region) :
    (rects.foldl (fun filtered rect =>
      if minArea ≤ rect.area then filtered.push rect else filtered) region).rects =
      region.rects ++ rects.filter fun r => minArea ≤ r.area := by
  induction rects generalizing region with
  | nil => exact (List.append_nil _).symm
  | cons r rest ih =>
    have here := filled r List.mem_cons_self
    rw [List.foldl_cons, ih (fun s member => filled s (List.mem_cons_of_mem _ member))]
    by_cases large : minArea ≤ r.area
    · rw [if_pos large, push_rects, List.filter_cons_of_pos (by simpa using large)]
      simp [Option.filter, here]
    · rw [if_neg large, List.filter_cons_of_neg (by simpa using large)]

/-- A fold that appends at most one part for each element. -/
theorem fold_appends {step : List Rect → Rect → List Rect} {part : Rect → Option Rect}
    (appends : ∀ out rect, step out rect = out ++ (part rect).toList) (rects out : List Rect) :
    rects.foldl step out = out ++ rects.filterMap part := by
  induction rects generalizing out with
  | nil => exact (List.append_nil out).symm
  | cons rect rects ih =>
    rw [List.foldl_cons, ih, appends, List.append_assoc]
    cases found : part rect with
    | none => simp [List.filterMap_cons_none found]
    | some value => simp [List.filterMap_cons_some found]

theorem intersect_not_empty {r bounds part : Rect} (found : r.intersect bounds = some part) :
    part.isEmpty = false := by
  unfold Rect.intersect at found
  split at found
  · cases found
  · dsimp only at found
    split at found
    · cases found
    · next inside =>
      cases found
      simp only [Bool.or_eq_true, decide_eq_true_eq] at inside
      rw [empty_iff]
      dsimp only
      omega

theorem clip_parts (region : Region) (bounds : Rect) :
    (region.clip bounds).rects = region.rects.filterMap fun r => r.intersect bounds := by
  rw [clip_rects]
  refine List.filterMap_congr fun r _ => ?_
  unfold clipped
  rcases found : r.intersect bounds with _ | part
  · rfl
  · simp [Option.filter, intersect_not_empty found]

theorem parts_eq (region : Region) (bounds : Rect) :
    parts region bounds = (region.clip bounds).rects := by
  rw [clip_parts]
  refine (fold_appends (fun out r => ?_) region.rects []).trans (List.nil_append _)
  rcases r.intersect bounds with _ | part
  · exact (List.append_nil out).symm
  · rfl

/-- A part within bounds whose exclusive edges fit in an `i32` fits too. -/
theorem intersect_fits {r bounds part : Rect} (range : InRange r) (within : InRange bounds)
    (right : bounds.x + bounds.w ≤ i32Max) (bottom : bounds.y + bounds.h ≤ i32Max)
    (found : r.intersect bounds = some part) : Fits part := by
  have x : clampI32 (max r.x bounds.x) = max r.x bounds.x :=
    clamp_inside (by have := range.left; omega) (by have := range.right; have := within.right; omega)
  have y : clampI32 (max r.y bounds.y) = max r.y bounds.y :=
    clamp_inside (by have := range.top; omega)
      (by have := range.bottom; have := within.bottom; omega)
  have left := range.left
  have top := range.top
  unfold Rect.intersect at found
  split at found
  · cases found
  · dsimp only at found
    split at found
    · cases found
    · next inside =>
      cases found
      simp only [Bool.or_eq_true, decide_eq_true_eq] at inside
      constructor <;>
        · dsimp only
          omega

/-- The region is rebuilt only where a rectangle is too small. -/
theorem filtered_rects (out : Region) (minArea : ℕ) :
    (if minArea == 0 || !(out.rects.any fun rect => decide (rect.area < minArea)) then out
      else
        out.rects.foldl (fun filtered rect =>
          if minArea ≤ rect.area then filtered.push rect else filtered) Region.empty).rects =
      out.rects.filter fun r => minArea ≤ r.area := by
  by_cases all : (minArea == 0 || !(out.rects.any fun rect => decide (rect.area < minArea))) = true
  · have large : ∀ r ∈ out.rects, minArea ≤ r.area := by
      intro r member
      rcases (Bool.or_eq_true _ _).mp all with zero | none
      · rw [beq_iff_eq.mp zero]
        exact Nat.zero_le _
      · simp only [Bool.not_eq_true', List.any_eq_false, decide_eq_true_eq, Nat.not_lt] at none
        exact none r member
    rw [if_pos all, List.filter_eq_self.mpr]
    exact fun r member => decide_eq_true (large r member)
  · rw [if_neg all]
    exact push_large minArea out.rects out.nonempty Region.empty

/-- The reported damage is the clipped damage, simplified, without the small rectangles. -/
theorem coalesce_damage_simplified (region : Region) (bounds : Rect) (minArea : ℕ)
    (range : ∀ r ∈ region.rects, InRange r) (within : InRange bounds)
    (right : bounds.x + bounds.w ≤ i32Max) (bottom : bounds.y + bounds.h ≤ i32Max) :
    (coalesceDamage region bounds minArea).rects =
        (region.clip bounds).simplified.filter (fun r => minArea ≤ r.area) ∧
      (coalesceDamage region bounds minArea).rects.Pairwise fun a b => a.sortsBefore b = true := by
  have fits : ∀ r ∈ (region.clip bounds).rects, Fits r := by
    intro part member
    rw [clip_parts] at member
    obtain ⟨r, inside, found⟩ := List.mem_filterMap.mp member
    exact intersect_fits (range r inside) within right bottom found
  have same : (coalesceDamage region bounds minArea).rects =
      (region.clip bounds).simplified.filter (fun r => minArea ≤ r.area) := by
    unfold coalesceDamage
    by_cases nothing : (region.isEmpty || bounds.isEmpty) = true
    · have none_left : (region.clip bounds).rects = [] := by
        rw [clip_parts]
        rcases (Bool.or_eq_true _ _).mp nothing with empty | empty
        · rw [List.isEmpty_iff.mp empty]
          rfl
        · rw [List.filterMap_eq_nil_iff]
          intro r _
          simp [Rect.intersect, empty]
      rw [if_pos nothing]
      unfold Region.simplified
      rw [none_left]
      rfl
    · rw [if_neg nothing]
      dsimp only
      rw [filtered_rects]
      refine congrArg (List.filter _) (coalesce_of_sorted fits ?_)
      rw [push_all, parts_eq]
      · rfl
      · intro r member
        rw [parts_eq] at member
        exact (region.clip bounds).nonempty r (List.mem_insertionSort _ |>.mp member)
  refine ⟨same, ?_⟩
  rw [same]
  exact (List.pairwise_insertionSort (fun a b : Rect => a.sortsBefore b = true) _).filter _

/-- The second rectangle extends the first to the left, the third is too small. -/
theorem coalesce_damage_left :
    (coalesceDamage ⟨[⟨6, 0, 2, 9⟩, ⟨-3, 4, 9, 2⟩, ⟨20, 1, 1, 1⟩], by decide⟩ ⟨0, 0, 30, 30⟩
        2).rects =
      ((⟨[⟨6, 0, 2, 9⟩, ⟨-3, 4, 9, 2⟩, ⟨20, 1, 1, 1⟩], by decide⟩ : Region).clip
        ⟨0, 0, 30, 30⟩).simplified.filter (fun r => 2 ≤ r.area) := by
  refine (coalesce_damage_simplified _ _ 2 ?_ ?_ (by decide) (by decide)).1
  · intro r member
    simp only [List.mem_cons, List.not_mem_nil, or_false] at member
    rcases member with rfl | rfl | rfl <;> constructor <;> decide
  · constructor <;> decide

end ADesk.Render.Damage
