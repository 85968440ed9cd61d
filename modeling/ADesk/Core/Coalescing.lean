/- ADesk/Core/Coalescing
   digest: Simplified regions do not depend on the order of their rectangles. -/

import ADesk.Core.Geometry
import ADesk.Foundation.Merging

set_option autoImplicit false

namespace ADesk.Core.Coalescing

open ADesk.Core.Geometry
open ADesk.Foundation.Merging
open Relation (ReflTransGen)

/-! ## Rectangles as boxes -/

/-- A rectangle of 32-bit coordinates whose exclusive edges fit in an `i32`. -/
structure Fits (r : Rect) : Prop where
  left : i32Min ≤ r.x
  top : i32Min ≤ r.y
  right : r.x + r.w ≤ i32Max
  bottom : r.y + r.h ≤ i32Max

/-- Containment of the covered boxes. -/
instance : PartialOrder Rect where
  le a b := b.x ≤ a.x ∧ b.y ≤ a.y ∧ a.x + a.w ≤ b.x + b.w ∧ a.y + a.h ≤ b.y + b.h
  le_refl a := ⟨Int.le_refl _, Int.le_refl _, Int.le_refl _, Int.le_refl _⟩
  le_trans a b c lower upper := by
    obtain ⟨left, top, right, bottom⟩ := lower
    obtain ⟨left', top', right', bottom'⟩ := upper
    exact ⟨Int.le_trans left' left, Int.le_trans top' top, Int.le_trans right right',
      Int.le_trans bottom bottom'⟩
  le_antisymm a b lower upper := by
    obtain ⟨left, top, right, bottom⟩ := lower
    obtain ⟨left', top', right', bottom'⟩ := upper
    obtain ⟨x, y, w, h⟩ := a
    obtain ⟨x', y', w', h'⟩ := b
    simp only at left top right bottom left' top' right' bottom'
    have sameX : x = x' := Int.le_antisymm left' left
    have sameY : y = y' := Int.le_antisymm top' top
    subst sameX
    subst sameY
    have sameW : w = w' := by omega
    have sameH : h = h' := by omega
    rw [sameW, sameH]

theorem le_iff {a b : Rect} :
    a ≤ b ↔ b.x ≤ a.x ∧ b.y ≤ a.y ∧ a.x + a.w ≤ b.x + b.w ∧ a.y + a.h ≤ b.y + b.h :=
  Iff.rfl

/-- The rectangles overlap, or they touch along an edge segment. -/
def Meets (a b : Rect) : Prop :=
  a.x ≤ b.x + b.w ∧ b.x ≤ a.x + a.w ∧ a.y < b.y + b.h ∧ b.y < a.y + a.h ∨
    a.x < b.x + b.w ∧ b.x < a.x + a.w ∧ a.y ≤ b.y + b.h ∧ b.y ≤ a.y + a.h

/-- The rectangles that the merging loop handles. -/
structure Valid (r : Rect) : Prop extends Fits r where
  width : 0 < r.w
  height : 0 < r.h

theorem clamp_inside {value : ℤ} (low : i32Min ≤ value) (high : value ≤ i32Max) :
    clampI32 value = value := by
  unfold clampI32
  rw [if_neg (Int.not_lt.mpr high), if_neg (Int.not_lt.mpr low)]

theorem Valid.isEmpty {r : Rect} (valid : Valid r) : r.isEmpty = false := by
  have width := valid.width
  have height := valid.height
  simp only [Rect.isEmpty, Bool.or_eq_false_iff, beq_eq_false_iff_ne]
  omega

theorem valid_of {r : Rect} (fits : Fits r) (nonempty : r.isEmpty = false) : Valid r := by
  simp only [Rect.isEmpty, Bool.or_eq_false_iff, beq_eq_false_iff_ne] at nonempty
  exact ⟨fits, Nat.pos_of_ne_zero nonempty.1, Nat.pos_of_ne_zero nonempty.2⟩

theorem right_exact {r : Rect} (valid : Valid r) : r.right = r.x + r.w := by
  have low := valid.left
  exact clamp_inside (by omega) valid.toFits.right

theorem bottom_exact {r : Rect} (valid : Valid r) : r.bottom = r.y + r.h := by
  have low := valid.top
  exact clamp_inside (by omega) valid.toFits.bottom

/-- Without saturation the union is the bounding box. -/
theorem union_box {a b : Rect} (validA : Valid a) (validB : Valid b) :
    (a.union b).x = min a.x b.x ∧ (a.union b).y = min a.y b.y ∧
      (a.union b).x + (a.union b).w = max (a.x + a.w) (b.x + b.w) ∧
      (a.union b).y + (a.union b).h = max (a.y + a.h) (b.y + b.h) := by
  obtain ⟨⟨leftA, topA, rightA, bottomA⟩, widthA, heightA⟩ := validA
  obtain ⟨⟨leftB, topB, rightB, bottomB⟩, widthB, heightB⟩ := validB
  have emptyA : a.isEmpty = false := Valid.isEmpty ⟨⟨leftA, topA, rightA, bottomA⟩, widthA, heightA⟩
  have emptyB : b.isEmpty = false := Valid.isEmpty ⟨⟨leftB, topB, rightB, bottomB⟩, widthB, heightB⟩
  have x : clampI32 (min a.x b.x) = min a.x b.x := by
    refine clamp_inside ?_ ?_ <;> omega
  have y : clampI32 (min a.y b.y) = min a.y b.y := by
    refine clamp_inside ?_ ?_ <;> omega
  unfold Rect.union
  rw [emptyA, emptyB]
  simp only [Bool.false_eq_true, if_false, x, y]
  simp only [i32Min, i32Max, u32Max] at *
  refine ⟨trivial, trivial, ?_, ?_⟩ <;> omega

theorem Valid.union {a b : Rect} (validA : Valid a) (validB : Valid b) : Valid (a.union b) := by
  obtain ⟨x, y, right, bottom⟩ := union_box validA validB
  obtain ⟨⟨leftA, topA, rightA, bottomA⟩, widthA, heightA⟩ := validA
  obtain ⟨⟨leftB, topB, rightB, bottomB⟩, widthB, heightB⟩ := validB
  constructor
  · constructor
    · omega
    · omega
    · omega
    · omega
  · omega
  · omega

/-- The pair test of the source is the meeting of the boxes. -/
theorem merge_pair_iff {a b merged : Rect} (validA : Valid a) (validB : Valid b) :
    mergePair a b = some merged ↔ Meets a b ∧ merged = a.union b := by
  have rightA : a.right = a.x + a.w := right_exact validA
  have rightB : b.right = b.x + b.w := right_exact validB
  have bottomA : a.bottom = a.y + a.h := bottom_exact validA
  have bottomB : b.bottom = b.y + b.h := bottom_exact validB
  have emptyA := validA.isEmpty
  have emptyB := validB.isEmpty
  have widthA := validA.width
  have widthB := validB.width
  have heightA := validA.height
  have heightB := validB.height
  unfold mergePair
  rw [emptyA, emptyB]
  simp only [Bool.or_self, Bool.false_eq_true, if_false]
  by_cases overlap : (a.intersect b).isSome = true
  · rw [if_pos overlap]
    unfold Rect.intersect at overlap
    rw [emptyA, emptyB] at overlap
    simp only [Bool.or_self, Bool.false_eq_true, if_false] at overlap
    have meets : Meets a b := by
      unfold Meets
      split at overlap
      · cases overlap
      · next inside =>
        simp only [Bool.or_eq_true, decide_eq_true_eq] at inside
        omega
    rw [Option.some.injEq, eq_comm]
    exact ⟨fun same => ⟨meets, same⟩, fun both => both.2⟩
  · rw [if_neg overlap]
    unfold Rect.intersect at overlap
    rw [emptyA, emptyB] at overlap
    simp only [Bool.or_self, Bool.false_eq_true, if_false] at overlap
    have apart : min (a.x + a.w) (b.x + b.w) ≤ max a.x b.x ∨
        min (a.y + a.h) (b.y + b.h) ≤ max a.y b.y := by
      by_contra inside
      refine overlap ?_
      rw [if_neg]
      · rfl
      · simpa only [Bool.or_eq_true, decide_eq_true_eq] using inside
    rw [rightA, rightB, bottomA, bottomB]
    have meets : ((a.x + a.w == b.x || b.x + b.w == a.x) &&
        decide (max a.y b.y < min (a.y + a.h) (b.y + b.h)) ||
        (a.y + a.h == b.y || b.y + b.h == a.y) &&
        decide (max a.x b.x < min (a.x + a.w) (b.x + b.w))) = true ↔ Meets a b := by
      unfold Meets
      simp only [Bool.or_eq_true, Bool.and_eq_true, beq_iff_eq, decide_eq_true_eq]
      omega
    by_cases touching : Meets a b
    · rw [if_pos (meets.mpr touching), Option.some.injEq, eq_comm]
      exact ⟨fun same => ⟨touching, same⟩, fun both => both.2⟩
    · rw [if_neg fun found => touching (meets.mp found)]
      exact iff_of_false (Option.some_ne_none merged).symm fun both => touching both.1

/-- Merging rectangles into bounding boxes. -/
def boxes : Rule Rect where
  Valid := Valid
  Meets := Meets
  join := Rect.union
  join_valid validA validB _ := validA.union validB
  left_le {a b} validA validB := by
    obtain ⟨x, y, right, bottom⟩ := union_box validA validB
    rw [le_iff]
    omega
  right_le {a b} validA validB := by
    obtain ⟨x, y, right, bottom⟩ := union_box validA validB
    rw [le_iff]
    omega
  join_le {a b c} validA validB belowA belowB := by
    obtain ⟨x, y, right, bottom⟩ := union_box validA validB
    rw [le_iff] at belowA belowB ⊢
    omega
  self {a} valid := by
    have width := valid.width
    have height := valid.height
    unfold Meets
    omega
  symm {a b} meets := by
    unfold Meets at meets ⊢
    omega
  mono {a b a' b'} _ _ _ _ belowA belowB meets := by
    rw [le_iff] at belowA belowB
    unfold Meets at meets ⊢
    omega

/-! ## The merging loop -/

theorem merge_into_split {a : Rect} {rest others : List Rect} {merged : Rect}
    (found : mergeInto a rest = some (merged, others)) :
    ∃ b, rest.Perm (b :: others) ∧ mergePair a b = some merged := by
  induction rest generalizing merged others with
  | nil => cases found
  | cons b rest ih =>
    simp only [mergeInto] at found
    split at found
    · next union pair =>
      cases found
      exact ⟨b, List.Perm.refl _, pair⟩
    · obtain ⟨⟨inner, kept⟩, deeper, same⟩ := Option.map_eq_some_iff.mp found
      cases same
      obtain ⟨partner, perm, pair⟩ := ih deeper
      exact ⟨partner, (perm.cons b).trans (List.Perm.swap partner b kept), pair⟩

/-- A round of the loop merges one pair. -/
theorem merge_first_split {rects merged : List Rect} (found : mergeFirst rects = some merged) :
    ∃ a b joined rest, rects.Perm (a :: b :: rest) ∧ mergePair a b = some joined ∧
      merged.Perm (joined :: rest) := by
  induction rects generalizing merged with
  | nil => cases found
  | cons a rest ih =>
    simp only [mergeFirst] at found
    split at found
    · next joined others into =>
      cases found
      obtain ⟨b, perm, pair⟩ := merge_into_split into
      exact ⟨a, b, joined, others, perm.cons a, pair, List.Perm.refl _⟩
    · obtain ⟨kept, deeper, same⟩ := Option.map_eq_some_iff.mp found
      cases same
      obtain ⟨b, c, joined, others, split, pair, merged⟩ := ih deeper
      refine ⟨b, c, joined, a :: others, ?_, pair, ?_⟩
      · exact (split.cons a).trans ((List.Perm.swap b a _).trans ((List.Perm.swap c a _).cons b))
      · exact (merged.cons a).trans (List.Perm.swap _ a _)

theorem merge_into_apart {a : Rect} {rest : List Rect} (stuck : mergeInto a rest = none) :
    ∀ b ∈ rest, mergePair a b = none := by
  induction rest with
  | nil => exact fun b member => by cases member
  | cons c rest ih =>
    simp only [mergeInto] at stuck
    split at stuck
    · cases stuck
    · next apart =>
      intro b member
      rcases List.mem_cons.mp member with same | later
      · rw [same]
        exact apart
      · exact ih (Option.map_eq_none_iff.mp stuck) b later

/-- The loop ends only when no pair can be merged. -/
theorem merge_first_apart {rects : List Rect} (stuck : mergeFirst rects = none) :
    rects.Pairwise fun a b => mergePair a b = none := by
  induction rects with
  | nil => exact List.Pairwise.nil
  | cons a rest ih =>
    simp only [mergeFirst] at stuck
    split at stuck
    · cases stuck
    · next alone =>
      exact List.Pairwise.cons (merge_into_apart alone) (ih (Option.map_eq_none_iff.mp stuck))

/-- A round of the loop is one merge. -/
theorem merge_first_merges {rects merged : List Rect} (valid : AllValid boxes rects)
    (found : mergeFirst rects = some merged) : Merges boxes rects merged := by
  obtain ⟨a, b, joined, rest, split, pair, after⟩ := merge_first_split found
  have validA : Valid a := valid a (split.mem_iff.mpr List.mem_cons_self)
  have validB : Valid b :=
    valid b (split.mem_iff.mpr (List.mem_cons_of_mem _ List.mem_cons_self))
  obtain ⟨meets, same⟩ := (merge_pair_iff validA validB).mp pair
  rw [same] at after
  exact ⟨a, b, rest, split, meets, after⟩

theorem coalesce_rounds_merges (rounds : ℕ) {rects : List Rect} (valid : AllValid boxes rects) :
    ReflTransGen (Merges boxes) rects (coalesceRounds rounds rects) := by
  induction rounds generalizing rects with
  | zero => exact .refl
  | succ rounds ih =>
    simp only [coalesceRounds]
    split
    · next merged found =>
      have merges := merge_first_merges valid found
      exact .head merges (ih (merges.valid valid))
    · exact .refl

/-- The loop ends only when no two rectangles meet. -/
theorem merge_first_none {rects : List Rect} (valid : AllValid boxes rects)
    (stuck : mergeFirst rects = none) : Settled boxes rects := by
  refine (merge_first_apart stuck).imp_of_mem fun {a b} memberA memberB apart meets => ?_
  rw [(merge_pair_iff (valid a memberA) (valid b memberB)).mpr ⟨meets, rfl⟩] at apart
  cases apart

/-! ## The order of the result -/

/-- The sort key compared field by field. -/
def order : Rect → Rect → Ordering :=
  compareLex (compareOn Rect.y) <| compareLex (compareOn Rect.x) <|
    compareLex (compareOn Rect.h) (compareOn Rect.w)

instance : Std.TransCmp order :=
  inferInstanceAs (Std.TransCmp (compareLex (compareOn Rect.y) (compareLex (compareOn Rect.x)
    (compareLex (compareOn Rect.h) (compareOn Rect.w)))))

theorem sorts_before_order (a b : Rect) : a.sortsBefore b = (order a b).isLE := rfl

theorem order_eq {a b : Rect} (same : order a b = .eq) : a = b := by
  unfold order at same
  simp only [compareLex_eq_eq, compareOn, compare_eq_iff_eq] at same
  obtain ⟨y, x, h, w⟩ := same
  obtain ⟨ax, ay, aw, ah⟩ := a
  obtain ⟨bx, byy, bw, bh⟩ := b
  simp only at y x h w
  rw [y, x, h, w]

theorem sorts_before_antisymm {a b : Rect} (first : a.sortsBefore b = true)
    (second : b.sortsBefore a = true) : a = b := by
  rw [sorts_before_order] at first second
  exact order_eq (Std.OrientedCmp.isLE_antisymm first second)

instance : Std.Total fun a b : Rect => a.sortsBefore b = true where
  total a b := by
    simp only [sorts_before_order]
    cases same : order a b with
    | lt => exact Or.inl rfl
    | eq => exact Or.inl rfl
    | gt =>
      have swapped : order b a = (order a b).swap := Std.OrientedCmp.eq_swap
      rw [swapped, same]
      exact Or.inr rfl

instance : IsTrans Rect fun a b : Rect => a.sortsBefore b = true where
  trans a b c first second := by
    simp only [sorts_before_order] at first second ⊢
    exact Std.TransCmp.isLE_trans first second

/-- Sorting forgets the order that the list was in. -/
theorem sorted_unique {first second : List Rect} (perm : first.Perm second) :
    first.insertionSort (fun a b => a.sortsBefore b) =
      second.insertionSort (fun a b => a.sortsBefore b) := by
  have sortedFirst := List.pairwise_insertionSort (fun a b : Rect => a.sortsBefore b = true) first
  have sortedSecond := List.pairwise_insertionSort (fun a b : Rect => a.sortsBefore b = true) second
  have same : (first.insertionSort (fun a b => a.sortsBefore b)).Perm
      (second.insertionSort (fun a b => a.sortsBefore b)) :=
    (List.perm_insertionSort _ first).trans
      (perm.trans (List.perm_insertionSort _ second).symm)
  exact same.eq_of_pairwise (fun a b _ _ before after => sorts_before_antisymm before after)
    sortedFirst sortedSecond

/-! ## Simplified regions -/

/-- What the region holds, with all edges in the range of an `i32`, is handled exactly. -/
theorem region_valid {region : Region} (fits : ∀ r ∈ region.rects, Fits r) :
    AllValid boxes region.rects :=
  fun r member => valid_of (fits r member) (region.nonempty r member)

theorem coalesce_merges {region : Region} (fits : ∀ r ∈ region.rects, Fits r) :
    ReflTransGen (Merges boxes) region.rects (coalesce region.rects) ∧
      Settled boxes (coalesce region.rects) := by
  have kept : region.rects.filter (fun r => !r.isEmpty) = region.rects := by
    rw [List.filter_eq_self]
    intro r member
    rw [region.nonempty r member]
    rfl
  have run : ReflTransGen (Merges boxes) region.rects (coalesce region.rects) := by
    unfold coalesce
    rw [kept]
    exact coalesce_rounds_merges _ (region_valid fits)
  exact ⟨run, merge_first_none (merged_valid (region_valid fits) run) (coalesce_stable _)⟩

/-- Whatever pairs are merged first, what is left in the end is what the loop leaves. -/
theorem merged_perm {region : Region} (fits : ∀ r ∈ region.rects, Fits r)
    {family merged : List Rect} (perm : family.Perm region.rects)
    (merges : ReflTransGen (Merges boxes) family merged) (done : Settled boxes merged) :
    merged.Perm (coalesce region.rects) := by
  obtain ⟨run, settled⟩ := coalesce_merges fits
  obtain ⟨final, same, merges⟩ := run_of_perm perm.symm merges
  exact same.symm.trans (confluent (region_valid fits) merges run (done.of_perm same) settled)

/-- Merging until no two rectangles meet leaves one family of rectangles, whatever pairs are
merged first, and `simplified` lists it the same way for every order of insertion. -/
theorem simplified_order_independent (region : Region) (fits : ∀ r ∈ region.rects, Fits r) :
    (∀ other : Region, other.rects.Perm region.rects → other.simplified = region.simplified) ∧
      ∀ family merged, family.Perm region.rects → ReflTransGen (Merges boxes) family merged →
        Settled boxes merged → merged.Perm region.simplified := by
  constructor
  · intro other perm
    have fitsOther : ∀ r ∈ other.rects, Fits r := fun r member => fits r (perm.mem_iff.mp member)
    obtain ⟨merges, done⟩ := coalesce_merges fitsOther
    exact sorted_unique (merged_perm fits perm merges done)
  · intro family merged perm merges done
    exact (merged_perm fits perm merges done).trans (List.perm_insertionSort _ _).symm

/-- Two L-shaped overlaps: whichever pair is merged first, its box meets the third. -/
theorem simplified_order_independent_chain :
    (Region.mk [⟨0, 0, 10, 10⟩, ⟨20, 20, 5, 5⟩, ⟨5, 5, 10, 20⟩] (by decide)).simplified =
      (Region.mk [⟨5, 5, 10, 20⟩, ⟨0, 0, 10, 10⟩, ⟨20, 20, 5, 5⟩] (by decide)).simplified := by
  refine (simplified_order_independent (Region.mk [⟨5, 5, 10, 20⟩, ⟨0, 0, 10, 10⟩, ⟨20, 20, 5, 5⟩]
    (by decide)) ?_).1 _ (by decide)
  intro r member
  simp only [List.mem_cons, List.not_mem_nil, or_false] at member
  rcases member with rfl | rfl | rfl <;> constructor <;> decide

end ADesk.Core.Coalescing
