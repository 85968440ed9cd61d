/- ADesk/Foundation/Markers
   digest: Lists cut at an element that stops a scan, or at the last place of a marker. -/

import Mathlib.Data.List.DropRight
import Mathlib.Data.List.Infix

set_option autoImplicit false

namespace ADesk.Foundation.Markers

universe u

variable {α : Type u} {marker : List α}

/-! ## Scans from both ends -/

theorem drop_before {p : α → Bool} {stop : α} (stops : p stop = false) (front rest : List α) :
    (front ++ stop :: rest).dropWhile p = front.dropWhile p ++ stop :: rest := by
  rw [List.dropWhile_append, List.dropWhile_cons_of_neg (by simp [stops])]
  split
  · next empty => rw [List.isEmpty_iff.mp empty, List.nil_append]
  · rfl

theorem drop_behind {p : α → Bool} {stop : α} (stops : p stop = false) (front rest : List α) :
    (front ++ stop :: rest).rdropWhile p = front ++ stop :: rest.rdropWhile p := by
  unfold List.rdropWhile
  rw [List.reverse_append, List.reverse_cons, List.append_assoc, List.singleton_append,
    drop_before stops, List.reverse_append, List.reverse_cons, List.reverse_reverse,
    List.append_assoc, List.singleton_append]

/-- Nothing is left of items that are dropped up to an element they do not have. -/
theorem drop_absent [DecidableEq α] {stop : α} {items : List α} (absent : stop ∉ items) :
    items.dropWhile (· ≠ stop) = [] ∧ items.rdropWhile (· ≠ stop) = [] := by
  have passes : ∀ x ∈ items, decide (x ≠ stop) = true := by
    intro x member
    have other : x ≠ stop := fun same => absent (same ▸ member)
    exact decide_eq_true other
  exact ⟨List.dropWhile_eq_nil_iff.mpr passes, List.rdropWhile_eq_nil_iff.mpr passes⟩

/-! ## Markers around an element -/

/-- No marker reaches over an element that is not in it. -/
theorem prefix_front (front : List α) {back : List α} {x : α} (other : x ∉ marker)
    (starts : marker <+: front ++ x :: back) : marker <+: front := by
  have own : front <+: front ++ x :: back := List.prefix_append _ _
  rcases Nat.le_total marker.length front.length with short | long
  · exact List.prefix_of_prefix_length_le starts own short
  · by_cases same : marker.length = front.length
    · exact List.prefix_of_prefix_length_le starts own (Nat.le_of_eq same)
    · have longer : (front ++ [x]).length ≤ marker.length := by
        rw [List.length_append, List.length_singleton]
        omega
      have reach : front ++ [x] <+: front ++ x :: back :=
        (List.prefix_append_right_inj front).mpr ((List.prefix_cons_inj x).mpr List.nil_prefix)
      have inside := List.prefix_of_prefix_length_le reach starts longer
      exact absurd (inside.subset (List.mem_append_right front List.mem_cons_self)) other

theorem infix_across {front back : List α} {x : α} (marked : marker ≠ []) (other : x ∉ marker)
    (inside : marker <:+: front ++ x :: back) : marker <:+: front ∨ marker <:+: back := by
  induction front with
  | nil =>
    rcases List.infix_cons_iff.mp inside with starts | later
    · have empty : marker <+: [] := prefix_front [] other starts
      exact absurd (List.prefix_nil.mp empty) marked
    · exact Or.inr later
  | cons y front ih =>
    rcases List.infix_cons_iff.mp inside with starts | later
    · have own : marker <+: y :: front := prefix_front (y :: front) other starts
      exact Or.inl own.isInfix
    · exact (ih later).imp_left List.infix_cons

/-! ## The last marker -/

variable [DecidableEq α]

/-- What stands before the last place of the marker, which is not empty. -/
def beforeLast (marker : List α) : List α → Option (List α)
  | [] => none
  | x :: rest =>
    match beforeLast marker rest with
    | some front => some (x :: front)
    | none => if marker.isPrefixOf (x :: rest) then some [] else none

theorem before_last_cons {rest front : List α} (x : α)
    (found : beforeLast marker rest = some front) :
    beforeLast marker (x :: rest) = some (x :: front) := by
  rw [beforeLast, found]

theorem before_last_append {back found : List α} (last : beforeLast marker back = some found)
    (front : List α) : beforeLast marker (front ++ back) = some (front ++ found) := by
  induction front with
  | nil => exact last
  | cons x front ih => exact before_last_cons x ih

theorem before_last_prefix {text front : List α} (last : beforeLast marker text = some front) :
    front <+: text := by
  induction text generalizing front with
  | nil => cases last
  | cons x rest ih =>
    rw [beforeLast] at last
    split at last
    · next found earlier =>
      cases last
      exact (List.prefix_cons_inj x).mpr (ih earlier)
    · split at last
      · cases last
        exact List.nil_prefix
      · cases last

theorem before_last_none_iff {text : List α} (marked : marker ≠ []) :
    beforeLast marker text = none ↔ ¬ marker <:+: text := by
  induction text with
  | nil => exact iff_of_true rfl fun inside => marked (List.infix_nil.mp inside)
  | cons x rest ih =>
    rw [List.infix_cons_iff, not_or, ← ih, ← List.isPrefixOf_iff_prefix, beforeLast]
    cases beforeLast marker rest with
    | some front => simp
    | none => simp

/-- A text that ends with the marker is cut there. -/
theorem before_last_end (marked : marker ≠ []) (front : List α) :
    beforeLast marker (front ++ marker) = some front := by
  have own : beforeLast marker marker = some [] := by
    cases marker with
    | nil => exact absurd rfl marked
    | cons x rest =>
      have shorter : beforeLast (x :: rest) rest = none := by
        refine (before_last_none_iff (List.cons_ne_nil x rest)).mpr fun inside => ?_
        exact absurd inside.length_le (by simp)
      rw [beforeLast, shorter]
      simp
  have joined := before_last_append own front
  rwa [List.append_nil] at joined

end ADesk.Foundation.Markers
