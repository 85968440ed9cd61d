/- ADesk/Foundation/Rotation
   digest: A shelf that keeps the last few arrivals and is shown at every step: when it is shown as
   often as something arrived. -/

import Mathlib.Data.List.Basic
import Mathlib.Data.Bool.Count

set_option autoImplicit false

namespace ADesk.Foundation.Rotation

universe u

/-- What the shelf holds after a step that may bring an arrival. -/
def place (capacity shown : ℕ) (arrives : Bool) : ℕ :=
  if arrives then min capacity (shown + 1) else shown

/-- What it holds after the steps. -/
def shelf (capacity shown : ℕ) (steps : List Bool) : ℕ := steps.foldl (place capacity) shown

/-- How many arrivals are shown in all, when each step first shows the shelf as it stands. -/
def showings (capacity : ℕ) : ℕ → List Bool → ℕ
  | _, [] => 0
  | shown, arrives :: rest => shown + showings capacity (place capacity shown arrives) rest

def arrivals (steps : List Bool) : ℕ := steps.count true

theorem shelf_append (capacity shown : ℕ) (steps : List Bool) (arrives : Bool) :
    shelf capacity shown (steps ++ [arrives]) =
      place capacity (shelf capacity shown steps) arrives := by
  simp [shelf, List.foldl_append]

theorem shelf_le {capacity shown : ℕ} (bound : shown ≤ capacity) (steps : List Bool) :
    shelf capacity shown steps ≤ capacity := by
  induction steps generalizing shown with
  | nil => exact bound
  | cons first rest later =>
    apply later
    cases first with
    | true => exact Nat.min_le_left capacity (shown + 1)
    | false => exact bound

theorem showings_append (capacity shown : ℕ) (steps : List Bool) (arrives : Bool) :
    showings capacity shown (steps ++ [arrives]) =
      showings capacity shown steps + shelf capacity shown steps := by
  induction steps generalizing shown with
  | nil => simp [showings, shelf]
  | cons first rest later =>
    rw [List.cons_append, showings, showings, later]
    simp only [shelf, List.foldl_cons]
    omega

theorem arrivals_append (steps : List Bool) (arrives : Bool) :
    arrivals (steps ++ [arrives]) = arrivals steps + if arrives then 1 else 0 := by
  cases arrives with
  | true => simp [arrivals, List.count_append]
  | false => simp [arrivals, List.count_append]

theorem arrivals_le (steps : List Bool) : arrivals steps ≤ steps.length :=
  List.count_le_length

/-- The steps from the first arrival on. -/
def sinceFirst (steps : List Bool) : List Bool := steps.dropWhile fun arrives => !arrives

/-- The steps that show a shelf of at most two places as often as something arrives. -/
def Balanced (capacity : ℕ) (steps : List Bool) : Prop :=
  match capacity with
  | 0 => sinceFirst steps = []
  | 1 => sinceFirst steps = [] ∨ (sinceFirst steps).tail.count false = 1
  | _ =>
    sinceFirst steps ∈ [[], [true, false], [true, false, true], [true, true, true]]

instance (capacity : ℕ) (steps : List Bool) : Decidable (Balanced capacity steps) :=
  match capacity with
  | 0 => inferInstanceAs (Decidable (_ = _))
  | 1 => inferInstanceAs (Decidable (_ ∨ _))
  | _ + 2 => inferInstanceAs (Decidable (_ ∈ _))

/-- Nothing is shown and nothing arrives before the first arrival. -/
theorem since_first_same (capacity : ℕ) (steps : List Bool) :
    showings capacity 0 steps = showings capacity 0 (sinceFirst steps) ∧
      arrivals steps = arrivals (sinceFirst steps) := by
  induction steps with
  | nil => exact ⟨rfl, rfl⟩
  | cons first rest later =>
    cases first with
    | true => exact ⟨rfl, rfl⟩
    | false =>
      obtain ⟨shown, arrived⟩ := later
      refine ⟨?_, ?_⟩
      · rw [showings, Nat.zero_add]
        exact shown
      · exact (List.count_cons_of_ne (by decide)).trans arrived

theorem since_first_cases (steps : List Bool) :
    sinceFirst steps = [] ∨ ∃ rest, sinceFirst steps = true :: rest := by
  induction steps with
  | nil => exact Or.inl rfl
  | cons first rest later =>
    cases first with
    | true => exact Or.inr ⟨rest, rfl⟩
    | false => exact later

theorem showings_none (shown : ℕ) (steps : List Bool) (nothing : shown = 0) :
    showings 0 shown steps = 0 := by
  subst nothing
  induction steps with
  | nil => rfl
  | cons first rest later =>
    have empty : place 0 0 first = 0 := by
      cases first with
      | true => rfl
      | false => rfl
    rw [showings, Nat.zero_add, empty]
    exact later

theorem showings_full (capacity : ℕ) (steps : List Bool) :
    showings capacity capacity steps = capacity * steps.length := by
  induction steps with
  | nil => rfl
  | cons first rest later =>
    have full : place capacity capacity first = capacity := by
      cases first with
      | true => exact Nat.min_eq_left (Nat.le_succ capacity)
      | false => rfl
    rw [showings, full, later, List.length_cons]
    rw [Nat.mul_succ, Nat.add_comm]

/-- With a second place, what was shown once is shown at least as often as something arrives. -/
theorem arrivals_le_showings (steps : List Bool) : arrivals steps ≤ showings 2 1 steps := by
  induction steps with
  | nil => exact Nat.le_refl 0
  | cons first rest later =>
    cases first with
    | true =>
      have bound := arrivals_le rest
      have full := showings_full 2 rest
      rw [showings, show place 2 1 true = 2 from rfl, full]
      simp only [arrivals, List.count_cons_self]
      simp only [arrivals] at bound
      omega
    | false =>
      rw [showings, show place 2 1 false = 1 from rfl]
      simp only [arrivals] at later ⊢
      rw [List.count_cons_of_ne (by decide)]
      omega

/-- Two places, one of them filled, and one arrival to make up for. -/
theorem showings_two (rest : List Bool) :
    showings 2 1 rest = 1 + arrivals rest ↔
      rest ∈ [[false], [false, true], [true, true]] := by
  match rest with
  | [] => simp [showings, arrivals]
  | [false] => simp [showings, arrivals]
  | [true] => simp [showings, arrivals]
  | false :: false :: more =>
    have bound := arrivals_le_showings more
    have shown : showings 2 1 (false :: false :: more) = 2 + showings 2 1 more := by
      simp [showings, place]
      omega
    have arrived : arrivals (false :: false :: more) = arrivals more := by simp [arrivals]
    rw [shown, arrived]
    simp
    omega
  | false :: true :: more =>
    have bound := arrivals_le more
    have shown : showings 2 1 (false :: true :: more) = 2 + 2 * more.length := by
      simp [showings, place, showings_full]
      omega
    have arrived : arrivals (false :: true :: more) = 1 + arrivals more := by
      simp [arrivals]
      omega
    rw [shown, arrived]
    cases more with
    | nil => simp [arrivals]
    | cons next others =>
      simp at bound ⊢
      omega
  | true :: next :: more =>
    have bound := arrivals_le more
    have shown : showings 2 1 (true :: next :: more) = 3 + 2 * more.length := by
      rw [showings, show place 2 1 true = 2 from rfl, showings_full]
      simp
      omega
    have arrived : arrivals (true :: next :: more) =
        1 + arrivals more + if next then 1 else 0 := by
      cases next with
      | true => simp [arrivals]; omega
      | false => simp [arrivals]; omega
    rw [shown, arrived]
    cases next with
    | true =>
      cases more with
      | nil => simp [arrivals]
      | cons third others =>
        simp at bound ⊢
        omega
    | false =>
      simp
      omega

/-- The shelf is shown as often as something arrives exactly in the balanced runs. -/
theorem showings_eq_arrivals {capacity : ℕ} (small : capacity ≤ 2) (steps : List Bool) :
    showings capacity 0 steps = arrivals steps ↔ Balanced capacity steps := by
  obtain ⟨shown, arrived⟩ := since_first_same capacity steps
  rw [shown, arrived]
  rcases since_first_cases steps with nothing | ⟨rest, first⟩
  · have balanced : Balanced capacity steps := by
      match capacity with
      | 0 => exact nothing
      | 1 => exact Or.inl nothing
      | _ + 2 =>
        show sinceFirst steps ∈ _
        rw [nothing]
        exact List.mem_cons_self
    rw [nothing]
    exact ⟨fun _ => balanced, fun _ => rfl⟩
  · rw [first, showings, Nat.zero_add]
    have more : arrivals (true :: rest) = 1 + arrivals rest := by
      simp [arrivals]
      omega
    rw [more]
    match capacity, small with
    | 0, _ =>
      rw [show place 0 0 true = 0 from rfl, showings_none _ _ rfl]
      simp only [Balanced, first]
      simp
      omega
    | 1, _ =>
      have full := showings_full 1 rest
      have split := List.count_true_add_count_false rest
      rw [show place 1 0 true = 1 from rfl, full]
      simp only [Balanced, first, List.tail_cons, arrivals]
      simp
      omega
    | 2, _ =>
      rw [show place 2 0 true = 1 from rfl, showings_two]
      simp [Balanced, first]

/-- Counts that are positive on the marked items add up to the number of these exactly if each
marked item counts once and no other does. -/
theorem sum_eq_count {α : Type u} (items : List α) (count : α → ℕ) (marked : α → Bool)
    (positive : ∀ item ∈ items, marked item = true → 1 ≤ count item) :
    (items.map count).sum = items.countP marked ↔
      ∀ item ∈ items, count item = if marked item then 1 else 0 := by
  have bound : ∀ items : List α, (∀ item ∈ items, marked item = true → 1 ≤ count item) →
      items.countP marked ≤ (items.map count).sum := by
    intro items positive
    induction items with
    | nil => exact Nat.le_refl 0
    | cons first rest later =>
      obtain ⟨head, tail⟩ := List.forall_mem_cons.mp positive
      have least := later tail
      rw [List.countP_cons, List.map_cons, List.sum_cons]
      split
      · next holds =>
        have one := head holds
        omega
      · omega
  induction items with
  | nil => simp
  | cons first rest later =>
    obtain ⟨head, tail⟩ := List.forall_mem_cons.mp positive
    have least := bound rest tail
    have others := later tail
    rw [List.countP_cons, List.map_cons, List.sum_cons, List.forall_mem_cons]
    by_cases holds : marked first = true
    · have one := head holds
      rw [if_pos holds]
      constructor
      · intro equal
        exact ⟨by omega, others.mp (by omega)⟩
      · rintro ⟨once, rests⟩
        have equal := others.mpr rests
        omega
    · rw [if_neg holds]
      constructor
      · intro equal
        exact ⟨by omega, others.mp (by omega)⟩
      · rintro ⟨none, rests⟩
        have equal := others.mpr rests
        omega

end ADesk.Foundation.Rotation
