/- ADesk/Foundation/GapLog
   digest: What a reader of a numbered log reports: values, and counts of the values it missed. -/

import Mathlib.Algebra.GroupWithZero.Nat
import Mathlib.Data.List.Basic

set_option autoImplicit false

namespace ADesk.Foundation.GapLog

universe u

variable {ε : Type u}

/-- One report: the value of a number, a count of missed values, or the end of the log. -/
inductive Item (ε : Type u)
  | event (payload : ε) (number : ℕ)
  | lagged (skipped : ℕ)
  | closed
  deriving DecidableEq

/-- How many numbers a report accounts for. -/
def Item.span : Item ε → ℕ
  | .event _ _ => 1
  | .lagged skipped => skipped
  | .closed => 0

/-- The missed values a report counts. -/
def Item.missed : Item ε → ℕ
  | .lagged skipped => skipped
  | _ => 0

def covered (items : List (Item ε)) : ℕ := (items.map Item.span).sum

def lagSum (items : List (Item ε)) : ℕ := (items.map Item.missed).sum

/-- The values reported, each with its number. -/
def delivered : List (Item ε) → List (ε × ℕ)
  | [] => []
  | .event payload number :: rest => (payload, number) :: delivered rest
  | .lagged _ :: rest => delivered rest
  | .closed :: rest => delivered rest

/-- Each report stands where it belongs when the numbers start at `place`: a value at its own
number, a count in front of that many missing numbers. -/
def Placed (missing : ℕ → Prop) : ℕ → List (Item ε) → Prop
  | _, [] => True
  | place, .event _ number :: rest => number = place ∧ Placed missing (place + 1) rest
  | place, .lagged skipped :: rest =>
    (∀ offset, offset < skipped → missing (place + offset)) ∧
      Placed missing (place + skipped) rest
  | place, .closed :: rest => Placed missing place rest

variable {missing : ℕ → Prop} {place : ℕ} {items : List (Item ε)}

@[simp] theorem covered_append (first second : List (Item ε)) :
    covered (first ++ second) = covered first + covered second := by
  simp [covered]

@[simp] theorem lag_sum_append (first second : List (Item ε)) :
    lagSum (first ++ second) = lagSum first + lagSum second := by
  simp [lagSum]

@[simp] theorem delivered_append (first second : List (Item ε)) :
    delivered (first ++ second) = delivered first ++ delivered second := by
  induction first with
  | nil => rfl
  | cons item rest ih =>
    cases item with
    | event payload number => exact congrArg ((payload, number) :: ·) ih
    | lagged skipped => exact ih
    | closed => exact ih

/-- The numbers accounted for are those of the values and those counted as missed. -/
theorem covered_eq (items : List (Item ε)) :
    covered items = (delivered items).length + lagSum items := by
  induction items with
  | nil => rfl
  | cons item rest ih =>
    simp only [covered, lagSum, List.map_cons, List.sum_cons] at ih ⊢
    cases item with
    | event payload number =>
      simp only [Item.span, Item.missed, delivered, List.length_cons]
      omega
    | lagged skipped =>
      simp only [Item.span, Item.missed, delivered]
      omega
    | closed =>
      simp only [Item.span, Item.missed, delivered]
      omega

theorem placed_append (first second : List (Item ε)) :
    Placed missing place (first ++ second) ↔
      Placed missing place first ∧ Placed missing (place + covered first) second := by
  induction first generalizing place with
  | nil => simp [Placed, covered]
  | cons item rest ih =>
    have shifted : covered (item :: rest) = item.span + covered rest := by simp [covered]
    rw [shifted, ← Nat.add_assoc]
    cases item with
    | event payload number =>
      simp only [List.cons_append, Placed, Item.span]
      rw [ih, and_assoc]
    | lagged skipped =>
      simp only [List.cons_append, Placed, Item.span]
      rw [ih, and_assoc]
    | closed =>
      simp only [List.cons_append, Placed, Item.span, Nat.add_zero]
      rw [ih]

theorem Placed.mono {more : ℕ → Prop} (weaker : ∀ number, missing number → more number)
    (placed : Placed missing place items) : Placed more place items := by
  induction items generalizing place with
  | nil => trivial
  | cons item rest ih =>
    cases item with
    | event payload number => exact ⟨placed.1, ih placed.2⟩
    | lagged skipped =>
      exact ⟨fun offset below => weaker _ (placed.1 offset below), ih placed.2⟩
    | closed =>
      have rest' : Placed missing place rest := placed
      exact ih rest'

/-- A reported value accounts, with the reports before it, for every number up to its own. -/
theorem Placed.event_at {before after : List (Item ε)} {payload : ε} {number : ℕ}
    (placed : Placed missing place (before ++ .event payload number :: after)) :
    number = place + covered before :=
  ((placed_append _ _).mp placed).2.1

/-- A count stands in front of the missing numbers it counts. -/
theorem Placed.lagged_at {before after : List (Item ε)} {skipped : ℕ}
    (placed : Placed missing place (before ++ .lagged skipped :: after)) {offset : ℕ}
    (below : offset < skipped) : missing (place + covered before + offset) :=
  ((placed_append _ _).mp placed).2.1 offset below

theorem placed_event {payload : ε} {number : ℕ} (placed : Placed missing place items) :
    Placed missing place (items ++ [.event payload number]) ↔ number = place + covered items := by
  rw [placed_append]
  exact ⟨fun both => both.2.1, fun same => ⟨placed, same, trivial⟩⟩

theorem placed_lagged {skipped : ℕ} (placed : Placed missing place items) :
    Placed missing place (items ++ [.lagged skipped]) ↔
      ∀ offset, offset < skipped → missing (place + covered items + offset) := by
  rw [placed_append]
  exact ⟨fun both => both.2.1, fun all => ⟨placed, all, trivial⟩⟩

theorem placed_closed (placed : Placed missing place items) :
    Placed missing place (items ++ [.closed]) := by
  rw [placed_append]
  exact ⟨placed, trivial⟩

/-! ## Ascending numbers -/

/-- Ascending numbers that stand before all others of a segment are its beginning. -/
theorem initial_segment {numbers : List ℕ} (sorted : numbers.Pairwise (· < ·)) {low high : ℕ}
    (inside : ∀ number ∈ numbers, low ≤ number ∧ number < high)
    (leading : ∀ number, low ≤ number → number < high →
      number ∈ numbers ∨ ∀ listed ∈ numbers, listed < number) :
    numbers = List.range' low numbers.length := by
  induction numbers generalizing low with
  | nil => rfl
  | cons first rest ih =>
    obtain ⟨before, sortedRest⟩ := List.pairwise_cons.mp sorted
    obtain ⟨above, below⟩ := inside first List.mem_cons_self
    have start : first = low := by
      rcases leading low (Nat.le_refl _) (by omega) with listed | beyond
      · rcases List.mem_cons.mp listed with same | later
        · exact same.symm
        · have := before low later
          omega
      · have := beyond first List.mem_cons_self
        omega
    rw [List.length_cons, List.range'_succ, start]
    refine congrArg (low :: ·) (ih sortedRest ?_ ?_)
    · intro number listed
      have := before number listed
      have := inside number (List.mem_cons_of_mem _ listed)
      omega
    · intro number from' upto
      rcases leading number (by omega) upto with listed | beyond
      · rcases List.mem_cons.mp listed with same | later
        · omega
        · exact Or.inl later
      · exact Or.inr fun listed member => beyond listed (List.mem_cons_of_mem _ member)

/-- Ascending numbers from `low` on that hold the whole segment begin with it. -/
theorem take_segment {numbers : List ℕ} (sorted : numbers.Pairwise (· < ·)) {low count : ℕ}
    (inside : ∀ number ∈ numbers, low ≤ number)
    (full : ∀ offset, offset < count → low + offset ∈ numbers) :
    numbers.take count = List.range' low count := by
  induction count generalizing numbers low with
  | zero => rfl
  | succ count ih =>
    have listed := full 0 (Nat.succ_pos _)
    cases numbers with
    | nil => cases listed
    | cons first rest =>
      obtain ⟨before, sortedRest⟩ := List.pairwise_cons.mp sorted
      have start : first = low := by
        have above := inside first List.mem_cons_self
        rcases List.mem_cons.mp listed with same | later
        · omega
        · have := before _ later
          omega
      rw [List.take_succ_cons, List.range'_succ, start]
      refine congrArg (low :: ·) (ih sortedRest ?_ ?_)
      · intro number member
        have := before number member
        omega
      · intro offset below
        rcases List.mem_cons.mp (full (offset + 1) (Nat.succ_lt_succ below)) with same | later
        · omega
        · rw [Nat.add_assoc, Nat.add_comm 1]
          exact later

end ADesk.Foundation.GapLog
