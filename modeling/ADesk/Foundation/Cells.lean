/- ADesk/Foundation/Cells
   digest: A range cut into cells of nearly one size, and quotients rounded half up. -/

import Mathlib.Data.Nat.Init
import Mathlib.Tactic.Ring

set_option autoImplicit false

namespace ADesk.Foundation.Cells

/-! ## Rounding -/

/-- The quotient rounded to the nearest whole number, halves upwards. -/
def halfUp (value count : ℕ) : ℕ := (2 * value + count) / (2 * count)

/-- Half of the divisor, itself rounded down, is enough to add. -/
theorem half_up_eq (value count : ℕ) : (value + count / 2) / count = halfUp value count := by
  unfold halfUp
  rw [← Nat.div_div_eq_div_mul]
  have half : (2 * value + count) / 2 = value + count / 2 := by omega
  rw [half]

theorem half_up_le {value count most : ℕ} (positive : 0 < count) (bound : value ≤ most * count) :
    halfUp value count ≤ most := by
  unfold halfUp
  have low : 2 * value + count < 2 * count * (most + 1) := by
    have expand : 2 * count * (most + 1) = 2 * (most * count) + 2 * count := by ring
    omega
  exact Nat.lt_succ_iff.mp (Nat.div_lt_of_lt_mul low)

theorem half_up_mul {count : ℕ} (positive : 0 < count) (value : ℕ) :
    halfUp (count * value) count = value := by
  rw [← half_up_eq, Nat.mul_add_div positive, Nat.div_eq_of_lt (by omega), Nat.add_zero]

theorem half_up_bounds {value count : ℕ} (positive : 0 < count) :
    2 * count * halfUp value count ≤ 2 * value + count ∧
      2 * value + count < 2 * count * (halfUp value count + 1) := by
  have double : 0 < 2 * count := Nat.mul_pos (by decide) positive
  unfold halfUp
  refine ⟨Nat.mul_div_le _ _, ?_⟩
  have below := Nat.lt_mul_div_succ (2 * value + count) double
  exact below

theorem half_up_unique {value count quotient : ℕ}
    (low : 2 * count * quotient ≤ 2 * value + count)
    (high : 2 * value + count < 2 * count * (quotient + 1)) : halfUp value count = quotient := by
  have turn : ∀ other, other * (2 * count) = 2 * count * other := fun other => Nat.mul_comm _ _
  exact Nat.div_eq_of_lt_le ((turn quotient).trans_le low) (high.trans_eq (turn _).symm)

/-- The multiples of a rate of at most one advance by one, or not at all. -/
theorem half_up_next {rate count : ℕ} (positive : 0 < count) (slow : rate ≤ count) (steps : ℕ) :
    halfUp (rate * (steps + 1)) count =
      if 2 * count * (halfUp (rate * steps) count + 1) ≤ 2 * (rate * (steps + 1)) + count
      then halfUp (rate * steps) count + 1 else halfUp (rate * steps) count := by
  obtain ⟨low, high⟩ := @half_up_bounds (rate * steps) count positive
  have next : rate * (steps + 1) = rate * steps + rate := Nat.mul_succ _ _
  have room : ∀ quotient, 2 * count * (quotient + 1) = 2 * count * quotient + 2 * count :=
    fun quotient => Nat.mul_succ _ _
  have ahead := room (halfUp (rate * steps) count)
  have further := room (halfUp (rate * steps) count + 1)
  split
  · exact half_up_unique (by omega) (by omega)
  · exact half_up_unique (by omega) (by omega)

/-! ## Cells -/

/-- Where the cell begins, of a range of `size` points cut into `parts` cells. -/
def edge (size parts index : ℕ) : ℕ := index * size / parts

def Inside (size parts index point : ℕ) : Prop :=
  edge size parts index ≤ point ∧ point < edge size parts (index + 1)

variable {size parts : ℕ}

theorem edge_last (some_cells : 0 < parts) : edge size parts parts = size :=
  Nat.mul_div_cancel_left size some_cells

theorem edge_mono {low high : ℕ} (order : low ≤ high) :
    edge size parts low ≤ edge size parts high :=
  Nat.div_le_div_right (Nat.mul_le_mul_right size order)

theorem edge_le (some_cells : 0 < parts) {index : ℕ} (low : index ≤ parts) :
    edge size parts index ≤ size := by
  have order : edge size parts index ≤ edge size parts parts := edge_mono low
  rw [edge_last some_cells] at order
  exact order

/-- No cell is empty where there are no more cells than points. -/
theorem edge_lt (some_cells : 0 < parts) (enough : parts ≤ size) (index : ℕ) :
    edge size parts index < edge size parts (index + 1) := by
  have step : (index + 1) * size = index * size + size := by ring
  have one : (index * size + parts) / parts = index * size / parts + 1 :=
    Nat.add_div_right _ some_cells
  have order : (index * size + parts) / parts ≤ (index * size + size) / parts :=
    Nat.div_le_div_right (by omega)
  unfold edge
  rw [step]
  omega

theorem edge_le_iff (some_cells : 0 < parts) (index point : ℕ) :
    edge size parts index ≤ point ↔ index * size < (point + 1) * parts := by
  unfold edge
  rw [← Nat.lt_succ_iff, Nat.div_lt_iff_lt_mul some_cells]

/-- Every point is inside one cell. -/
theorem cell_unique (some_cells : 0 < parts) {point : ℕ} (low : point < size) :
    ∃! index, index < parts ∧ Inside size parts index point := by
  have some_points : 0 < size := Nat.zero_lt_of_lt low
  have some_left : 0 < (point + 1) * parts := Nat.mul_pos (Nat.succ_pos _) some_cells
  have begins : ∀ index, edge size parts index ≤ point ↔
      index ≤ ((point + 1) * parts - 1) / size := by
    intro index
    rw [edge_le_iff some_cells, Nat.le_div_iff_mul_le some_points]
    omega
  refine ⟨((point + 1) * parts - 1) / size, ⟨?_, (begins _).mpr (Nat.le_refl _), ?_⟩, ?_⟩
  · rw [Nat.div_lt_iff_lt_mul some_points]
    have room : (point + 1) * parts ≤ size * parts := Nat.mul_le_mul_right parts low
    have turn : parts * size = size * parts := Nat.mul_comm _ _
    omega
  · rw [← Nat.not_le, begins]
    omega
  · rintro index ⟨-, starts, ends⟩
    have after := (begins index).mp starts
    rw [← Nat.not_le, begins] at ends
    omega

end ADesk.Foundation.Cells
