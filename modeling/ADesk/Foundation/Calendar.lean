/- ADesk/Foundation/Calendar
   digest: Dates of the Gregorian calendar, counted day by day. -/

import Mathlib.Tactic.IntervalCases

set_option autoImplicit false

namespace ADesk.Foundation.Calendar

def IsLeap (year : ℕ) : Prop := 4 ∣ year ∧ (¬ 100 ∣ year ∨ 400 ∣ year)

instance (year : ℕ) : Decidable (IsLeap year) := inferInstanceAs (Decidable (_ ∧ _))

def daysInMonth (year : ℕ) : ℕ → ℕ
  | 2 => if IsLeap year then 29 else 28
  | 4 | 6 | 9 | 11 => 30
  | 1 | 3 | 5 | 7 | 8 | 10 | 12 => 31
  | _ => 0

/-- The days of the year before the month. -/
def monthStart (year : ℕ) : ℕ → ℕ
  | 0 => 0
  | month + 1 => monthStart year month + daysInMonth year month

/-- The days before the year, from year 0. -/
def yearStart : ℕ → ℕ
  | 0 => 0
  | year + 1 => yearStart year + monthStart year 13

/-- A day that the calendar has. -/
structure Date where
  year : ℕ
  month : ℕ
  day : ℕ
  monthPos : 1 ≤ month
  monthLe : month ≤ 12
  dayPos : 1 ≤ day
  dayLe : day ≤ daysInMonth year month

/-- Months and days of the calendar, without the bounds as fields. -/
def IsDate (year month day : ℕ) : Prop :=
  1 ≤ month ∧ month ≤ 12 ∧ 1 ≤ day ∧ day ≤ daysInMonth year month

instance (year month day : ℕ) : Decidable (IsDate year month day) :=
  inferInstanceAs (Decidable (_ ∧ _))

/-- The date with the given numbers. -/
def IsDate.date {year month day : ℕ} (isDate : IsDate year month day) : Date :=
  ⟨year, month, day, isDate.1, isDate.2.1, isDate.2.2.1, isDate.2.2.2⟩

theorem days_in_month_pos {year month : ℕ} (pos : 1 ≤ month) (le : month ≤ 12) :
    1 ≤ daysInMonth year month := by
  interval_cases month <;> simp only [daysInMonth] <;> first | omega | (split <;> omega)

theorem days_in_month_le (year month : ℕ) : daysInMonth year month ≤ 31 := by
  unfold daysInMonth
  split <;> first | omega | (split <;> omega)

namespace Date

/-- The days before the date, from the first day of year 0. -/
def count (date : Date) : ℕ :=
  yearStart date.year + monthStart date.year date.month + (date.day - 1)

/-- The next day: in the same month, on the first of the next one, or on New Year's Day. -/
def next (date : Date) : Date :=
  if room : date.day < daysInMonth date.year date.month then
    { date with day := date.day + 1, dayPos := Nat.le_add_left 1 _, dayLe := room }
  else if more : date.month < 12 then
    { year := date.year
      month := date.month + 1
      day := 1
      monthPos := Nat.le_add_left 1 _
      monthLe := more
      dayPos := Nat.le_refl 1
      dayLe := days_in_month_pos (Nat.le_add_left 1 _) more }
  else
    { year := date.year + 1
      month := 1
      day := 1
      monthPos := Nat.le_refl 1
      monthLe := by decide
      dayPos := Nat.le_refl 1
      dayLe := days_in_month_pos (Nat.le_refl 1) (by decide) }

theorem count_next (date : Date) : date.next.count = date.count + 1 := by
  have dayPos := date.dayPos
  have dayLe := date.dayLe
  have monthLe := date.monthLe
  unfold next
  split
  · change yearStart date.year + monthStart date.year date.month + (date.day + 1 - 1) = _
    unfold count
    omega
  · next last =>
    have full : date.day = daysInMonth date.year date.month := by omega
    split
    · change yearStart date.year + (monthStart date.year date.month +
        daysInMonth date.year date.month) + (1 - 1) = _
      unfold count
      omega
    · next december =>
      have month : date.month = 12 := by omega
      have turn : monthStart date.year 13 = monthStart date.year 12 + daysInMonth date.year 12 :=
        rfl
      change yearStart date.year + monthStart date.year 13 + (monthStart (date.year + 1) 0 + 0) +
        (1 - 1) = _
      unfold count
      rw [turn, month]
      rw [month] at full
      change _ + (0 + 0) + 0 = _
      omega

end Date

/-! ## Closed forms -/

/-- The days before a month, with the leap day as a summand of its own. -/
theorem month_start_eq (year : ℕ) {month : ℕ} (pos : 1 ≤ month) (le : month ≤ 13) :
    monthStart year month =
      (if month ≤ 2 then 31 * (month - 1)
        else (153 * (month - 3) + 2) / 5 + 59 + if IsLeap year then 1 else 0) := by
  interval_cases month <;> simp [monthStart, daysInMonth] <;> split <;> rfl

theorem year_start_succ (year : ℕ) :
    yearStart (year + 1) = yearStart year + 365 + if IsLeap year then 1 else 0 := by
  have length := month_start_eq year (by decide : 1 ≤ 13) (Nat.le_refl 13)
  rw [if_neg (by decide)] at length
  change yearStart year + monthStart year 13 = _
  omega

/-- A quotient that is rounded up grows behind every multiple. -/
theorem ceil_succ (year period : ℕ) :
    (year + 1 + period) / (period + 1) =
      (year + period) / (period + 1) + if period + 1 ∣ year then 1 else 0 := by
  have same : period + 1 ∣ year + period + 1 ↔ period + 1 ∣ year := by
    rw [Nat.add_assoc]
    exact Nat.dvd_add_self_right
  rw [Nat.add_right_comm, Nat.succ_div, if_congr same rfl rfl]

/-- Every fourth year is a leap year, but of the centuries only every fourth. -/
theorem year_start_eq (year : ℕ) :
    yearStart year + (year + 99) / 100 = 365 * year + (year + 3) / 4 + (year + 399) / 400 := by
  induction year with
  | zero => rfl
  | succ year ih =>
    have fourth : (year + 1 + 3) / 4 = (year + 3) / 4 + if 4 ∣ year then 1 else 0 :=
      ceil_succ year 3
    have century : (year + 1 + 99) / 100 = (year + 99) / 100 + if 100 ∣ year then 1 else 0 :=
      ceil_succ year 99
    have era : (year + 1 + 399) / 400 = (year + 399) / 400 + if 400 ∣ year then 1 else 0 :=
      ceil_succ year 399
    have leap : (if IsLeap year then 1 else 0) + (if 100 ∣ year then 1 else 0) =
        (if 4 ∣ year then 1 else 0) + if 400 ∣ year then 1 else 0 := by
      unfold IsLeap
      by_cases quarters : 4 ∣ year
      · by_cases hundreds : 100 ∣ year
        · simp [quarters, hundreds, Nat.add_comm]
        · have never : ¬ 400 ∣ year := fun multiple => hundreds (Dvd.dvd.trans (by decide) multiple)
          simp [quarters, hundreds, never]
      · have never : ¬ 100 ∣ year := fun multiple => quarters (Dvd.dvd.trans (by decide) multiple)
        have neither : ¬ 400 ∣ year := fun multiple => quarters (Dvd.dvd.trans (by decide) multiple)
        simp [quarters, never, neither]
    rw [year_start_succ, fourth, century, era]
    omega

end ADesk.Foundation.Calendar
