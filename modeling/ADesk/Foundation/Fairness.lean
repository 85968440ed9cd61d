/- ADesk/Foundation/Fairness
   digest: Endless runs of a machine, weak fairness of a label, and the rules for what a fair run
   comes to. -/

import ADesk.Foundation.Execution
import Mathlib.Data.Nat.Init

set_option autoImplicit false

namespace ADesk.Foundation.Fairness

open ADesk.Foundation.Execution

universe u v

variable {σ : Type u} {α : Type v} {M : Machine σ α}

/-- An endless run; where no label is given the machine rests. -/
structure Schedule (M : Machine σ α) where
  state : ℕ → σ
  label : ℕ → Option α
  start : state 0 = M.init
  moves : ∀ n l, label n = some l → M.step (state n) l = some (state (n + 1))
  rests : ∀ n, label n = none → state (n + 1) = state n

/-- The label is taken again and again, unless it is disabled again and again. -/
def Schedule.Fair (run : Schedule M) (l : α) : Prop :=
  ∀ n, ∃ k, n ≤ k ∧ (run.label k = some l ∨ M.step (run.state k) l = none)

/-- From time `n` on, some state meets the goal. -/
def Schedule.Later (run : Schedule M) (n : ℕ) (Goal : σ → Prop) : Prop :=
  ∃ k, n ≤ k ∧ Goal (run.state k)

variable (run : Schedule M)

theorem Schedule.reachable (n : ℕ) : Reachable M anyStep (run.state n) := by
  induction n with
  | zero => exact run.start ▸ .start
  | succ n ih =>
    cases given : run.label n with
    | none => exact (run.rests n given).symm ▸ ih
    | some l => exact .next ih trivial (run.moves n l given)

theorem Schedule.Later.now {run : Schedule M} {n : ℕ} {Goal : σ → Prop}
    (holds : Goal (run.state n)) : run.Later n Goal := ⟨n, Nat.le_refl n, holds⟩

theorem Schedule.Later.trans {run : Schedule M} {n : ℕ} {P Goal : σ → Prop}
    (first : run.Later n P) (second : ∀ k, n ≤ k → P (run.state k) → run.Later k Goal) :
    run.Later n Goal := by
  obtain ⟨k, after, holds⟩ := first
  obtain ⟨last, later, reached⟩ := second k after holds
  exact ⟨last, Nat.le_trans after later, reached⟩

/-- What every step keeps, the run keeps from then on. -/
theorem Schedule.stays {P : σ → Prop}
    (keeps : ∀ {s t : σ} {l : α}, P s → M.step s l = some t → P t) {n k : ℕ} (after : n ≤ k)
    (holds : P (run.state n)) : P (run.state k) := by
  induction k, after using Nat.le_induction with
  | base => exact holds
  | succ k _ ih =>
    cases given : run.label k with
    | none => exact (run.rests k given).symm ▸ ih
    | some l => exact keeps ih (run.moves k l given)

/-- The rule of one helpful label: it is enabled as long as `P` holds, every step keeps `P` or
meets the goal, and the label itself meets it. -/
theorem Schedule.leads_to {P Goal : σ → Prop} {helpful : α} (fair : run.Fair helpful)
    (enabled : ∀ s, P s → M.step s helpful ≠ none)
    (keeps : ∀ s t l, P s → M.step s l = some t → P t ∨ Goal t)
    (helps : ∀ s t, P s → M.step s helpful = some t → Goal t)
    {n : ℕ} (holds : P (run.state n)) : run.Later n Goal := by
  by_contra never
  have missed : ∀ k, n ≤ k → ¬ Goal (run.state k) := fun k after met => never ⟨k, after, met⟩
  have still : ∀ k, n ≤ k → P (run.state k) := by
    intro k after
    induction k, after using Nat.le_induction with
    | base => exact holds
    | succ k after ih =>
      cases given : run.label k with
      | none => exact (run.rests k given).symm ▸ ih
      | some l =>
        exact (keeps _ _ l ih (run.moves k l given)).resolve_right (missed (k + 1) (by omega))
  obtain ⟨k, after, taken | disabled⟩ := fair n
  · exact missed (k + 1) (by omega) (helps _ _ (still k after) (run.moves k helpful taken))
  · exact enabled _ (still k after) disabled

/-- The rule of a measure: while the goal is not met, it is met or `P` comes back with a smaller
measure. -/
theorem Schedule.descends {P Goal : σ → Prop} (measure : σ → ℕ)
    (shrinks : ∀ n, P (run.state n) →
      run.Later n fun t => Goal t ∨ (P t ∧ measure t < measure (run.state n)))
    {n : ℕ} (holds : P (run.state n)) : run.Later n Goal := by
  obtain ⟨size, bound⟩ : ∃ size, measure (run.state n) = size := ⟨_, rfl⟩
  induction size using Nat.strongRecOn generalizing n with
  | ind size ih =>
    refine (shrinks n holds).trans ?_
    rintro k _ (met | ⟨again, smaller⟩)
    · exact .now met
    · exact ih _ (bound ▸ smaller) again rfl

/-! ## Runs that come to rest -/

theorem replay_append (allowed : σ → α → Prop) [∀ s label, Decidable (allowed s label)]
    (s : σ) (first second : List α) :
    replay M allowed s (first ++ second) =
      (replay M allowed s first).bind fun t => replay M allowed t second := by
  induction first generalizing s with
  | nil => rfl
  | cons l rest ih =>
    simp only [List.cons_append, replay]
    split
    · split
      · exact ih _
      · rfl
    · rfl

theorem replay_take {labels : List α} (runs : (replay M anyStep M.init labels).isSome = true)
    (n : ℕ) : ∃ s, replay M anyStep M.init (labels.take n) = some s := by
  rw [← List.take_append_drop n labels, replay_append] at runs
  cases reached : replay M anyStep M.init (labels.take n) with
  | none =>
    rw [reached] at runs
    cases runs
  | some s => exact ⟨s, rfl⟩

/-- A finite run that rests from its end on. -/
def Schedule.resting (labels : List α)
    (runs : (replay M anyStep M.init labels).isSome = true) : Schedule M where
  state n := (replay M anyStep M.init (labels.take n)).getD M.init
  label n := labels[n]?
  start := rfl
  moves n l given := by
    obtain ⟨s, before⟩ := replay_take runs n
    obtain ⟨t, after⟩ := replay_take runs (n + 1)
    have last : labels.take (n + 1) = labels.take n ++ [l] := by
      rw [List.take_add_one, given]
      rfl
    rw [last, replay_append, before, Option.bind_some] at after
    rw [last, replay_append, before, Option.bind_some, after, Option.getD_some, Option.getD_some]
    simp only [replay] at after
    split at after
    · split at after
      · next mid taken => exact taken.trans after
      · cases after
    · cases after
  rests n given := by
    have past : labels.length ≤ n := List.getElem?_eq_none_iff.mp given
    rw [List.take_of_length_le past, List.take_of_length_le (Nat.le_succ_of_le past)]

theorem Schedule.resting_fair {labels : List α}
    {runs : (replay M anyStep M.init labels).isSome = true} {l : α}
    (disabled : M.step (finalState M anyStep labels runs) l = none) :
    (Schedule.resting labels runs).Fair l := by
  intro n
  refine ⟨max n labels.length, Nat.le_max_left _ _, Or.inr ?_⟩
  have last : (Schedule.resting labels runs).state (max n labels.length) =
      finalState M anyStep labels runs := by
    have all := List.take_of_length_le (Nat.le_max_right n labels.length)
    show (replay M anyStep M.init (labels.take (max n labels.length))).getD M.init = _
    rw [all]
    exact (Option.get_eq_getD _).symm
  rw [last]
  exact disabled

end ADesk.Foundation.Fairness
