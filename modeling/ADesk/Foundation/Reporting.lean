/- ADesk/Foundation/Reporting
   digest: Machines that report items one after the other and then how they end, and the rule that
   a run reports what every step foretells. -/

import Mathlib.Data.List.Infix

set_option autoImplicit false

namespace ADesk.Foundation.Reporting

universe u v w

variable {σ : Type u} {Item : Type v} {Ending : Type w}

inductive Report (Item : Type v) (Ending : Type w)
  | item (item : Item)
  | ended (ending : Ending)

/-- A run so far; nothing happens after its end. -/
structure Progress (σ : Type u) (Item : Type v) (Ending : Type w) where
  state : σ
  items : List Item
  ending : Option Ending

section Run

variable (step : σ → σ × Option (Report Item Ending))

def advance (progress : Progress σ Item Ending) : Progress σ Item Ending :=
  match progress.ending with
  | some _ => progress
  | none =>
    match step progress.state with
    | (state, none) => ⟨state, progress.items, none⟩
    | (state, some (.item item)) => ⟨state, progress.items ++ [item], none⟩
    | (state, some (.ended ending)) => ⟨state, progress.items, some ending⟩

def run : ℕ → Progress σ Item Ending → Progress σ Item Ending
  | 0, progress => progress
  | steps + 1, progress => run steps (advance step progress)

/-- The run of that many steps from a state. -/
def runFrom (state : σ) (steps : ℕ) : Progress σ Item Ending := run step steps ⟨state, [], none⟩

/-- A step from a sound state does what was foretold of the state, and gets nearer to the end. -/
def Does (Sound : σ → Prop) (weight : σ → ℕ) (foretold : σ → List Item × Ending) (s : σ) :
    σ × Option (Report Item Ending) → Prop
  | (t, none) => Sound t ∧ weight t < weight s ∧ foretold s = foretold t
  | (t, some (.item item)) =>
    Sound t ∧ weight t < weight s ∧ foretold s = (item :: (foretold t).1, (foretold t).2)
  | (_, some (.ended ending)) => foretold s = ([], ending)

def Foretells (Sound : σ → Prop) (weight : σ → ℕ) (foretold : σ → List Item × Ending) : Prop :=
  ∀ s, Sound s → Does Sound weight foretold s (step s)

end Run

variable {step : σ → σ × Option (Report Item Ending)}

theorem run_ended (steps : ℕ) {progress : Progress σ Item Ending} {ending : Ending}
    (ended : progress.ending = some ending) : run step steps progress = progress := by
  have still : advance step progress = progress := by
    unfold advance
    rw [ended]
  induction steps with
  | zero => rfl
  | succ steps ih => rw [run, still, ih]

section Foretold

variable {Sound : σ → Prop} {weight : σ → ℕ} {foretold : σ → List Item × Ending}

theorem Foretells.run_on (law : Foretells step Sound weight foretold) (steps : ℕ) {state : σ}
    (items : List Item) (sound : Sound state) :
    (run step steps ⟨state, items, none⟩).items <+: items ++ (foretold state).1 ∧
      (weight state < steps →
        (run step steps ⟨state, items, none⟩).items = items ++ (foretold state).1 ∧
          (run step steps ⟨state, items, none⟩).ending = some (foretold state).2) := by
  induction steps generalizing state items with
  | zero => exact ⟨List.prefix_append _ _, fun none => absurd none (Nat.not_lt_zero _)⟩
  | succ steps ih =>
    have does := law state sound
    rw [run, advance]
    rcases taken : step state with ⟨after, _ | item | ending⟩
    · rw [taken] at does
      obtain ⟨later, nearer, same⟩ := does
      obtain ⟨part, whole⟩ := ih items later
      rw [same]
      exact ⟨part, fun enough => whole (by omega)⟩
    · rw [taken] at does
      obtain ⟨later, nearer, same⟩ := does
      obtain ⟨part, whole⟩ := ih (items ++ [item]) later
      rw [List.append_assoc, List.singleton_append] at part whole
      rw [same]
      exact ⟨part, fun enough => whole (by omega)⟩
    · rw [taken] at does
      have same : foretold state = ([], ending) := does
      rw [same, List.append_nil, run_ended steps rfl]
      exact ⟨List.prefix_rfl, fun _ => ⟨rfl, rfl⟩⟩

/-- A run long enough reports all that was foretold of its start, and ends as foretold. -/
theorem Foretells.reports (law : Foretells step Sound weight foretold) {state : σ}
    (sound : Sound state) {steps : ℕ} (enough : weight state < steps) :
    (runFrom step state steps).items = (foretold state).1 ∧
      (runFrom step state steps).ending = some (foretold state).2 :=
  (law.run_on steps [] sound).2 enough

/-- A run reports nothing but what was foretold, in that order. -/
theorem Foretells.reports_part (law : Foretells step Sound weight foretold) {state : σ}
    (sound : Sound state) (steps : ℕ) :
    (runFrom step state steps).items <+: (foretold state).1 :=
  (law.run_on steps [] sound).1

end Foretold

/-! ## Invariants of runs -/

/-- A step leaves a state of the run, or its last state. -/
def Leaves (Along Last : σ → Prop) : σ × Option (Report Item Ending) → Prop
  | (t, none) => Along t
  | (t, some (.item _)) => Along t
  | (t, some (.ended _)) => Last t

theorem run_carries (step : σ → σ × Option (Report Item Ending)) {Along Last : σ → Prop}
    (kept : ∀ s, Along s → Leaves Along Last (step s)) {state : σ} (start : Along state)
    (steps : ℕ) :
    ((runFrom step state steps).ending = none → Along (runFrom step state steps).state) ∧
      ((runFrom step state steps).ending ≠ none → Last (runFrom step state steps).state) := by
  have all : ∀ (steps : ℕ) (state : σ) (items : List Item), Along state →
      ((run step steps ⟨state, items, none⟩).ending = none →
          Along (run step steps ⟨state, items, none⟩).state) ∧
        ((run step steps ⟨state, items, none⟩).ending ≠ none →
          Last (run step steps ⟨state, items, none⟩).state) := by
    intro steps
    induction steps with
    | zero => exact fun state items along => ⟨fun _ => along, fun none => absurd rfl none⟩
    | succ steps ih =>
      intro state items along
      have next := kept state along
      rw [run, advance]
      rcases taken : step state with ⟨after, _ | item | ending⟩
      · rw [taken] at next
        exact ih after items next
      · rw [taken] at next
        exact ih after (items ++ [item]) next
      · rw [taken] at next
        rw [run_ended steps rfl]
        exact ⟨nofun, fun _ => next⟩
  exact all steps state [] start

/-- What every step preserves holds along the run and at its end. -/
theorem run_invariant {Always : σ → Prop} (kept : ∀ s, Always s → Always (step s).1) {state : σ}
    (start : Always state) (steps : ℕ) : Always (runFrom step state steps).state := by
  have leaves : ∀ s, Always s → Leaves Always Always (step s) := by
    intro s holds
    have next := kept s holds
    rcases taken : step s with ⟨after, _ | item | ending⟩ <;>
      · rw [taken] at next
        exact next
  have carried := run_carries step leaves start steps
  by_cases going : (runFrom step state steps).ending = none
  · exact carried.1 going
  · exact carried.2 going

end ADesk.Foundation.Reporting
