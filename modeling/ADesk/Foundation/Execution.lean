/- ADesk/Foundation/Execution
   digest: Labelled machines, the states their allowed runs reach, and the induction rules on runs. -/

import Mathlib.Data.List.Basic

set_option autoImplicit false

namespace ADesk.Foundation.Execution

universe u v w x

/-- A labelled machine. The label resolves every scheduling choice, so a step is a partial
function and `none` means that the label is not enabled. -/
structure Machine (σ : Type u) (α : Type v) where
  init : σ
  step : σ → α → Option σ

variable {σ : Type u} {α : Type v} {τ : Type w} {β : Type x}

/-- The states reached by finite runs whose every step meets `allowed` in its pre-state. -/
inductive Reachable (M : Machine σ α) (allowed : σ → α → Prop) : σ → Prop
  | start : Reachable M allowed M.init
  | next {s t : σ} {label : α} (reached : Reachable M allowed s) (ok : allowed s label)
      (taken : M.step s label = some t) : Reachable M allowed t

/-- The condition that restricts nothing: every run of the machine. -/
def anyStep : σ → α → Prop := fun _ _ => True

/-- A state predicate that holds at the start and is kept by every allowed step. -/
structure Inductive (M : Machine σ α) (allowed : σ → α → Prop) (P : σ → Prop) : Prop where
  start : P M.init
  next : ∀ {s t label}, P s → allowed s label → M.step s label = some t → P t

/-- The run rule: what one step preserves, every reachable state satisfies. -/
theorem Inductive.holds {M : Machine σ α} {allowed : σ → α → Prop} {P : σ → Prop}
    (inv : Inductive M allowed P) {s : σ} (reached : Reachable M allowed s) : P s := by
  induction reached with
  | start => exact inv.start
  | next _ ok taken ih => exact inv.next ih ok taken

/-- The run rule relative to facts already known of every reachable state. -/
theorem invariant_relative {M : Machine σ α} {allowed : σ → α → Prop} {P Q : σ → Prop}
    (known : ∀ {s}, Reachable M allowed s → Q s) (initial : P M.init)
    (next : ∀ {s t label}, Q s → Q t → P s → allowed s label → M.step s label = some t → P t)
    {s : σ} (reached : Reachable M allowed s) : P s := by
  induction reached with
  | start => exact initial
  | next before ok taken ih =>
    exact next (known before) (known (.next before ok taken)) ih ok taken

/-- Weakening the condition keeps every reachable state. -/
theorem Reachable.mono {M : Machine σ α} {allowed wider : σ → α → Prop}
    (weaker : ∀ s label, allowed s label → wider s label) {s : σ}
    (reached : Reachable M allowed s) : Reachable M wider s := by
  induction reached with
  | start => exact .start
  | next _ ok taken ih => exact .next ih (weaker _ _ ok) taken

theorem Reachable.unrestricted {M : Machine σ α} {allowed : σ → α → Prop} {s : σ}
    (reached : Reachable M allowed s) : Reachable M anyStep s :=
  reached.mono fun _ _ _ => trivial

/-- A run that continues from a reachable state reaches reachable states. -/
theorem Reachable.continued {M : Machine σ α} {allowed : σ → α → Prop} {s t : σ}
    (reached : Reachable M allowed s) (later : Reachable ⟨s, M.step⟩ allowed t) :
    Reachable M allowed t := by
  induction later with
  | start => exact reached
  | next _ ok taken ih => exact .next ih ok taken

/-- A component view: when every step of `M` is, through `view`, finitely many allowed steps
of `N`, the views of reachable states are reachable. -/
theorem reachable_view {M : Machine σ α} {N : Machine τ β} {allowed : σ → α → Prop}
    {allowedView : τ → β → Prop} (view : σ → τ)
    (initial : Reachable N allowedView (view M.init))
    (next : ∀ {s t label}, Reachable M allowed s → allowed s label → M.step s label = some t →
      Reachable N allowedView (view s) → Reachable N allowedView (view t))
    {s : σ} (reached : Reachable M allowed s) : Reachable N allowedView (view s) := by
  induction reached with
  | start => exact initial
  | next before ok taken ih => exact next before ok taken ih

/-- Runs a list of labels from `s`, refusing a step that is not enabled or not allowed. -/
def replay (M : Machine σ α) (allowed : σ → α → Prop) [∀ s label, Decidable (allowed s label)] :
    σ → List α → Option σ
  | s, [] => some s
  | s, label :: rest =>
    if allowed s label then
      match M.step s label with
      | some t => replay M allowed t rest
      | none => none
    else none

instance (s : σ) (label : α) : Decidable (anyStep s label) :=
  inferInstanceAs (Decidable True)

theorem replay_step {M : Machine σ α} {s t : σ} {label : α} (rest : List α)
    (taken : M.step s label = some t) :
    replay M anyStep s (label :: rest) = replay M anyStep t rest := by
  rw [replay, if_pos (show anyStep s label from trivial), taken]

theorem reachable_replay {M : Machine σ α} {allowed : σ → α → Prop}
    [∀ s label, Decidable (allowed s label)] {labels : List α} {s t : σ}
    (reached : Reachable M allowed s) (run : replay M allowed s labels = some t) :
    Reachable M allowed t := by
  induction labels generalizing s with
  | nil =>
    simp only [replay, Option.some.injEq] at run
    exact run ▸ reached
  | cons label rest ih =>
    simp only [replay] at run
    split at run
    · next ok =>
      split at run
      · next mid taken => exact ih (.next reached ok taken) run
      · cases run
    · cases run

/-- The final state of a list of labels that is known to run through. -/
def finalState (M : Machine σ α) (allowed : σ → α → Prop)
    [∀ s label, Decidable (allowed s label)] (labels : List α)
    (runs : (replay M allowed M.init labels).isSome = true) : σ :=
  (replay M allowed M.init labels).get runs

theorem final_state_reachable (M : Machine σ α) (allowed : σ → α → Prop)
    [∀ s label, Decidable (allowed s label)] (labels : List α)
    (runs : (replay M allowed M.init labels).isSome = true) :
    Reachable M allowed (finalState M allowed labels runs) :=
  reachable_replay .start (Option.some_get runs).symm

end ADesk.Foundation.Execution
