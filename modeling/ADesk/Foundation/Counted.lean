/- ADesk/Foundation/Counted
   digest: Counted loops whose body can fail, and their invariant rule. -/

import Mathlib.Data.Nat.Notation

set_option autoImplicit false

namespace ADesk.Foundation.Counted

universe u

variable {σ : Type u}

/-- That many rounds of the loop, numbered from the given one. -/
def rounds (body : ℕ → σ → Option σ) : ℕ → ℕ → σ → Option σ
  | 0, _, state => some state
  | left + 1, index, state => (body index state).bind (rounds body left (index + 1))

/-- The loop over all indices from `start` to before `stop`; a round that fails ends it. -/
def forRange (start stop : ℕ) (body : ℕ → σ → Option σ) (state : σ) : Option σ :=
  rounds body (stop - start) start state

/-- What every round preserves while it does not fail holds at the end of the loop. -/
theorem for_range_rule (body : ℕ → σ → Option σ) (Inv : ℕ → σ → Prop) {start stop : ℕ}
    (order : start ≤ stop) {state : σ} (first : Inv start state)
    (round : ∀ index state, start ≤ index → index < stop → Inv index state →
      ∃ next, body index state = some next ∧ Inv (index + 1) next) :
    ∃ last, forRange start stop body state = some last ∧ Inv stop last := by
  have run : ∀ left index state, index + left = stop → start ≤ index → Inv index state →
      ∃ last, rounds body left index state = some last ∧ Inv stop last := by
    intro left
    induction left with
    | zero =>
      intro index state done _ holds
      exact ⟨state, rfl, done ▸ holds⟩
    | succ left ih =>
      intro index state done later holds
      obtain ⟨next, taken, kept⟩ := round index state later (by omega) holds
      obtain ⟨last, rest, final⟩ := ih (index + 1) next (by omega) (by omega) kept
      refine ⟨last, ?_, final⟩
      rw [rounds, taken]
      exact rest
  exact run (stop - start) start state (by omega) (Nat.le_refl _) first

end ADesk.Foundation.Counted
