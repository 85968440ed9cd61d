/- ADesk/Foundation/Climbing
   digest: Walks in a tree of names that go down by name and up without one, and the walks that end
   below a given place. -/

import Mathlib.Data.List.Infix

set_option autoImplicit false

namespace ADesk.Foundation.Climbing

universe u

variable {α : Type u}

inductive Move (α : Type u)
  | down (name : α)
  | up
  deriving DecidableEq

/-- The names on the way from the top; above the top there is nothing. -/
def step (place : List α) : Move α → List α
  | .down name => place ++ [name]
  | .up => place.dropLast

def walk (place : List α) (moves : List (Move α)) : List α := moves.foldl step place

/-- The walk never goes above the place `depth` levels above its start. -/
def Stays : ℕ → List (Move α) → Prop
  | _, [] => True
  | depth, .down _ :: rest => Stays (depth + 1) rest
  | 0, .up :: _ => False
  | depth + 1, .up :: rest => Stays depth rest

/-- At some point the walk stands at the place, and it never leaves it after that. -/
def Enters (target : List α) (moves : List (Move α)) : Prop :=
  ∃ before rest, moves = before ++ rest ∧ walk [] before = target ∧ Stays 0 rest

theorem walk_append (place : List α) (before rest : List (Move α)) :
    walk place (before ++ rest) = walk (walk place before) rest :=
  List.foldl_append

theorem walk_concat (place : List α) (moves : List (Move α)) (move : Move α) :
    walk place (moves ++ [move]) = step (walk place moves) move :=
  List.foldl_concat ..

/-- A walk that stays below a place does not see what is above. -/
theorem walk_stays {depth : ℕ} {moves : List (Move α)} (stays : Stays depth moves)
    (base : List α) {above : List α} (height : above.length = depth) :
    walk (base ++ above) moves = base ++ walk above moves := by
  induction moves generalizing depth above with
  | nil => rfl
  | cons move rest ih =>
    cases move with
    | down name =>
      have longer : (above ++ [name]).length = depth + 1 := by
        rw [List.length_append, height]
        rfl
      have same := ih stays longer
      rwa [← List.append_assoc] at same
    | up =>
      cases depth with
      | zero => exact absurd stays id
      | succ depth =>
        have nonempty : above ≠ [] := by
          intro empty
          rw [empty] at height
          cases height
        have shorter : above.dropLast.length = depth := by
          rw [List.length_dropLast, height]
          rfl
        have same := ih stays shorter
        rwa [← List.dropLast_append_of_ne_nil nonempty] at same

/-- One more move keeps the walk below the place unless it goes up from there. -/
theorem stays_concat {depth : ℕ} {moves : List (Move α)} (stays : Stays depth moves)
    {above : List α} (height : above.length = depth) {move : Move α}
    (room : move = .up → walk above moves ≠ []) : Stays depth (moves ++ [move]) := by
  induction moves generalizing depth above with
  | nil =>
    cases move with
    | down name => exact trivial
    | up =>
      cases depth with
      | zero => exact absurd (List.length_eq_zero_iff.mp height) (room rfl)
      | succ depth => exact trivial
  | cons first rest ih =>
    cases first with
    | down name =>
      have longer : (above ++ [name]).length = depth + 1 := by
        rw [List.length_append, height]
        rfl
      exact ih stays longer room
    | up =>
      cases depth with
      | zero => exact absurd stays id
      | succ depth =>
        have shorter : above.dropLast.length = depth := by
          rw [List.length_dropLast, height]
          rfl
        exact ih stays shorter room

theorem Enters.below {target : List α} {moves : List (Move α)} (enters : Enters target moves) :
    target <+: walk [] moves := by
  obtain ⟨before, rest, rfl, same, stays⟩ := enters
  have apart := walk_stays stays target (List.length_nil)
  rw [List.append_nil] at apart
  rw [walk_append, same, apart]
  exact List.prefix_append _ _

/-- A walk ends at or below a place exactly when it enters the place for good. -/
theorem enters_iff {target : List α} {moves : List (Move α)} :
    Enters target moves ↔ target <+: walk [] moves := by
  refine ⟨Enters.below, fun below => ?_⟩
  induction moves using List.reverseRecOn with
  | nil => exact ⟨[], [], rfl, (List.prefix_nil.mp below).symm, trivial⟩
  | append_singleton moves move ih =>
    by_cases here : walk [] (moves ++ [move]) = target
    · exact ⟨moves ++ [move], [], (List.append_nil _).symm, here, trivial⟩
    rw [walk_concat] at below here
    -- The walk was below the place already, and the last move did not leave it.
    have before : target <+: walk [] moves := by
      cases move with
      | down name => exact (List.prefix_concat_iff.mp below).resolve_left (Ne.symm here)
      | up => exact below.trans (List.dropLast_prefix _)
    obtain ⟨first, rest, rfl, same, stays⟩ := ih before
    refine ⟨first, rest ++ [move], List.append_assoc .., same, ?_⟩
    refine stays_concat stays List.length_nil fun up empty => ?_
    have apart := walk_stays stays target List.length_nil
    rw [List.append_nil, empty, List.append_nil] at apart
    subst up
    rw [walk_append, same, apart] at below here
    exact here (below.eq_of_length_le (by
      rw [step, List.length_dropLast]
      exact Nat.sub_le _ _)).symm

/-- A walk without upward moves spells its place. -/
theorem walk_down (place names : List α) : walk place (names.map .down) = place ++ names := by
  induction names generalizing place with
  | nil => exact (List.append_nil place).symm
  | cons name rest ih =>
    have same := ih (place ++ [name])
    rwa [List.append_assoc] at same

end ADesk.Foundation.Climbing
