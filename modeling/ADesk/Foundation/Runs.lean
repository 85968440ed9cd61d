/- ADesk/Foundation/Runs
   digest: Logs whose neighbouring entries are collapsed into runs, and bounded lists that keep the
   newest entry first. -/

import Mathlib.Data.List.SplitBy

set_option autoImplicit false

namespace ADesk.Foundation.Runs

universe u

variable {α : Type u}

/-! ## Runs of a growing log -/

variable {joins : α → α → Bool} {log : List α} {entry : α}

theorem split_nonempty {run : List α} {earlier : List (List α)}
    (split : log.splitBy joins = earlier ++ [run]) : run ≠ [] := by
  apply List.ne_nil_of_mem_splitBy (r := joins) (l := log)
  rw [split]
  exact List.mem_append_right earlier List.mem_cons_self

/-- The log ends where its last run ends. -/
theorem split_last {run : List α} {earlier : List (List α)}
    (split : log.splitBy joins = earlier ++ [run]) : log.getLast? = run.getLast? := by
  have whole : log = earlier.flatten ++ run := by
    rw [← List.flatten_splitBy joins log, split, List.flatten_append, List.flatten_singleton]
  obtain ⟨last, same⟩ := Option.ne_none_iff_exists'.mp
    (mt List.getLast?_eq_none_iff.mp (split_nonempty split))
  rw [whole, List.getLast?_append, same]
  rfl

/-- An entry that does not join the last one starts a run of its own. -/
theorem split_apart (apart : ∀ last ∈ log.getLast?, joins last entry = false) :
    (log ++ [entry]).splitBy joins = log.splitBy joins ++ [[entry]] :=
  List.splitBy_append_cons [] apart

/-- An entry that joins the last one lengthens the last run. -/
theorem split_joined {run : List α} {earlier : List (List α)} {last : α}
    (split : log.splitBy joins = earlier ++ [run]) (ends : run.getLast? = some last)
    (joined : joins last entry = true) :
    (log ++ [entry]).splitBy joins = earlier ++ [run ++ [entry]] := by
  obtain ⟨whole, nonempty, chained, apart⟩ := List.splitBy_eq_iff.mp split
  rw [List.splitBy_eq_iff]
  refine ⟨?_, ?_, ?_, ?_⟩
  · rw [whole]
    simp
  · intro member
    rcases List.mem_append.mp member with before | own
    · exact nonempty (List.mem_append_left _ before)
    · simp at own
  · intro other member
    rcases List.mem_append.mp member with before | own
    · exact chained other (List.mem_append_left _ before)
    · rw [List.mem_singleton.mp own, List.isChain_append]
      have inside := chained run (List.mem_append_right _ List.mem_cons_self)
      refine ⟨inside, List.isChain_singleton _, ?_⟩
      intro previous at_end next first
      rw [ends] at at_end
      cases at_end
      cases first
      exact joined
  · rw [List.isChain_append] at apart ⊢
    refine ⟨apart.1, List.isChain_singleton _, ?_⟩
    intro before at_end next first
    cases first
    obtain ⟨filled, started, parted⟩ := apart.2.2 before at_end run rfl
    refine ⟨filled, List.append_ne_nil_of_left_ne_nil started _, ?_⟩
    rw [List.head_append_of_ne_nil started]
    exact parted

/-! ## Newest first -/

/-- The entry goes in front, and what is beyond the bound falls off the end. -/
def push (most : ℕ) (entry : α) (entries : List α) : List α := (entry :: entries).take most

theorem push_length (most : ℕ) (entry : α) (entries : List α) :
    (push most entry entries).length ≤ most :=
  List.length_take_le most _

/-- Pushing keeps the newest entries of a log. -/
theorem push_newest (most : ℕ) (log : List α) (entry : α) :
    push most entry (log.reverse.take most) = (log ++ [entry]).reverse.take most := by
  cases most with
  | zero => rfl
  | succ most =>
    rw [List.reverse_append, List.reverse_singleton, List.singleton_append]
    unfold push
    rw [List.take_succ_cons, List.take_succ_cons, List.take_take,
      Nat.min_eq_left (Nat.le_succ most)]

/-- The newest entry of a log is the first one kept, where any is kept. -/
theorem newest_first {most : ℕ} (room : most ≠ 0) (log : List α) (entry : α) :
    (log ++ [entry]).reverse.take most = entry :: log.reverse.take (most - 1) := by
  obtain ⟨fewer, rfl⟩ := Nat.exists_eq_succ_of_ne_zero room
  rw [List.reverse_append, List.reverse_singleton, List.singleton_append, List.take_succ_cons]
  rfl

end ADesk.Foundation.Runs
