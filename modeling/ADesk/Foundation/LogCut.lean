/- ADesk/Foundation/LogCut
   digest: Cuts of a log by position and by key, and how a reader that skips and replays keeps
   one. -/

import Mathlib.Data.List.Basic

set_option autoImplicit false

namespace ADesk.Foundation.LogCut

universe u

variable {β : Type u}

/-- An entry of a log with one more entry is the new one or an entry of the old log. -/
theorem split_append {log before after : List β} {item last : β}
    (split : log ++ [last] = before ++ item :: after) :
    (after = [] ∧ log = before ∧ last = item) ∨
      ∃ kept, after = kept ++ [last] ∧ log = before ++ item :: kept := by
  rcases List.eq_nil_or_concat after with rfl | ⟨kept, final, rfl⟩
  · obtain ⟨old, new⟩ := List.append_inj' split rfl
    exact .inl ⟨rfl, old, List.singleton_inj.mp new⟩
  · have cut : log ++ [last] = (before ++ item :: kept) ++ [final] := by
      rw [split]
      simp
    obtain ⟨old, new⟩ := List.append_inj' cut rfl
    rw [List.singleton_inj.mp new]
    exact .inr ⟨kept, List.concat_eq_append, old⟩

variable (key : β → ℕ) (exempt : β → Bool)

/-- Every item that is not exempt has a key above all the items before it. -/
def Rising (log : List β) : Prop :=
  log.Pairwise (fun earlier later => exempt later = false → key earlier < key later)

/-- The position separates the keys up to the bound from those above it, exempt items aside. -/
structure Cut (log : List β) (position bound : ℕ) : Prop where
  inside : position ≤ log.length
  below : ∀ item ∈ log.take position, key item ≤ bound
  above : ∀ item ∈ log.drop position, exempt item = false → bound < key item

variable {key exempt}

theorem Cut.start : Cut key exempt [] 0 0 :=
  ⟨Nat.le_refl 0, (fun _ member => by cases member), (fun _ member => by cases member)⟩

theorem Cut.append {log : List β} {position bound : ℕ} (cut : Cut key exempt log position bound)
    {item : β} (later : exempt item = false → bound < key item) :
    Cut key exempt (log ++ [item]) position bound where
  inside := by
    rw [List.length_append]
    exact Nat.le_add_right_of_le cut.inside
  below := by
    rw [List.take_append_of_le_length cut.inside]
    exact cut.below
  above := by
    rw [List.drop_append_of_le_length cut.inside]
    intro other member
    rcases List.mem_append.mp member with old | new
    · exact cut.above other old
    · rw [List.mem_singleton.mp new]
      exact later

/-- A bound of all keys cuts the log at its end. -/
theorem Cut.full {log : List β} {bound : ℕ} (all : ∀ item ∈ log, key item ≤ bound) :
    Cut key exempt log log.length bound where
  inside := Nat.le_refl _
  below := fun item member => all item (List.mem_of_mem_take member)
  above := by
    rw [List.drop_length]
    exact fun item member => by cases member

/-- Reading the item at the cut moves the cut past it. -/
theorem Cut.advance {log : List β} {position bound : ℕ} (cut : Cut key exempt log position bound)
    (rising : Rising key exempt log) {item : β} (found : log[position]? = some item) :
    Cut key exempt log (position + 1) (max bound (key item)) := by
  obtain ⟨inside, rfl⟩ := List.getElem?_eq_some_iff.mp found
  refine ⟨inside, ?_, ?_⟩
  · intro other member
    rw [List.take_add_one, found, Option.toList_some, List.mem_append,
      List.mem_singleton] at member
    rcases member with old | rfl
    · exact Nat.le_trans (cut.below other old) (Nat.le_max_left _ _)
    · exact Nat.le_max_right _ _
  · intro other member native
    have split := List.drop_eq_getElem_cons inside
    have later := List.pairwise_cons.mp (split ▸ rising.sublist (List.drop_sublist position log))
    refine Nat.max_lt.mpr ⟨cut.above other ?_ native, later.1 other member native⟩
    rw [split]
    exact List.mem_cons_of_mem _ member

/-- Reading an item before the cut again changes nothing. -/
theorem Cut.replayed {log : List β} {position bound : ℕ} (cut : Cut key exempt log position bound)
    {index : ℕ} {item : β} (before : index < position) (found : log[index]? = some item) :
    max bound (key item) = bound := by
  refine Nat.max_eq_left (cut.below item ?_)
  refine List.mem_of_getElem? (i := index) ?_
  rw [List.getElem?_take_of_lt before, found]

/-- Of two cuts the later position goes with the larger bound. -/
theorem Cut.merge {log : List β} {position other bound limit : ℕ}
    (cut : Cut key exempt log position bound) (newer : Cut key exempt log other limit)
    (order : bound ≤ limit) : Cut key exempt log (max position other) limit where
  inside := Nat.max_le.mpr ⟨cut.inside, newer.inside⟩
  below := by
    intro item member
    rcases Nat.le_total position other with behind | ahead
    · rw [Nat.max_eq_right behind] at member
      exact newer.below item member
    · rw [Nat.max_eq_left ahead] at member
      exact Nat.le_trans (cut.below item member) order
  above := by
    intro item member native
    refine newer.above item ?_ native
    exact (List.drop_sublist_drop_left log (Nat.le_max_right position other)).subset member

end ADesk.Foundation.LogCut
