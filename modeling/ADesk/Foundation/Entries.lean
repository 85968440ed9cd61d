/- ADesk/Foundation/Entries
   digest: The entries of a list by position, after a replacement and after an addition. -/

import Mathlib.Data.List.Basic

set_option autoImplicit false

namespace ADesk.Foundation.Entries

universe u

variable {α : Type u}

/-- The entries after one of them is replaced. -/
theorem set_entry {entries : List α} {index : ℕ} {before after : α}
    (present : entries[index]? = some before) (other : ℕ) (entry : α) :
    (entries.set index after)[other]? = some entry ↔
      (other = index ∧ entry = after) ∨ (other ≠ index ∧ entries[other]? = some entry) := by
  obtain ⟨bound, _⟩ := List.getElem?_eq_some_iff.mp present
  by_cases same : other = index
  · subst same
    rw [List.getElem?_set_self bound, Option.some.injEq]
    exact ⟨fun replaced => Or.inl ⟨rfl, replaced.symm⟩,
      fun either => either.elim (fun replaced => replaced.2.symm) (fun kept => absurd rfl kept.1)⟩
  · rw [List.getElem?_set_ne (Ne.symm same)]
    exact ⟨fun kept => Or.inr ⟨same, kept⟩,
      fun either => either.elim (fun replaced => absurd replaced.1 same) (fun kept => kept.2)⟩

/-- The entries after one of them is modified. -/
theorem modify_entry {entries : List α} {index : ℕ} {before : α} (change : α → α)
    (present : entries[index]? = some before) (other : ℕ) (entry : α) :
    (entries.modify index change)[other]? = some entry ↔
      (other = index ∧ entry = change before) ∨
        (other ≠ index ∧ entries[other]? = some entry) := by
  rw [List.getElem?_modify]
  by_cases same : index = other
  · subst same
    rw [present]
    simp [eq_comm]
  · simp [same, Ne.symm same]

/-- Each entry of a modified list is an old one or the change of one. -/
theorem entry_of_modify {entries : List α} {index other : ℕ} {change : α → α} {entry : α}
    (found : (entries.modify index change)[other]? = some entry) :
    ∃ before, entries[other]? = some before ∧ (entry = before ∨ entry = change before) := by
  rw [List.getElem?_modify] at found
  obtain ⟨before, present, same⟩ := Option.map_eq_some_iff.mp found
  refine ⟨before, present, ?_⟩
  split at same
  · exact Or.inr same.symm
  · exact Or.inl same.symm

/-- The entries after one more was added at the end. -/
theorem append_entry (entries : List α) (fresh : α) (index : ℕ) (entry : α) :
    (entries ++ [fresh])[index]? = some entry ↔
      entries[index]? = some entry ∨ (index = entries.length ∧ entry = fresh) := by
  rcases Nat.lt_trichotomy index entries.length with before | rfl | beyond
  · rw [List.getElem?_append_left before]
    exact ⟨Or.inl, fun either => either.elim (fun kept => kept) (fun last => by omega)⟩
  · rw [List.getElem?_concat_length, List.getElem?_eq_none (Nat.le_refl _)]
    simp [eq_comm]
  · rw [List.getElem?_eq_none (by simp; omega), List.getElem?_eq_none (by omega)]
    simp
    omega

end ADesk.Foundation.Entries
