/- ADesk/Foundation/UniqueKeys
   digest: Lists whose entries have pairwise distinct keys. -/

import Mathlib.Data.List.Nodup
import Mathlib.Data.List.Perm.Basic

set_option autoImplicit false

namespace ADesk.Foundation.UniqueKeys

universe u v

variable {β : Type u} {κ : Type v} {key : β → κ} {entries : List β}

/-- Two entries of one key are the same entry. -/
theorem eq_of_key (distinct : (entries.map key).Nodup) {first second : β} (one : first ∈ entries)
    (other : second ∈ entries) (same : key first = key second) : first = second :=
  List.inj_on_of_nodup_map distinct one other same

variable [DecidableEq κ]

/-- Selecting by the key of an entry selects that entry alone. -/
theorem filter_key (distinct : (entries.map key).Nodup) {entry : β} (inside : entry ∈ entries) :
    entries.filter (fun other => key other = key entry) = [entry] := by
  induction entries with
  | nil => cases inside
  | cons head tail ih =>
    rw [List.map_cons, List.nodup_cons] at distinct
    rcases List.mem_cons.mp inside with rfl | later
    · rw [List.filter_cons_of_pos (by exact decide_eq_true rfl), List.filter_eq_nil_iff.mpr]
      intro other member same
      exact distinct.1 (of_decide_eq_true same ▸ List.mem_map_of_mem member)
    · have other : key head ≠ key entry :=
        fun same => distinct.1 (same ▸ List.mem_map_of_mem later)
      rw [List.filter_cons_of_neg (by simpa using other)]
      exact ih distinct.2 later

/-- Dropping one value from a list without repetitions. -/
theorem erase_eq_filter {values : List κ} (distinct : values.Nodup) (value : κ) :
    values.erase value = values.filter (fun other => other ≠ value) := by
  rw [distinct.erase_eq_filter]
  refine List.filter_congr fun other _ => ?_
  by_cases same : other = value
  · simp [same]
  · simp [same]

/-- Moving a listed value to the front is a permutation. -/
theorem front_perm {values : List κ} (distinct : values.Nodup) {value : κ}
    (listed : value ∈ values) :
    (value :: values.filter (fun other => other ≠ value)).Perm values := by
  rw [← erase_eq_filter distinct]
  exact (List.perm_cons_erase listed).symm

end ADesk.Foundation.UniqueKeys
