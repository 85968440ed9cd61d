/- ADesk/Foundation/Tally
   digest: Ordered maps that count the members of a multiset, in groups, and the holders that
   the members belong to. -/

import Mathlib.Data.Multiset.Filter
import Mathlib.Data.Multiset.Count

set_option autoImplicit false

namespace ADesk.Foundation.Tally

variable {ι κ χ β : Type}

/-! ## Lookups away from an update -/

section Lookups

variable [Ord κ] [Std.LawfulEqOrd κ]

private theorem compare_differs {key other : κ} (differs : key ≠ other) :
    ¬ compare key other = .eq :=
  fun equal => differs (Std.LawfulEqCmp.eq_of_compare equal)

variable [Std.TransOrd κ]

theorem insert_other (map : Std.ExtTreeMap κ β) {key other : κ} (differs : key ≠ other)
    (value : β) : (map.insert key value)[other]? = map[other]? := by
  rw [Std.ExtTreeMap.getElem?_insert, if_neg (compare_differs differs)]

theorem erase_other (map : Std.ExtTreeMap κ β) {key other : κ} (differs : key ≠ other) :
    (map.erase key)[other]? = map[other]? := by
  rw [Std.ExtTreeMap.getElem?_erase, if_neg (compare_differs differs)]

end Lookups

/-! ## One counted multiset -/

section Counts

variable [DecidableEq κ] [Ord κ] [Std.TransOrd κ]

/-- Counts one more occurrence of `key`. -/
def raise (counts : Std.ExtTreeMap κ ℕ) (key : κ) : Std.ExtTreeMap κ ℕ :=
  counts.insert key (counts[key]?.getD 0 + 1)

/-- Counts one occurrence of `key` less; a key is dropped with its last occurrence. -/
def lower (counts : Std.ExtTreeMap κ ℕ) (key : κ) : Std.ExtTreeMap κ ℕ :=
  match counts[key]? with
  | none => counts
  | some count => if count - 1 = 0 then counts.erase key else counts.insert key (count - 1)

/-- The map holds the positive multiplicities of the multiset and nothing else. -/
def Tallies (counts : Std.ExtTreeMap κ ℕ) (keys : Multiset κ) : Prop :=
  ∀ key : κ, counts[key]? = if keys.count key = 0 then none else some (keys.count key)

theorem tallies_empty : Tallies (∅ : Std.ExtTreeMap κ ℕ) 0 := by
  intro key
  rw [Multiset.count_zero, if_pos rfl]
  exact Std.ExtTreeMap.getElem?_empty

theorem Tallies.mem {counts : Std.ExtTreeMap κ ℕ} {keys : Multiset κ}
    (tallied : Tallies counts keys) (key : κ) : key ∈ counts ↔ key ∈ keys := by
  rw [Std.ExtTreeMap.mem_iff_isSome_getElem?, tallied key, ← Multiset.count_ne_zero]
  split
  · next unseen => simp [unseen]
  · next seen => simp [seen]

theorem Tallies.isEmpty {counts : Std.ExtTreeMap κ ℕ} {keys : Multiset κ}
    (tallied : Tallies counts keys) : counts.isEmpty = true ↔ keys = 0 := by
  rw [Std.ExtTreeMap.isEmpty_iff, Std.ExtTreeMap.eq_empty_iff_forall_not_mem,
    Multiset.eq_zero_iff_forall_notMem]
  exact forall_congr' fun key => not_congr (tallied.mem key)

variable [Std.LawfulEqOrd κ]

theorem Tallies.raise {counts : Std.ExtTreeMap κ ℕ} {keys : Multiset κ}
    (tallied : Tallies counts keys) (key : κ) : Tallies (raise counts key) (key ::ₘ keys) := by
  intro other
  by_cases same : key = other
  · subst same
    rw [Tally.raise, Std.ExtTreeMap.getElem?_insert_self, tallied key,
      Multiset.count_cons_self, if_neg (Nat.succ_ne_zero _)]
    split
    · next unseen => rw [unseen, Option.getD_none]
    · rw [Option.getD_some]
  · rw [Tally.raise, insert_other _ same, Multiset.count_cons_of_ne (Ne.symm same)]
    exact tallied other

theorem Tallies.lower {counts : Std.ExtTreeMap κ ℕ} {keys : Multiset κ} {key : κ}
    (tallied : Tallies counts (key ::ₘ keys)) : Tallies (lower counts key) keys := by
  have stored : counts[key]? = some (keys.count key + 1) := by
    rw [tallied key,
      Multiset.count_cons_self, if_neg (Nat.succ_ne_zero _)]
  have others : ∀ other, key ≠ other →
      counts[other]? = if keys.count other = 0 then none else some (keys.count other) := by
    intro other differs
    rw [tallied other, Multiset.count_cons_of_ne (Ne.symm differs)]
  intro other
  simp only [Tally.lower, stored, Nat.add_sub_cancel]
  by_cases same : key = other
  · subst same
    split
    · exact Std.ExtTreeMap.getElem?_erase_self
    · exact Std.ExtTreeMap.getElem?_insert_self
  · split
    · rw [erase_other _ same]
      exact others other same
    · rw [insert_other _ same]
      exact others other same

/-- The first key of the map is the least member of the multiset. -/
theorem Tallies.head {counts : Std.ExtTreeMap κ ℕ} {keys : Multiset κ}
    (tallied : Tallies counts keys) (first : κ) :
    counts.keys.head? = some first ↔
      first ∈ keys ∧ ∀ key ∈ keys, (compare first key).isLE = true := by
  rw [← Std.ExtTreeMap.minKey?_eq_head?_keys,
    Std.ExtTreeMap.minKey?_eq_some_iff_mem_and_forall, tallied.mem]
  simp only [tallied.mem]

end Counts

/-! ## Counted multisets in groups -/

section Shares

variable [DecidableEq ι]

/-- The members of one group. -/
def share (group : ι) (held : Multiset (ι × κ)) : Multiset κ :=
  (held.filter fun entry => entry.1 = group).map Prod.snd

theorem share_zero (group : ι) : share group (0 : Multiset (ι × κ)) = 0 := rfl

theorem share_cons_self (group : ι) (key : κ) (held : Multiset (ι × κ)) :
    share group ((group, key) ::ₘ held) = key ::ₘ share group held := by
  rw [share, Multiset.filter_cons_of_pos held (p := fun entry : ι × κ => entry.1 = group) rfl,
    Multiset.map_cons]
  rfl

theorem share_cons_other {group other : ι} (differs : group ≠ other) (key : κ)
    (held : Multiset (ι × κ)) : share other ((group, key) ::ₘ held) = share other held := by
  rw [share, Multiset.filter_cons_of_neg held (p := fun entry : ι × κ => entry.1 = other) differs]
  rfl

theorem mem_share {group : ι} {held : Multiset (ι × κ)} {key : κ} :
    key ∈ share group held ↔ (group, key) ∈ held := by
  simp [share]

end Shares

section Groups

variable [Ord ι] [Std.TransOrd ι] [Ord κ] [Std.TransOrd κ]

/-- The first key of a group. -/
def first (groups : Std.ExtTreeMap ι (Std.ExtTreeMap κ ℕ)) (group : ι) : Option κ :=
  groups[group]?.bind fun counts : Std.ExtTreeMap κ ℕ => counts.keys.head?

private theorem first_of_tally (groups : Std.ExtTreeMap ι (Std.ExtTreeMap κ ℕ)) (group : ι) :
    first groups group = (groups[group]?.getD (∅ : Std.ExtTreeMap κ ℕ compare)).keys.head? := by
  unfold first
  cases groups[group]? with
  | none =>
    have empty : (∅ : Std.ExtTreeMap κ ℕ).keys = [] := Std.ExtTreeMap.keys_eq_nil_iff.mpr rfl
    rw [Option.getD_none, empty]
    rfl
  | some counts => rfl

def raiseIn (groups : Std.ExtTreeMap ι (Std.ExtTreeMap κ ℕ)) (group : ι) (key : κ) :
    Std.ExtTreeMap ι (Std.ExtTreeMap κ ℕ) :=
  groups.insert group (raise (groups[group]?.getD ∅) key)

/-- Counts one member less, and drops a group with its last member. -/
def lowerIn (groups : Std.ExtTreeMap ι (Std.ExtTreeMap κ ℕ)) (group : ι) (key : κ) :
    Std.ExtTreeMap ι (Std.ExtTreeMap κ ℕ) :=
  match groups[group]? with
  | none => groups
  | some counts =>
    if (lower counts key).isEmpty then groups.erase group
    else groups.insert group (lower counts key)

theorem lower_in_other [Std.LawfulEqOrd ι] (groups : Std.ExtTreeMap ι (Std.ExtTreeMap κ ℕ))
    {group other : ι} (differs : group ≠ other) (key : κ) :
    (lowerIn groups group key)[other]? = groups[other]? := by
  unfold lowerIn
  split
  · rfl
  · split
    · exact erase_other groups differs
    · exact insert_other groups differs _

variable [DecidableEq ι] [DecidableEq κ]

/-- A map of non-empty tallies, one for each group that has members. -/
def Grouped (groups : Std.ExtTreeMap ι (Std.ExtTreeMap κ ℕ)) (held : Multiset (ι × κ)) : Prop :=
  ∀ group : ι, match groups[group]? with
    | none => share group held = 0
    | some counts => share group held ≠ 0 ∧ Tallies counts (share group held)

variable {groups : Std.ExtTreeMap ι (Std.ExtTreeMap κ ℕ)} {held : Multiset (ι × κ)}

theorem grouped_empty : Grouped (∅ : Std.ExtTreeMap ι (Std.ExtTreeMap κ ℕ)) 0 := by
  intro group
  rw [Std.ExtTreeMap.getElem?_empty]
  exact share_zero group

theorem Grouped.tallies (grouped : Grouped groups held) (group : ι) :
    Tallies (groups[group]?.getD ∅) (share group held) := by
  have entry := grouped group
  cases found : groups[group]? with
  | none =>
    rw [found] at entry
    rw [entry]
    exact tallies_empty
  | some counts =>
    rw [found] at entry
    exact entry.2

/-- A group is stored exactly when it has members. -/
theorem Grouped.stored (grouped : Grouped groups held) (group : ι) :
    groups[group]? = none ↔ share group held = 0 := by
  have entry := grouped group
  cases found : groups[group]? with
  | none =>
    rw [found] at entry
    exact ⟨fun _ => entry, fun _ => rfl⟩
  | some counts =>
    rw [found] at entry
    exact ⟨(fun stored => by cases stored), fun empty => absurd empty entry.1⟩

theorem Grouped.no_first (grouped : Grouped groups held) (group : ι) :
    first groups group = none ↔
      ∀ key, (group, key) ∉ held := by
  have empty := (grouped.tallies group).isEmpty
  rw [Multiset.eq_zero_iff_forall_notMem] at empty
  simp only [mem_share] at empty
  rw [first_of_tally, List.head?_eq_none_iff, ← List.isEmpty_iff, Std.ExtTreeMap.isEmpty_keys,
    empty]

variable [Std.LawfulEqOrd κ]

/-- The first key of a stored group is the least member of the group. -/
theorem Grouped.first (grouped : Grouped groups held) (group : ι) (least : κ) :
    Tally.first groups group = some least ↔
      (group, least) ∈ held ∧ ∀ key, (group, key) ∈ held → (compare least key).isLE = true := by
  rw [first_of_tally, (grouped.tallies group).head least]
  simp only [mem_share]

variable [Std.LawfulEqOrd ι]

theorem Grouped.raise (grouped : Grouped groups held) (group : ι) (key : κ) :
    Grouped (raiseIn groups group key) ((group, key) ::ₘ held) := by
  intro other
  by_cases same : group = other
  · subst same
    rw [raiseIn, Std.ExtTreeMap.getElem?_insert_self, share_cons_self]
    exact ⟨Multiset.cons_ne_zero, (grouped.tallies group).raise key⟩
  · rw [raiseIn, insert_other _ same, share_cons_other same]
    exact grouped other

theorem Grouped.lower {group : ι} {key : κ} (grouped : Grouped groups ((group, key) ::ₘ held)) :
    Grouped (lowerIn groups group key) held := by
  have entry := grouped group
  rw [share_cons_self] at entry
  cases found : groups[group]? with
  | none =>
    rw [found] at entry
    exact absurd entry Multiset.cons_ne_zero
  | some counts =>
    rw [found] at entry
    have lowered : Tallies (Tally.lower counts key) (share group held) := entry.2.lower
    have others : ∀ other, group ≠ other → match groups[other]? with
        | none => share other held = 0
        | some counts => share other held ≠ 0 ∧ Tallies counts (share other held) := by
      intro other differs
      have kept := grouped other
      rwa [share_cons_other differs] at kept
    intro other
    simp only [lowerIn, found]
    by_cases drained : (Tally.lower counts key).isEmpty = true
    · rw [if_pos drained]
      by_cases same : group = other
      · subst same
        rw [Std.ExtTreeMap.getElem?_erase_self]
        exact lowered.isEmpty.mp drained
      · rw [erase_other _ same]
        exact others other same
    · rw [if_neg drained]
      by_cases same : group = other
      · subst same
        rw [Std.ExtTreeMap.getElem?_insert_self]
        exact ⟨fun empty => drained (lowered.isEmpty.mpr empty), lowered⟩
      · rw [insert_other _ same]
        exact others other same

end Groups

/-! ## Holders -/

/-- The multiset collects what the holders hold; finitely many of them hold something. -/
def Holders (holding : ℕ → Option χ) (held : Multiset χ) : Prop :=
  ∃ live : List ℕ, live.Nodup ∧ (∀ holder, holder ∈ live ↔ (holding holder).isSome = true) ∧
    held = (live.filterMap holding : List χ)

variable {holding : ℕ → Option χ} {held : Multiset χ}

theorem holders_empty : Holders (fun _ => (none : Option χ)) 0 :=
  ⟨[], List.nodup_nil, by simp, rfl⟩

theorem Holders.mem (holders : Holders holding held) (value : χ) :
    value ∈ held ↔ ∃ holder, holding holder = some value := by
  obtain ⟨live, _, members, rfl⟩ := holders
  rw [Multiset.mem_coe, List.mem_filterMap]
  constructor
  · rintro ⟨holder, _, holds⟩
    exact ⟨holder, holds⟩
  · rintro ⟨holder, holds⟩
    exact ⟨holder, (members holder).mpr (by rw [holds]; rfl), holds⟩

private theorem filter_map_update {live : List ℕ} {holder : ℕ} (absent : holder ∉ live)
    (value : Option χ) :
    live.filterMap (Function.update holding holder value) = live.filterMap holding := by
  refine List.filterMap_congr fun other member => ?_
  have differs : other ≠ holder := fun same => absent (same ▸ member)
  rw [Function.update_of_ne differs]

/-- A holder without a value takes one. -/
theorem Holders.take (holders : Holders holding held) {holder : ℕ}
    (free : holding holder = none) (value : χ) :
    Holders (Function.update holding holder (some value)) (value ::ₘ held) := by
  obtain ⟨live, distinct, members, rfl⟩ := holders
  have absent : holder ∉ live := by
    intro member
    have holds := (members holder).mp member
    rw [free] at holds
    cases holds
  refine ⟨holder :: live, List.nodup_cons.mpr ⟨absent, distinct⟩, ?_, ?_⟩
  · intro other
    by_cases same : other = holder
    · subst same
      simp
    · rw [List.mem_cons, Function.update_of_ne same, ← members other]
      exact or_iff_right same
  · rw [List.filterMap_cons, Function.update_self, filter_map_update absent]
    rfl

/-- A holder gives its value up. -/
theorem Holders.give (holders : Holders holding held) {holder : ℕ} {value : χ}
    (holds : holding holder = some value) :
    ∃ rest, held = value ::ₘ rest ∧ Holders (Function.update holding holder none) rest := by
  obtain ⟨live, distinct, members, rfl⟩ := holders
  have member : holder ∈ live := (members holder).mpr (by rw [holds]; rfl)
  have absent : holder ∉ live.erase holder := distinct.not_mem_erase
  refine ⟨((live.erase holder).filterMap holding : List χ), ?_, live.erase holder,
    distinct.erase holder, ?_, ?_⟩
  · have split := (List.perm_cons_erase member).filterMap holding
    rw [List.filterMap_cons, holds] at split
    exact Multiset.coe_eq_coe.mpr split
  · intro other
    rw [distinct.mem_erase_iff]
    by_cases same : other = holder
    · subst same
      simp
    · rw [Function.update_of_ne same, ← members other]
      exact and_iff_right same
  · rw [filter_map_update absent]

end ADesk.Foundation.Tally
