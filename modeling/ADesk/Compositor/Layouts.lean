/- ADesk/Compositor/Layouts
   digest: The keysym table over all layouts of a keymap, against the layout the seat
   starts with. -/

import ADesk.Compositor.Keys
import Mathlib.Data.List.MinMax

set_option autoImplicit false

namespace ADesk.Compositor.Layouts

open ADesk.Compositor.Keys

/-! ## The first of the smallest -/

/-- In a list in ascending order of place, the first item of the least size is no later than any
other of that size. -/
theorem argmin_earliest {α : Type} {size place : α → ℕ} {items : List α} {found : α}
    (ascending : items.Pairwise fun first second => place first ≤ place second)
    (least : items.argmin size = some found) :
    ∀ item ∈ items, size found < size item ∨ size found = size item ∧ place found ≤ place item := by
  induction items using List.reverseRecOn generalizing found with
  | nil => intro item member; cases member
  | append_singleton front last ih =>
    obtain ⟨sorted, _, across⟩ := List.pairwise_append.mp ascending
    rw [List.argmin_concat] at least
    intro item member
    cases before : front.argmin size with
    | none =>
      rw [before] at least
      cases least
      rw [List.argmin_eq_none.mp before] at member
      rw [List.mem_singleton.mp member]
      exact Or.inr ⟨rfl, Nat.le_refl _⟩
    | some leader =>
      rw [before] at least
      have led := ih sorted before
      have inside : leader ∈ front := List.argmin_mem before
      dsimp only at least
      split at least
      · next smaller =>
        cases least
        rcases List.mem_append.mp member with old | new
        · refine Or.inl ?_
          rcases led item old with less | ⟨same, _⟩ <;> omega
        · rw [List.mem_singleton.mp new]
          exact Or.inr ⟨rfl, Nat.le_refl _⟩
      · next larger =>
        cases least
        rcases List.mem_append.mp member with old | new
        · exact led item old
        · rw [List.mem_singleton.mp new]
          have order := across _ inside last List.mem_cons_self
          omega

/-! ## The table as a choice among the scanned keys -/

/-- `KeymapTable::resolve` on the table of a compiled keymap. -/
def resolve (keymap : Keymap) (keysym : ℕ) : Option ResolvedKey := indexKeymap keymap keysym

/-- The keys and levels of one keysym among scanned entries, in their order. -/
def placesOf (keysym : ℕ) (entries : List (ℕ × ResolvedKey)) : List ResolvedKey :=
  (entries.filter fun entry => entry.1 = keysym).map Prod.snd

/-- `NoSymbol` enters no table, and an entry changes the table at its own keysym only. -/
theorem index_keysym_other (table : KeymapTable) {entry : ℕ × ResolvedKey} {keysym : ℕ}
    (other : entry.1 = 0 ∨ entry.1 ≠ keysym) : indexKeysym table entry keysym = table keysym := by
  unfold indexKeysym
  by_cases symbol : entry.1 = 0
  · rw [if_pos symbol]
  · have apart : keysym ≠ entry.1 := (other.resolve_left symbol).symm
    rw [if_neg symbol]
    cases table entry.1 with
    | none => exact Function.update_of_ne apart _ _
    | some found =>
      dsimp only
      split
      · exact Function.update_of_ne apart _ _
      · rfl

/-- An entry of the keysym itself replaces what the table has only on a lower level. -/
theorem index_keysym_own (table : KeymapTable) {keysym : ℕ} (symbol : keysym ≠ 0)
    (key : ResolvedKey) :
    indexKeysym table (keysym, key) keysym =
      List.argAux (fun first second => first.level < second.level) (table keysym) key := by
  unfold indexKeysym
  rw [if_neg symbol]
  cases held : table keysym with
  | none => exact Function.update_self ..
  | some found =>
    change (if key.level < found.level then _ else table) keysym =
      if key.level < found.level then some key else some found
    split
    · exact Function.update_self ..
    · exact held

theorem fold_zero (entries : List (ℕ × ResolvedKey)) (table : KeymapTable) :
    entries.foldl indexKeysym table 0 = table 0 := by
  induction entries generalizing table with
  | nil => rfl
  | cons entry rest ih =>
    rw [List.foldl_cons, ih, index_keysym_other table (Classical.em (entry.1 = 0))]

theorem fold_places {keysym : ℕ} (symbol : keysym ≠ 0) (entries : List (ℕ × ResolvedKey))
    (table : KeymapTable) :
    entries.foldl indexKeysym table keysym =
      (placesOf keysym entries).foldl
        (List.argAux fun first second => first.level < second.level) (table keysym) := by
  induction entries generalizing table with
  | nil => rfl
  | cons entry rest ih =>
    rw [List.foldl_cons, ih]
    obtain ⟨scanned, key⟩ := entry
    by_cases own : scanned = keysym
    · subst own
      rw [index_keysym_own table symbol]
      simp [placesOf]
    · rw [index_keysym_other table (Or.inr own)]
      simp [placesOf, own]

theorem resolve_zero (keymap : Keymap) : resolve keymap 0 = none := fold_zero _ _

theorem resolve_eq_argmin (keymap : Keymap) {keysym : ℕ} (symbol : keysym ≠ 0) :
    resolve keymap keysym = (placesOf keysym (scanKeymap keymap)).argmin ResolvedKey.level :=
  fold_places symbol _ _

/-- The scan meets the keys in the order of their keycodes. -/
theorem scan_ascending (keymap : Keymap) :
    (scanKeymap keymap).Pairwise fun first second => first.2.keycode ≤ second.2.keycode := by
  unfold scanKeymap
  rw [List.pairwise_flatMap]
  refine ⟨fun keycode _ => ?_, ?_⟩
  · refine List.pairwise_of_forall_mem_list fun first inFirst second inSecond => ?_
    simp only [List.mem_flatMap, List.mem_map] at inFirst inSecond
    obtain ⟨_, _, _, _, _, _, rfl⟩ := inFirst
    obtain ⟨_, _, _, _, _, _, rfl⟩ := inSecond
    exact Nat.le_refl keycode
  · refine List.Pairwise.imp ?_ List.pairwise_lt_range'
    intro low high less first inFirst second inSecond
    simp only [List.mem_flatMap, List.mem_map] at inFirst inSecond
    obtain ⟨_, _, _, _, _, _, rfl⟩ := inFirst
    obtain ⟨_, _, _, _, _, _, rfl⟩ := inSecond
    exact less.le

theorem places_ascending (keymap : Keymap) (keysym : ℕ) :
    (placesOf keysym (scanKeymap keymap)).Pairwise fun first second =>
      first.keycode ≤ second.keycode :=
  ((scan_ascending keymap).sublist List.filter_sublist).map Prod.snd fun _ _ order => order

/-! ## What the layouts produce -/

/-- The key produces the keysym on its level of the layout; `NoSymbol` is produced by no key. -/
structure Produces (keymap : Keymap) (layout keysym : ℕ) (key : ResolvedKey) : Prop where
  symbol : keysym ≠ 0
  inLayouts : layout < keymap.numLayouts
  above : keymap.minKeycode ≤ key.keycode
  below : key.keycode ≤ keymap.maxKeycode
  inLevels : key.level < keymap.numLevels key.keycode layout
  listed : keysym ∈ keymap.symsByLevel key.keycode layout key.level

/-- A lower level, or the same level and no higher keycode. -/
def Before (key other : ResolvedKey) : Prop :=
  key.level < other.level ∨ key.level = other.level ∧ key.keycode ≤ other.keycode

instance (key other : ResolvedKey) : Decidable (Before key other) :=
  inferInstanceAs (Decidable (_ ∨ _))

theorem mem_places {keymap : Keymap} {keysym : ℕ} (symbol : keysym ≠ 0) {key : ResolvedKey} :
    key ∈ placesOf keysym (scanKeymap keymap) ↔ ∃ layout, Produces keymap layout keysym key := by
  unfold placesOf scanKeymap
  simp only [List.mem_map, List.mem_filter, List.mem_flatMap, List.mem_range'_1, List.mem_range,
    decide_eq_true_eq]
  constructor
  · rintro ⟨_, ⟨⟨keycode, range, layout, inLayouts, level, inLevels, scanned, listed, rfl⟩, rfl⟩,
      rfl⟩
    exact ⟨layout, symbol, inLayouts, range.1, by dsimp only; omega, inLevels, listed⟩
  · rintro ⟨layout, _, inLayouts, above, below, inLevels, listed⟩
    exact ⟨(keysym, key), ⟨⟨key.keycode, ⟨above, by omega⟩, layout, inLayouts, key.level, inLevels,
      keysym, listed, rfl⟩, rfl⟩, rfl⟩

theorem resolve_eq_none_iff (keymap : Keymap) (keysym : ℕ) :
    resolve keymap keysym = none ↔ ∀ layout key, ¬ Produces keymap layout keysym key := by
  by_cases symbol : keysym = 0
  · subst symbol
    exact iff_of_true (resolve_zero keymap) fun _ _ produced => produced.symbol rfl
  · rw [resolve_eq_argmin keymap symbol, List.argmin_eq_none, List.eq_nil_iff_forall_not_mem]
    constructor
    · intro absent layout key produced
      exact absent key ((mem_places symbol).mpr ⟨layout, produced⟩)
    · intro absent key member
      obtain ⟨layout, produced⟩ := (mem_places symbol).mp member
      exact absent layout key produced

/-- The table has the lowest level, and on it the lowest keycode, over all layouts. -/
theorem resolve_least {keymap : Keymap} {keysym : ℕ} {key : ResolvedKey}
    (resolved : resolve keymap keysym = some key) :
    (∃ layout, Produces keymap layout keysym key) ∧
      ∀ layout other, Produces keymap layout keysym other → Before key other := by
  have symbol : keysym ≠ 0 := by
    rintro rfl
    rw [resolve_zero] at resolved
    cases resolved
  rw [resolve_eq_argmin keymap symbol] at resolved
  refine ⟨(mem_places symbol).mp (List.argmin_mem resolved), fun layout other produced => ?_⟩
  exact argmin_earliest (places_ascending keymap keysym) resolved other
    ((mem_places symbol).mpr ⟨layout, produced⟩)

/-! ## The layout the seat starts with -/

/-- The keysym resolves exactly when the first layout produces it, and then to the key of that
layout with the lowest level and, on that level, the lowest keycode. -/
structure ResolvesFirst (keymap : Keymap) (keysym : ℕ) : Prop where
  resolves : (resolve keymap keysym).isSome ↔ ∃ key, Produces keymap 0 keysym key
  lowest : ∀ key, resolve keymap keysym = some key →
    Produces keymap 0 keysym key ∧ ∀ other, Produces keymap 0 keysym other → Before key other

/-- No layout has the keysym in a place before all its places in the first layout. -/
def FirstLeads (keymap : Keymap) (keysym : ℕ) : Prop :=
  ∀ layout key, Produces keymap layout keysym key →
    ∃ own, Produces keymap 0 keysym own ∧ Before own key

theorem before_antisymm {key other : ResolvedKey} (first : Before key other)
    (second : Before other key) : key = other := by
  unfold Before at first second
  obtain ⟨keycode, level⟩ := key
  obtain ⟨otherKeycode, otherLevel⟩ := other
  simp only [ResolvedKey.mk.injEq] at first second ⊢
  omega

/-- A keysym resolves by the first layout exactly when no other layout comes before it. -/
theorem resolves_first_iff (keymap : Keymap) (keysym : ℕ) :
    ResolvesFirst keymap keysym ↔ FirstLeads keymap keysym := by
  constructor
  · intro first layout key produced
    cases resolved : resolve keymap keysym with
    | none => exact absurd produced ((resolve_eq_none_iff keymap keysym).mp resolved layout key)
    | some found =>
      exact ⟨found, (first.lowest found resolved).1, (resolve_least resolved).2 layout key produced⟩
  · intro leads
    refine ⟨?_, fun key resolved => ?_⟩
    · rw [Option.isSome_iff_ne_none, Ne, resolve_eq_none_iff]
      push Not
      constructor
      · rintro ⟨layout, key, produced⟩
        obtain ⟨own, first, _⟩ := leads layout key produced
        exact ⟨own, first⟩
      · rintro ⟨key, produced⟩
        exact ⟨0, key, produced⟩
    · obtain ⟨⟨layout, produced⟩, least⟩ := resolve_least resolved
      obtain ⟨own, first, before⟩ := leads layout key produced
      have same : own = key := before_antisymm before (least 0 own first)
      subst same
      exact ⟨first, fun other there => least 0 other there⟩

/-- A keymap with one layout always resolves by it. -/
theorem single_layout {keymap : Keymap} (single : keymap.numLayouts ≤ 1) (keysym : ℕ) :
    FirstLeads keymap keysym := by
  intro layout key produced
  have first : layout = 0 := by
    have inside := produced.inLayouts
    omega
  subst first
  exact ⟨key, produced, Or.inr ⟨rfl, Nat.le_refl _⟩⟩

/-- One key with a Latin letter on its first layout and a Cyrillic one on its second. -/
def twoLayouts : Keymap where
  minKeycode := 33
  maxKeycode := 33
  numLayouts := 2
  numLevels _ _ := 1
  symsByLevel _ layout _ := if layout = 0 then [0x66] else [0x6c1]
  levelOf _ _ _ _ := 0

theorem two_layouts_resolve_second :
    ¬ ∀ (keymap : Keymap) (keysym : ℕ), ResolvesFirst keymap keysym := by
  intro all
  have resolved : resolve twoLayouts 0x6c1 = some ⟨33, 0⟩ := by decide
  have listed := ((all twoLayouts 0x6c1).lowest _ resolved).1.listed
  exact absurd listed (by decide)

end ADesk.Compositor.Layouts
