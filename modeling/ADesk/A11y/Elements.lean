/- ADesk/A11y/Elements
   digest: The element registry: handles and ids as inverse tables of bounded size, emptied when
   full, under a counter that never goes back. -/

import ADesk.A11y.Source
import Mathlib.Data.Finset.Card
import Mathlib.Data.List.AList

set_option autoImplicit false

namespace ADesk.A11y.Elements

open ADesk.A11y.Source
open ADesk.Core.Accessibility (AccessibleId)

structure Registry where
  byHandle : AList (fun _ : ElementHandle => AccessibleId)
  byId : AList (fun _ : AccessibleId => ElementHandle)
  next : ℕ
  cap : ℕ

def Registry.new (cap : ℕ) : Registry := ⟨∅, ∅, 0, cap⟩

/-- Both tables are emptied once `byHandle` holds `cap` entries. -/
def Registry.makeRoom (registry : Registry) : Registry :=
  if registry.cap ≤ registry.byHandle.keys.length then { registry with byHandle := ∅, byId := ∅ }
  else registry

/-- The next id, entered for `handle` in both tables. -/
def Registry.track (registry : Registry) (handle : ElementHandle) : AccessibleId × Registry :=
  (⟨registry.next⟩,
    { registry with
      byHandle := registry.byHandle.insert handle ⟨registry.next⟩
      byId := registry.byId.insert ⟨registry.next⟩ handle
      next := registry.next + 1 })

/-- The id of a handle, a new one at its first sighting. -/
def Registry.assign (registry : Registry) (handle : ElementHandle) : AccessibleId × Registry :=
  match registry.byHandle.lookup handle with
  | some id => (id, registry)
  | none => registry.makeRoom.track handle

def Registry.handleOf (registry : Registry) (id : AccessibleId) : Option ElementHandle :=
  registry.byId.lookup id

variable {registry : Registry} {handle : ElementHandle} {id : AccessibleId}

theorem assign_known (known : registry.byHandle.lookup handle = some id) :
    registry.assign handle = (id, registry) := by
  rw [Registry.assign, known]

theorem assign_fresh (fresh : registry.byHandle.lookup handle = none) :
    registry.assign handle = registry.makeRoom.track handle := by
  rw [Registry.assign, fresh]

@[simp] theorem make_room_next : registry.makeRoom.next = registry.next := by
  unfold Registry.makeRoom
  split <;> rfl

@[simp] theorem make_room_cap : registry.makeRoom.cap = registry.cap := by
  unfold Registry.makeRoom
  split <;> rfl

@[simp] theorem assign_cap : (registry.assign handle).2.cap = registry.cap := by
  unfold Registry.assign
  split
  · rfl
  · exact make_room_cap

/-! ## The ids ever assigned -/

/-- What holds of a registry and of the log of the assignments that made it. -/
structure Sound (registry : Registry) (issued : List (AccessibleId × ElementHandle)) : Prop where
  inverse : ∀ handle id,
    registry.byHandle.lookup handle = some id ↔ registry.byId.lookup id = some handle
  paired : registry.byHandle.keys.length = registry.byId.keys.length
  bounded : registry.byHandle.keys.length ≤ max registry.cap 1
  below : ∀ id handle, (id, handle) ∈ issued → id.val < registry.next
  single : ∀ id first second, (id, first) ∈ issued → (id, second) ∈ issued → first = second
  recorded : ∀ id handle, registry.byId.lookup id = some handle → (id, handle) ∈ issued

theorem Sound.new (cap : ℕ) : Sound (Registry.new cap) [] where
  inverse handle id := by
    simp [Registry.new]
  paired := rfl
  bounded := Nat.zero_le _
  below _ _ logged := absurd logged List.not_mem_nil
  single _ _ _ logged := absurd logged List.not_mem_nil
  recorded id handle found := by
    simp [Registry.new] at found

variable {issued : List (AccessibleId × ElementHandle)}

/-- The next id is in neither table. -/
theorem Sound.next_absent (sound : Sound registry issued) :
    registry.byId.lookup ⟨registry.next⟩ = none := by
  cases found : registry.byId.lookup ⟨registry.next⟩ with
  | none => rfl
  | some handle =>
    have := sound.below _ _ (sound.recorded _ _ found)
    exact absurd this (Nat.lt_irrefl _)

theorem Sound.makeRoom (sound : Sound registry issued) : Sound registry.makeRoom issued := by
  unfold Registry.makeRoom
  split
  · exact ⟨fun handle id => by simp [AList.lookup_empty], rfl, Nat.zero_le _, sound.below,
      sound.single, fun id handle found => by simp [AList.lookup_empty] at found⟩
  · exact sound

/-- After making room one more entry fits. -/
theorem make_room_fits (registry : Registry) :
    registry.makeRoom.byHandle.keys.length + 1 ≤ max registry.makeRoom.cap 1 := by
  unfold Registry.makeRoom
  split
  · simp
  · next space =>
    rw [not_le] at space
    exact Nat.le_trans space (Nat.le_max_left _ _)

theorem make_room_fresh (fresh : registry.byHandle.lookup handle = none) :
    registry.makeRoom.byHandle.lookup handle = none := by
  unfold Registry.makeRoom
  split
  · exact AList.lookup_empty _
  · exact fresh

theorem Sound.track (sound : Sound registry issued)
    (fits : registry.byHandle.keys.length + 1 ≤ max registry.cap 1)
    (fresh : registry.byHandle.lookup handle = none) :
    Sound (registry.track handle).2 (issued ++ [(⟨registry.next⟩, handle)]) where
  inverse other id := by
    simp only [Registry.track]
    by_cases sameHandle : other = handle <;> by_cases sameId : id = ⟨registry.next⟩
    · subst sameHandle sameId
      simp
    · subst sameHandle
      rw [AList.lookup_insert, AList.lookup_insert_ne sameId, Option.some.injEq,
        ← sound.inverse other id, fresh]
      constructor
      · intro same
        exact absurd same.symm sameId
      · intro found
        cases found
    · subst sameId
      rw [AList.lookup_insert, AList.lookup_insert_ne sameHandle, sound.inverse,
        sound.next_absent, Option.some.injEq]
      constructor
      · intro found
        cases found
      · intro same
        exact absurd same.symm sameHandle
    · rw [AList.lookup_insert_ne sameHandle, AList.lookup_insert_ne sameId]
      exact sound.inverse other id
  paired := by
    have newHandle : handle ∉ registry.byHandle := AList.lookup_eq_none.mp fresh
    have newId := AList.lookup_eq_none.mp sound.next_absent
    simp only [Registry.track, AList.keys_insert, List.length_cons]
    rw [List.erase_of_not_mem newHandle, List.erase_of_not_mem newId, sound.paired]
  bounded := by
    have newHandle : handle ∉ registry.byHandle := AList.lookup_eq_none.mp fresh
    simp only [Registry.track, AList.keys_insert, List.length_cons]
    rw [List.erase_of_not_mem newHandle]
    exact fits
  below id other logged := by
    rcases List.mem_append.mp logged with old | new
    · exact Nat.lt_succ_of_lt (sound.below id other old)
    · simp only [List.mem_singleton, Prod.mk.injEq] at new
      rw [new.1]
      exact Nat.lt_succ_self _
  single id first second one other := by
    -- The new id is above every logged one, so it is only ever paired with `handle`.
    rcases List.mem_append.mp one with one | one <;> rcases List.mem_append.mp other with other | other
    · exact sound.single id first second one other
    · have low := sound.below id first one
      simp only [List.mem_singleton, Prod.mk.injEq] at other
      rw [other.1] at low
      exact absurd low (Nat.lt_irrefl _)
    · have low := sound.below id second other
      simp only [List.mem_singleton, Prod.mk.injEq] at one
      rw [one.1] at low
      exact absurd low (Nat.lt_irrefl _)
    · simp only [List.mem_singleton, Prod.mk.injEq] at one other
      rw [one.2, other.2]
  recorded id other found := by
    simp only [Registry.track] at found
    by_cases same : id = ⟨registry.next⟩
    · subst same
      rw [AList.lookup_insert, Option.some.injEq] at found
      rw [found]
      exact List.mem_append_right _ (List.mem_singleton_self _)
    · rw [AList.lookup_insert_ne same] at found
      exact List.mem_append_left _ (sound.recorded id other found)

/-- What one assignment does to a sound registry. -/
theorem Sound.assign (sound : Sound registry issued) (handle : ElementHandle) :
    Sound (registry.assign handle).2 (issued ++ [((registry.assign handle).1, handle)]) := by
  cases known : registry.byHandle.lookup handle with
  | some id =>
    rw [assign_known known]
    have logged := sound.recorded id handle ((sound.inverse handle id).mp known)
    have same : ∀ pair, pair ∈ issued ++ [(id, handle)] ↔ pair ∈ issued := by
      intro pair
      rw [List.mem_append, List.mem_singleton]
      exact ⟨fun either => either.elim (fun old => old) (fun new => new ▸ logged), Or.inl⟩
    refine ⟨sound.inverse, sound.paired, sound.bounded, ?_, ?_, ?_⟩
    · exact fun id handle member => sound.below id handle ((same _).mp member)
    · exact fun id first second one other =>
        sound.single id first second ((same _).mp one) ((same _).mp other)
    · exact fun id handle found => (same _).mpr (sound.recorded id handle found)
  | none =>
    rw [assign_fresh known]
    exact sound.makeRoom.track (make_room_fits registry) (make_room_fresh known)

/-- The id just assigned resolves to its handle. -/
theorem Sound.assigned (sound : Sound registry issued) (handle : ElementHandle) :
    (registry.assign handle).2.handleOf (registry.assign handle).1 = some handle := by
  unfold Registry.handleOf
  cases known : registry.byHandle.lookup handle with
  | some id =>
    rw [assign_known known]
    exact (sound.inverse handle id).mp known
  | none =>
    rw [assign_fresh known]
    exact AList.lookup_insert _

/-! ## Assignment along a list of handles -/

/-- The ids of the handles in order. -/
def assignAll (registry : Registry) : List ElementHandle → List AccessibleId × Registry
  | [] => ([], registry)
  | handle :: rest =>
    ((registry.assign handle).1 :: (assignAll (registry.assign handle).2 rest).1,
      (assignAll (registry.assign handle).2 rest).2)

theorem assign_all_append (registry : Registry) (first second : List ElementHandle) :
    assignAll registry (first ++ second) =
      ((assignAll registry first).1 ++ (assignAll (assignAll registry first).2 second).1,
        (assignAll (assignAll registry first).2 second).2) := by
  induction first generalizing registry with
  | nil => rfl
  | cons handle rest ih =>
    simp only [List.cons_append, assignAll]
    rw [ih]

theorem assign_all_length (registry : Registry) (handles : List ElementHandle) :
    (assignAll registry handles).1.length = handles.length := by
  induction handles generalizing registry with
  | nil => rfl
  | cons handle rest ih => exact congrArg (· + 1) (ih _)

theorem assign_all_cap (registry : Registry) (handles : List ElementHandle) :
    (assignAll registry handles).2.cap = registry.cap := by
  induction handles generalizing registry with
  | nil => rfl
  | cons handle rest ih => exact (ih _).trans assign_cap

theorem Sound.assigned_all (sound : Sound registry issued) (handles : List ElementHandle) :
    Sound (assignAll registry handles).2 (issued ++ (assignAll registry handles).1.zip handles) := by
  induction handles generalizing registry issued with
  | nil => exact (List.append_nil issued).symm ▸ sound
  | cons handle rest ih =>
    have later := ih (sound.assign handle)
    rw [List.append_assoc] at later
    exact later

/-! ## Which ids are still known at the end -/

/-- The handles a registry tracks. -/
def Registry.tracked (registry : Registry) : Finset ElementHandle := registry.byHandle.keys.toFinset

theorem mem_tracked :
    handle ∈ registry.tracked ↔ registry.byHandle.lookup handle ≠ none := by
  rw [Registry.tracked, List.mem_toFinset, ← AList.mem_keys, Ne, AList.lookup_eq_none, not_not]

theorem tracked_card (registry : Registry) :
    registry.tracked.card = registry.byHandle.keys.length :=
  List.toFinset_card_of_nodup registry.byHandle.keys_nodup

theorem tracked_known (known : registry.byHandle.lookup handle ≠ none) :
    (registry.assign handle).2 = registry := by
  obtain ⟨id, found⟩ := Option.ne_none_iff_exists'.mp known
  rw [assign_known found]

theorem tracked_full (fresh : registry.byHandle.lookup handle = none)
    (full : registry.cap ≤ registry.tracked.card) :
    (registry.assign handle).2.tracked = {handle} := by
  rw [tracked_card] at full
  rw [assign_fresh fresh, Registry.makeRoom, if_pos full]
  rfl

theorem tracked_entered (fresh : registry.byHandle.lookup handle = none)
    (space : registry.tracked.card < registry.cap) :
    (registry.assign handle).2.tracked = insert handle registry.tracked := by
  have newHandle : handle ∉ registry.byHandle := AList.lookup_eq_none.mp fresh
  rw [tracked_card, ← not_le] at space
  rw [assign_fresh fresh, Registry.makeRoom, if_neg space]
  unfold Registry.tracked Registry.track
  rw [AList.keys_insert, List.erase_of_not_mem newHandle, List.toFinset_cons]

/-- Without a clearing, what resolved still does. -/
theorem handle_of_kept (sound : Sound registry issued)
    (kept : registry.byHandle.lookup handle ≠ none ∨ registry.tracked.card < registry.cap)
    {other : ElementHandle} (found : registry.handleOf id = some other) :
    (registry.assign handle).2.handleOf id = some other := by
  by_cases known : registry.byHandle.lookup handle = none
  · have space := kept.resolve_left (absurd known)
    rw [tracked_card, ← not_le] at space
    have old := sound.below id other (sound.recorded id other found)
    have differs : id ≠ ⟨registry.next⟩ := by
      rintro rfl
      exact absurd old (Nat.lt_irrefl _)
    rw [assign_fresh known, Registry.makeRoom, if_neg space]
    exact (AList.lookup_insert_ne differs).trans found
  · rw [tracked_known known]
    exact found

/-- What resolves to nothing and was issued never resolves again. -/
theorem handle_of_lost (handle : ElementHandle) (old : id.val < registry.next)
    (lost : registry.handleOf id = none) :
    id.val < (registry.assign handle).2.next ∧
      (registry.assign handle).2.handleOf id = none := by
  by_cases known : registry.byHandle.lookup handle = none
  · have differs : id ≠ ⟨registry.makeRoom.next⟩ := by
      rintro rfl
      rw [make_room_next] at old
      exact absurd old (Nat.lt_irrefl _)
    rw [assign_fresh known]
    refine ⟨?_, (AList.lookup_insert_ne differs).trans ?_⟩
    · show id.val < registry.makeRoom.next + 1
      rw [make_room_next]
      omega
    · unfold Registry.makeRoom
      split
      · exact AList.lookup_empty _
      · exact lost
  · rw [tracked_known known]
    exact ⟨old, lost⟩

theorem handle_of_lost_all (handles : List ElementHandle) (old : id.val < registry.next)
    (lost : registry.handleOf id = none) : (assignAll registry handles).2.handleOf id = none := by
  induction handles generalizing registry with
  | nil => exact lost
  | cons handle rest ih =>
    obtain ⟨older, stillLost⟩ := handle_of_lost handle old lost
    exact ih older stillLost

/-- When the tracked handles and the listed ones fit together, the first listed one empties
nothing and the others fit beside what is tracked then. -/
theorem fits_next {rest : List ElementHandle}
    (fits : (registry.tracked ∪ (handle :: rest).toFinset).card ≤ registry.cap) :
    (registry.byHandle.lookup handle ≠ none ∨ registry.tracked.card < registry.cap) ∧
      ((registry.assign handle).2.tracked ∪ rest.toFinset).card ≤
        (registry.assign handle).2.cap := by
  rw [List.toFinset_cons] at fits
  rw [assign_cap]
  by_cases fresh : registry.byHandle.lookup handle = none
  · have outside : handle ∉ registry.tracked := fun member => mem_tracked.mp member fresh
    have space : registry.tracked.card < registry.cap := by
      refine Nat.lt_of_lt_of_le (Finset.card_lt_card ⟨Finset.subset_union_left, ?_⟩) fits
      intro subset
      exact outside (subset (Finset.mem_union_right _ (Finset.mem_insert_self _ _)))
    rw [tracked_entered fresh space, Finset.insert_union, ← Finset.union_insert]
    exact ⟨Or.inr space, fits⟩
  · have member : handle ∈ registry.tracked := mem_tracked.mpr fresh
    rw [Finset.union_insert, Finset.insert_eq_self.mpr (Finset.mem_union_left _ member)] at fits
    rw [tracked_known fresh]
    exact ⟨Or.inl fresh, fits⟩

/-- What resolved before still does once all fitting handles are entered. -/
theorem fits_kept (handles : List ElementHandle) (sound : Sound registry issued)
    (fits : (registry.tracked ∪ handles.toFinset).card ≤ registry.cap)
    {other : ElementHandle} (found : registry.handleOf id = some other) :
    (assignAll registry handles).2.handleOf id = some other := by
  induction handles generalizing registry issued with
  | nil => exact found
  | cons handle rest ih =>
    obtain ⟨kept, later⟩ := fits_next fits
    exact ih (sound.assign handle) later (handle_of_kept sound kept found)

/-- When they do not fit, everything that resolved before is lost. -/
theorem overflow_lost (handles : List ElementHandle) (sound : Sound registry issued)
    (within : registry.tracked.card ≤ registry.cap)
    (crowded : registry.cap < (registry.tracked ∪ handles.toFinset).card)
    (old : id.val < registry.next) : (assignAll registry handles).2.handleOf id = none := by
  induction handles generalizing registry issued with
  | nil =>
    rw [List.toFinset_nil, Finset.union_empty] at crowded
    omega
  | cons handle rest ih =>
    rw [List.toFinset_cons] at crowded
    by_cases fresh : registry.byHandle.lookup handle = none
    · by_cases space : registry.tracked.card < registry.cap
      · have entered := tracked_entered fresh space
        have outside : handle ∉ registry.tracked := fun member => mem_tracked.mp member fresh
        have later : id.val < (registry.assign handle).2.next := by
          rw [assign_fresh fresh]
          show id.val < registry.makeRoom.next + 1
          rw [make_room_next]
          omega
        refine ih (sound.assign handle) ?_ ?_ later
        · rw [entered, Finset.card_insert_of_notMem outside, assign_cap]
          exact space
        · rw [entered, assign_cap, Finset.insert_union, ← Finset.union_insert]
          exact crowded
      · -- The table is emptied here.
        have full : registry.cap ≤ registry.byHandle.keys.length := by
          rw [← tracked_card]
          exact not_lt.mp space
        have differs : id ≠ ⟨registry.next⟩ := by
          rintro rfl
          exact absurd old (Nat.lt_irrefl _)
        refine handle_of_lost_all rest ?_ ?_
        · rw [assign_fresh fresh]
          show id.val < registry.makeRoom.next + 1
          rw [make_room_next]
          omega
        · rw [assign_fresh fresh, Registry.makeRoom, if_pos full]
          exact (AList.lookup_insert_ne differs).trans (AList.lookup_empty _)
    · have member : handle ∈ registry.tracked := mem_tracked.mpr fresh
      have same := tracked_known fresh
      rw [Finset.union_insert, Finset.insert_eq_self.mpr (Finset.mem_union_left _ member)] at crowded
      refine ih (sound.assign handle) ?_ ?_ ?_
      · rw [same]
        exact within
      · rw [same]
        exact crowded
      · rw [same]
        exact old

theorem fits_all (handles : List ElementHandle) (sound : Sound registry issued)
    (fits : (registry.tracked ∪ handles.toFinset).card ≤ registry.cap) :
    ∀ pair ∈ (assignAll registry handles).1.zip handles,
      (assignAll registry handles).2.handleOf pair.1 = some pair.2 := by
  induction handles generalizing registry issued with
  | nil => exact fun pair member => absurd member List.not_mem_nil
  | cons handle rest ih =>
    obtain ⟨_, later⟩ := fits_next fits
    intro pair member
    rcases List.mem_cons.mp member with rfl | inside
    · exact fits_kept rest (sound.assign handle) later (sound.assigned handle)
    · exact ih (sound.assign handle) later pair inside

/-- Every id handed out is known for its handle, and handles apart have ids apart. -/
def Usable (registry : Registry) (pairs : List (AccessibleId × ElementHandle)) : Prop :=
  (∀ pair ∈ pairs, registry.handleOf pair.1 = some pair.2) ∧
    ∀ first ∈ pairs, ∀ second ∈ pairs, first.2 ≠ second.2 → first.1 ≠ second.1

/-- The handles of a request fit beside the tracked ones, or the first of them empties the
table. -/
def Room (registry : Registry) (handles : List ElementHandle) : Prop :=
  handles = [] ∨ (registry.tracked ∪ handles.toFinset).card ≤ registry.cap ∨
    (registry.cap ≤ registry.tracked.card ∧ ∃ first ∈ handles.head?, first ∉ registry.tracked)

/-- Whether the handles after the first fit beside what is tracked then. -/
theorem room_cons {rest : List ElementHandle}
    (few : (handle :: rest).toFinset.card ≤ registry.cap) :
    Room registry (handle :: rest) ↔
      ((registry.assign handle).2.tracked ∪ rest.toFinset).card ≤ registry.cap := by
  unfold Room
  rw [List.toFinset_cons] at few ⊢
  simp only [reduceCtorEq, false_or, List.head?_cons, Option.mem_some_iff, exists_eq_left']
  by_cases fresh : registry.byHandle.lookup handle = none
  · have outside : handle ∉ registry.tracked := fun member => mem_tracked.mp member fresh
    by_cases space : registry.tracked.card < registry.cap
    · rw [tracked_entered fresh space, Finset.insert_union, ← Finset.union_insert]
      have notFull : ¬ registry.cap ≤ registry.tracked.card := by omega
      simp only [notFull, false_and, or_false]
    · rw [tracked_full fresh (not_lt.mp space), Finset.singleton_union]
      exact ⟨fun _ => few, fun _ => Or.inr ⟨not_lt.mp space, outside⟩⟩
  · have member : handle ∈ registry.tracked := mem_tracked.mpr fresh
    rw [tracked_known fresh, Finset.union_insert,
      Finset.insert_eq_self.mpr (Finset.mem_union_left _ member)]
    simp only [member, not_true, and_false, or_false]

/-- The ids of one request are usable exactly when its handles found room. -/
theorem usable_iff (sound : Sound registry issued) (handles : List ElementHandle)
    (few : handles.toFinset.card ≤ registry.cap) :
    Usable (assignAll registry handles).2 ((assignAll registry handles).1.zip handles) ↔
      Room registry handles := by
  cases handles with
  | nil => simp [Usable, Room, assignAll]
  | cons handle rest =>
    have after := sound.assign handle
    have assigned := sound.assigned handle
    rw [room_cons few]
    constructor
    · intro usable
      by_contra crowded
      have atLeastOne : 1 ≤ registry.cap := by
        refine Nat.le_trans (Finset.card_pos.mpr ⟨handle, ?_⟩) few
        rw [List.toFinset_cons]
        exact Finset.mem_insert_self _ _
      have within : (registry.assign handle).2.tracked.card ≤ (registry.assign handle).2.cap := by
        have bounded := after.bounded
        rw [← tracked_card, assign_cap] at bounded
        rw [assign_cap]
        omega
      have old := after.below _ handle (List.mem_append_right _ (List.mem_singleton_self _))
      have lost := overflow_lost rest after within (by rw [assign_cap]; omega) old
      have known := usable.1 ((registry.assign handle).1, handle) List.mem_cons_self
      exact absurd (lost.symm.trans known) (Option.some_ne_none _).symm
    · intro fits
      have cap : (registry.assign handle).2.cap = registry.cap := assign_cap
      rw [← cap] at fits
      have resolves : ∀ pair ∈ (assignAll registry (handle :: rest)).1.zip (handle :: rest),
          (assignAll registry (handle :: rest)).2.handleOf pair.1 = some pair.2 := by
        intro pair member
        rcases List.mem_cons.mp member with rfl | inside
        · exact fits_kept rest after fits assigned
        · exact fits_all rest after fits pair inside
      refine ⟨resolves, fun first one second other apart same => apart ?_⟩
      have firstKnown := resolves first one
      rw [same, resolves second other, Option.some.injEq] at firstKnown
      exact firstKnown.symm

end ADesk.A11y.Elements
