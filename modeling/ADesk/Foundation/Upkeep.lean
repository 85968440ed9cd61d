/- ADesk/Foundation/Upkeep
   digest: A cache of a table that calls in flight keep up: what each entry owes to a call that is
   still to write it, and how one step of one call carries this on. -/

import Mathlib.Data.List.Basic
import ADesk.Foundation.Entries

set_option autoImplicit false

namespace ADesk.Foundation.Upkeep

open ADesk.Foundation.Entries (set_entry append_entry)

universe u v w

/-! ## What the calls in flight still do -/

section Pending

variable {ρ : Type w}

/-- Some call is still to do it. -/
def Pending (calls : List ρ) (does : ρ → Prop) : Prop :=
  ∃ (ticket : ℕ) (call : ρ), calls[ticket]? = some call ∧ does call

/-- Some call other than the one with this ticket is still to do it. -/
def Elsewhere (calls : List ρ) (ticket : ℕ) (does : ρ → Prop) : Prop :=
  ∃ (other : ℕ) (call : ρ), other ≠ ticket ∧ calls[other]? = some call ∧ does call

variable {calls : List ρ} {ticket : ℕ} {call next : ρ} {does : ρ → Prop}

theorem Elsewhere.pending (elsewhere : Elsewhere calls ticket does) : Pending calls does := by
  obtain ⟨other, call, -, present, doing⟩ := elsewhere
  exact ⟨other, call, present, doing⟩

theorem pending_iff (present : calls[ticket]? = some call) :
    Pending calls does ↔ does call ∨ Elsewhere calls ticket does := by
  constructor
  · rintro ⟨other, found, there, doing⟩
    by_cases same : other = ticket
    · subst same
      obtain rfl := Option.some.inj (present.symm.trans there)
      exact Or.inl doing
    · exact Or.inr ⟨other, found, same, there, doing⟩
  · rintro (doing | elsewhere)
    · exact ⟨ticket, call, present, doing⟩
    · exact elsewhere.pending

theorem pending_set (present : calls[ticket]? = some call) :
    Pending (calls.set ticket next) does ↔ does next ∨ Elsewhere calls ticket does := by
  constructor
  · rintro ⟨other, found, there, doing⟩
    rcases (set_entry present other found).mp there with ⟨-, rfl⟩ | ⟨apart, kept⟩
    · exact Or.inl doing
    · exact Or.inr ⟨other, found, apart, kept, doing⟩
  · rintro (doing | ⟨other, found, apart, kept, doing⟩)
    · exact ⟨ticket, next, (set_entry present ticket next).mpr (Or.inl ⟨rfl, rfl⟩), doing⟩
    · exact ⟨other, found, (set_entry present other found).mpr (Or.inr ⟨apart, kept⟩), doing⟩

theorem Pending.append (pending : Pending calls does) (fresh : ρ) :
    Pending (calls ++ [fresh]) does := by
  obtain ⟨other, found, there, doing⟩ := pending
  exact ⟨other, found, (append_entry calls fresh other found).mpr (Or.inl there), doing⟩

end Pending

/-! ## A cache and the table it stands for -/

section Cache

variable {κ : Type u} {ι : Type v} {ρ : Type w}

/-- A table, the cache of it, the entries the cache answers for and those it has given up. -/
structure Books (κ : Type u) (ι : Type v) where
  truth : κ → Option ι
  cache : κ → Option ι
  mine : ι → Prop
  gone : ι → Prop

variable {brings clears : ρ → κ → ι → Prop} {before after : Books κ ι} {calls : List ρ}

/-- Every entry to answer for is cached or about to be, and every cached entry that was given up
is about to be cleared. -/
structure Upheld (brings clears : ρ → κ → ι → Prop) (books : Books κ ι) (calls : List ρ) :
    Prop where
  known : ∀ {key id}, books.truth key = some id → books.mine id →
    books.cache key = some id ∨ Pending calls fun call => brings call key id
  current : ∀ {key id}, books.cache key = some id → books.gone id →
    Pending calls fun call => clears call key id

/-- When no call is about to write, the cache has exactly the entries to answer for. -/
theorem Upheld.settled (upheld : Upheld brings clears before calls)
    (rest : ∀ (ticket : ℕ) (call : ρ), calls[ticket]? = some call →
      (∀ key id, ¬ brings call key id) ∧ ∀ key id, ¬ clears call key id) (key : κ) (id : ι) :
    (before.truth key = some id → before.mine id → before.cache key = some id) ∧
      (before.cache key = some id → ¬ before.gone id) := by
  constructor
  · intro there own
    rcases upheld.known there own with cached | ⟨ticket, call, present, doing⟩
    · exact cached
    · exact absurd doing ((rest ticket call present).1 key id)
  · intro cached lost
    obtain ⟨ticket, call, present, doing⟩ := upheld.current cached lost
    exact (rest ticket call present).2 key id doing

/-- One call takes a step: it is enough to look at that call, its successor and what the other
calls are about to do. -/
theorem Upheld.advance (upheld : Upheld brings clears before calls) {ticket : ℕ} {call next : ρ}
    (present : calls[ticket]? = some call)
    (known : ∀ key id, after.truth key = some id → after.mine id →
      (before.truth key = some id → before.mine id → before.cache key = some id ∨
        brings call key id ∨ Elsewhere calls ticket fun other => brings other key id) →
      after.cache key = some id ∨ brings next key id ∨
        Elsewhere calls ticket fun other => brings other key id)
    (current : ∀ key id, after.cache key = some id → after.gone id →
      (before.cache key = some id → before.gone id → clears call key id ∨
        Elsewhere calls ticket fun other => clears other key id) →
      clears next key id ∨ Elsewhere calls ticket fun other => clears other key id) :
    Upheld brings clears after (calls.set ticket next) where
  known {key id} there own := by
    rcases known key id there own fun before' own' =>
      (upheld.known before' own').imp_right (pending_iff present).mp with cached | doing
    · exact Or.inl cached
    · exact Or.inr ((pending_set present).mpr doing)
  current {key id} cached lost :=
    (pending_set present).mpr (current key id cached lost fun cached' lost' =>
      (pending_iff present).mp (upheld.current cached' lost'))

/-- A call that changes nothing but itself. -/
theorem Upheld.idle (upheld : Upheld brings clears before calls) {ticket : ℕ} {call next : ρ}
    (present : calls[ticket]? = some call)
    (brought : ∀ key id, before.truth key = some id → before.mine id → brings call key id →
      before.cache key = some id ∨ brings next key id ∨
        Elsewhere calls ticket fun other => brings other key id)
    (cleared : ∀ key id, clears call key id → clears next key id) :
    Upheld brings clears before (calls.set ticket next) := by
  refine upheld.advance present (fun key id there own owed => ?_) fun key id cached lost owed => ?_
  · rcases owed there own with cached | doing | elsewhere
    · exact Or.inl cached
    · exact brought key id there own doing
    · exact Or.inr (Or.inr elsewhere)
  · exact (owed cached lost).imp_left (cleared key id)

/-- A new call owes nothing yet. -/
theorem Upheld.begun (upheld : Upheld brings clears before calls) (fresh : ρ) :
    Upheld brings clears before (calls ++ [fresh]) where
  known there own := (upheld.known there own).imp_right fun pending => pending.append fresh
  current cached lost := (upheld.current cached lost).append fresh

/-- The table changes under the cache: nothing to answer for appears. -/
theorem Upheld.shifted (upheld : Upheld brings clears before calls)
    (truth : ∀ {key id}, after.truth key = some id → after.mine id →
      before.truth key = some id ∧ before.mine id)
    (cache : after.cache = before.cache) (gone : after.gone = before.gone) :
    Upheld brings clears after calls where
  known there own := by
    rw [cache]
    exact upheld.known (truth there own).1 (truth there own).2
  current cached lost := upheld.current (cache ▸ cached) (gone ▸ lost)

end Cache

end ADesk.Foundation.Upkeep
