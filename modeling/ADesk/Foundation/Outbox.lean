/- ADesk/Foundation/Outbox
   digest: Writers that commit a change first and publish its event later, and what the stream
   of published events has of the changes. -/

import ADesk.Foundation.LogCut
import ADesk.Foundation.Tally

set_option autoImplicit false

namespace ADesk.Foundation.Outbox

open ADesk.Foundation.LogCut
open ADesk.Foundation.Tally

variable {ε κ : Type}

/-! ## What was committed -/

/-- The committed events are the published ones and those that writers still hold. -/
def Commits (held : ℕ → Option ε) (stream : List ε) (committed : Multiset ε) : Prop :=
  ∃ waiting, Holders held waiting ∧ committed = stream + waiting

variable {held : ℕ → Option ε} {stream : List ε} {committed : Multiset ε}

theorem commits_nothing : Commits (fun _ => (none : Option ε)) [] 0 :=
  ⟨0, holders_empty, rfl⟩

/-- A writer commits a change and holds its event. -/
theorem Commits.hold (commits : Commits held stream committed) {writer : ℕ}
    (free : held writer = none) (event : ε) :
    Commits (Function.update held writer (some event)) stream (event ::ₘ committed) := by
  obtain ⟨waiting, holders, rfl⟩ := commits
  exact ⟨event ::ₘ waiting, holders.take free event, (Multiset.add_cons event _ _).symm⟩

/-- Publishing a held event commits nothing. -/
theorem Commits.publish (commits : Commits held stream committed) {writer : ℕ} {event : ε}
    (holds : held writer = some event) :
    Commits (Function.update held writer none) (stream ++ [event]) committed := by
  obtain ⟨waiting, holders, rfl⟩ := commits
  obtain ⟨rest, rfl, given⟩ := holders.give holds
  refine ⟨rest, given, ?_⟩
  rw [← Multiset.coe_add, Multiset.coe_singleton, Multiset.add_assoc, Multiset.singleton_add]

/-- An event that is published at once. -/
theorem Commits.send (commits : Commits held stream committed) (event : ε) :
    Commits held (stream ++ [event]) (event ::ₘ committed) := by
  obtain ⟨waiting, holders, rfl⟩ := commits
  refine ⟨waiting, holders, ?_⟩
  rw [← Multiset.coe_add, Multiset.coe_singleton, ← Multiset.singleton_add, ← Multiset.add_assoc,
    Multiset.add_comm {event}]

theorem Commits.mem_held (commits : Commits held stream committed) {writer : ℕ} {event : ε}
    (holds : held writer = some event) : event ∈ committed := by
  obtain ⟨waiting, holders, rfl⟩ := commits
  exact Multiset.mem_add.mpr (.inr ((holders.mem event).mpr ⟨writer, holds⟩))

/-- A committed event that nobody holds is published. -/
theorem Commits.published (commits : Commits held stream committed) {event : ε}
    (inside : event ∈ committed) (unheld : ∀ writer, held writer ≠ some event) :
    event ∈ stream := by
  obtain ⟨waiting, holders, rfl⟩ := commits
  rcases Multiset.mem_add.mp inside with sent | waits
  · exact Multiset.mem_coe.mp sent
  · obtain ⟨writer, holds⟩ := (holders.mem event).mp waits
    exact absurd holds (unheld writer)

/-- Where nobody holds an event of a kind, the stream has all the committed events of it. -/
theorem Commits.settled (commits : Commits held stream committed) (kind : ε → Prop)
    [DecidablePred kind] (unheld : ∀ writer event, held writer = some event → ¬ kind event) :
    (stream.filter kind : Multiset ε) = committed.filter kind := by
  obtain ⟨waiting, holders, rfl⟩ := commits
  have none_waits : waiting.filter kind = 0 := by
    refine Multiset.filter_eq_nil.mpr fun event waits => ?_
    obtain ⟨writer, holds⟩ := (holders.mem event).mp waits
    exact unheld writer event holds
  rw [Multiset.filter_add, none_waits, Multiset.add_zero]
  exact (Multiset.filter_coe kind stream).symm

/-- While the one committed event of a kind is held, the stream has none. -/
theorem Commits.unpublished (commits : Commits held stream committed) (kind : ε → Prop)
    [DecidablePred kind] {event other : ε} (one : committed.filter kind = {event}) {writer : ℕ}
    (holds : held writer = some other) (same : kind other) : ∀ sent ∈ stream, ¬ kind sent := by
  obtain ⟨waiting, holders, rfl⟩ := commits
  have waits : other ∈ waiting.filter kind :=
    Multiset.mem_filter.mpr ⟨(holders.mem other).mpr ⟨writer, holds⟩, same⟩
  intro sent inside match_
  have published : sent ∈ (stream : Multiset ε).filter kind :=
    Multiset.mem_filter.mpr ⟨Multiset.mem_coe.mpr inside, match_⟩
  have counted := congrArg Multiset.card one
  rw [Multiset.filter_add, Multiset.card_add, Multiset.card_singleton] at counted
  have first := Multiset.card_pos_iff_exists_mem.mpr ⟨sent, published⟩
  have second := Multiset.card_pos_iff_exists_mem.mpr ⟨other, waits⟩
  omega

/-! ## Which event comes first -/

/-- Every event about a subject comes after one that opens the subject. -/
def Opened (opens about : κ → ε → Prop) (stream : List ε) : Prop :=
  ∀ subject before event after, stream = before ++ event :: after → about subject event →
    ∃ opening ∈ before, opens subject opening

theorem opened_nil (opens about : κ → ε → Prop) : Opened opens about [] := by
  intro subject before event after split
  simp at split

theorem Opened.append {opens about : κ → ε → Prop} (opened : Opened opens about stream) {last : ε}
    (new : ∀ subject, about subject last → ∃ opening ∈ stream, opens subject opening) :
    Opened opens about (stream ++ [last]) := by
  intro subject before event after split concerns
  rcases split_append split with ⟨_, rfl, rfl⟩ | ⟨kept, _, old⟩
  · exact new subject concerns
  · exact opened subject before event kept old concerns

/-- The last event about a subject comes after one that opens it. -/
theorem Opened.last {opens about : κ → ε → Prop} {last : ε}
    (opened : Opened opens about (stream ++ [last])) {subject : κ} (concerns : about subject last) :
    ∃ opening ∈ stream, opens subject opening :=
  opened subject stream last [] rfl concerns

end ADesk.Foundation.Outbox
