/- ADesk/Foundation/FifoGate
   digest: A fair lock as the list of its holder and its waiters, and logs whose keys stand in
   blocks. -/

import ADesk.Foundation.LogCut
import Mathlib.Data.List.Basic

set_option autoImplicit false

namespace ADesk.Foundation.FifoGate

variable {τ : Type}

/-! ## The lock -/

/-- The head holds the lock; the others wait in the order in which they asked for it. -/
structure Gate (τ : Type) where
  queue : List τ

namespace Gate

def empty : Gate τ := ⟨[]⟩

def holder (gate : Gate τ) : Option τ := gate.queue.head?

/-- Asks for the lock; a free lock is taken at once. -/
def enter (gate : Gate τ) (ticket : τ) : Gate τ := ⟨gate.queue ++ [ticket]⟩

theorem queue_of_holder {gate : Gate τ} {ticket : τ} (holds : gate.holder = some ticket) :
    ∃ waiting, gate.queue = ticket :: waiting := by
  unfold holder at holds
  cases queue : gate.queue with
  | nil =>
    rw [queue] at holds
    cases holds
  | cons head waiting =>
    rw [queue] at holds
    cases holds
    exact ⟨waiting, rfl⟩

/-- Nobody takes the lock from its holder. -/
theorem enter_holder {gate : Gate τ} {ticket : τ} (holds : gate.holder = some ticket)
    (other : τ) : (gate.enter other).holder = some ticket := by
  obtain ⟨waiting, queue⟩ := queue_of_holder holds
  rw [holder, enter, queue]
  rfl

variable [DecidableEq τ]

/-- Gives the lock up, or stops waiting for it. -/
def leave (gate : Gate τ) (ticket : τ) : Gate τ := ⟨gate.queue.erase ticket⟩

theorem leave_sublist (gate : Gate τ) (ticket : τ) :
    (gate.leave ticket).queue.Sublist gate.queue :=
  List.erase_sublist

theorem leave_holder {gate : Gate τ} {ticket other : τ} (holds : gate.holder = some ticket)
    (differs : other ≠ ticket) : (gate.leave other).holder = some ticket := by
  obtain ⟨waiting, queue⟩ := queue_of_holder holds
  have kept : (ticket :: waiting).erase other = ticket :: waiting.erase other :=
    List.erase_cons_tail (by simpa using Ne.symm differs)
  rw [holder, leave, queue, kept]
  rfl

end Gate

/-! ## Logs in blocks -/

variable {κ α : Type}

/-- Between two entries of one key there are only entries of that key. -/
def Contiguous (key : α → κ) (log : List α) : Prop :=
  ∀ before between after first last, log = before ++ first :: (between ++ last :: after) →
    key first = key last → ∀ entry ∈ between, key entry = key first

/-- The entries of the key are the end of the log. -/
def Current (key : α → κ) (value : κ) (log : List α) : Prop :=
  ∃ earlier own, log = earlier ++ own ∧ (∀ entry ∈ own, key entry = value) ∧
    ∀ entry ∈ earlier, key entry ≠ value

theorem contiguous_nil (key : α → κ) : Contiguous key [] := by
  intro before between after first last split
  have lengths := congrArg List.length split
  simp at lengths

theorem current_of_absent {key : α → κ} {value : κ} {log : List α}
    (absent : ∀ entry ∈ log, key entry ≠ value) : Current key value log :=
  ⟨log, [], (List.append_nil log).symm, by simp, absent⟩

theorem Current.append {key : α → κ} {value : κ} {log : List α} (current : Current key value log)
    {entry : α} (same : key entry = value) : Current key value (log ++ [entry]) := by
  obtain ⟨earlier, own, rfl, owned, others⟩ := current
  refine ⟨earlier, own ++ [entry], List.append_assoc .., ?_, others⟩
  intro other member
  rcases List.mem_append.mp member with old | new
  · exact owned other old
  · rw [List.mem_singleton.mp new]
    exact same

/-- A log in blocks stays one when the key of the new entry is current. -/
theorem contiguous_append {key : α → κ} {log : List α} (blocks : Contiguous key log) {entry : α}
    (current : Current key (key entry) log) : Contiguous key (log ++ [entry]) := by
  intro before between after first last split same other inside
  rw [← List.cons_append, ← List.append_assoc] at split
  rcases LogCut.split_append split with ⟨_, old, rfl⟩ | ⟨kept, _, old⟩
  · -- the last entry of the block is the new one
    obtain ⟨earlier, own, parts, owned, others⟩ := current
    have located : earlier.length ≤ before.length := by
      by_contra long
      have position : before.length < earlier.length := Nat.lt_of_not_le long
      have found : first ∈ earlier := by
        have at_log : log[before.length]? = some first := by
          rw [old]
          simp
        rw [parts, List.getElem?_append_left position] at at_log
        exact List.mem_of_getElem? at_log
      exact others first found same
    have tail : own = (before ++ first :: between).drop earlier.length := by
      rw [← old, parts, List.drop_left]
    have member : other ∈ own := by
      rw [tail, List.drop_append_of_le_length located]
      exact List.mem_append_right _ (List.mem_cons_of_mem _ inside)
    rw [owned other member, same]
  · rw [List.append_assoc, List.cons_append] at old
    exact blocks before between kept first last old same other inside

/-- A log whose keys never decrease is in blocks. -/
theorem contiguous_of_sorted {key : α → ℕ} {log : List α}
    (sorted : (log.map key).Pairwise (· ≤ ·)) : Contiguous key log := by
  intro before between after first last split same other inside
  rw [split, List.map_append, List.map_cons, List.pairwise_append, List.pairwise_cons] at sorted
  obtain ⟨_, ⟨above, rest⟩, _⟩ := sorted
  rw [List.map_append, List.map_cons, List.pairwise_append] at rest
  have low : key first ≤ key other :=
    above _ (List.mem_map_of_mem (List.mem_append_left _ inside))
  have high : key other ≤ key last :=
    rest.2.2 _ (List.mem_map_of_mem inside) _ List.mem_cons_self
  exact Nat.le_antisymm (same ▸ high) low

end ADesk.Foundation.FifoGate
