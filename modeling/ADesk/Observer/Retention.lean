/- ADesk/Observer/Retention
   digest: The event journal over whole runs of pushes and prunes: what it retains is the end of
   what was pushed, and the two counters account for the rest. -/

import ADesk.Observer.Journal

set_option autoImplicit false

namespace ADesk.Observer.Retention

open ADesk.Observer.Journal
open ADesk.Foundation.KeyedLog

/-! ## A log that loses its front -/

/-- Everything that was ever logged, and how many of the oldest entries are gone. -/
structure History (β : Type) where
  logged : List β
  gone : ℕ
  within : gone ≤ logged.length

namespace History

variable {β : Type}

def retained (history : History β) : List β := history.logged.drop history.gone

def empty : History β := ⟨[], 0, Nat.le_refl 0⟩

/-- One more entry is logged, and all but the newest `capacity` entries are gone. -/
def log (capacity : ℕ) (history : History β) (entry : β) : History β where
  logged := history.logged ++ [entry]
  gone := max history.gone ((history.logged ++ [entry]).length - capacity)
  within := by
    have before := history.within
    simp only [List.length_append, List.length_singleton]
    omega

/-- The oldest entries go, as long as they are unwanted. -/
def forget (unwanted : β → Bool) (history : History β) : History β where
  logged := history.logged
  gone := history.gone + (history.retained.takeWhile unwanted).length
  within := by
    have before := history.within
    have front := (List.takeWhile_prefix (l := history.retained) unwanted).length_le
    unfold retained at front ⊢
    rw [List.length_drop] at front
    omega

theorem retained_length (history : History β) :
    history.retained.length + history.gone = history.logged.length := by
  have before := history.within
  unfold retained
  rw [List.length_drop]
  omega

theorem retained_forget (unwanted : β → Bool) (history : History β) :
    (history.forget unwanted).retained = history.retained.dropWhile unwanted := by
  change history.logged.drop (history.gone + (history.retained.takeWhile unwanted).length) = _
  rw [← List.drop_drop]
  conv_lhs =>
    arg 2
    change history.retained
    rw [← List.takeWhile_append_dropWhile (p := unwanted) (l := history.retained)]
  rw [List.drop_left]

/-- A buffer within its capacity loses at most one entry to a new one. -/
theorem retained_log {capacity : ℕ} {history : History β}
    (fits : history.retained.length ≤ capacity) (entry : β) :
    (history.log capacity entry).retained = pushBounded capacity history.retained entry := by
  have total := history.retained_length
  have before := history.within
  have whole : (history.logged ++ [entry]).drop history.gone = history.retained ++ [entry] := by
    unfold retained
    rw [List.drop_append_of_le_length before]
  unfold pushBounded
  rw [← whole]
  change (history.logged ++ [entry]).drop
    (max history.gone ((history.logged ++ [entry]).length - capacity)) = _
  have long : ((history.logged ++ [entry]).drop history.gone).length =
      history.retained.length + 1 := by
    rw [whole, List.length_append, List.length_singleton]
  rw [long, List.length_append, List.length_singleton]
  split
  · next full =>
    have one : max history.gone (history.logged.length + 1 - capacity) = history.gone + 1 := by
      omega
    rw [one, ← List.drop_drop, List.drop_one]
  · next room =>
    have none : max history.gone (history.logged.length + 1 - capacity) = history.gone := by
      omega
    rw [none]

end History

/-! ## Runs of the journal -/

inductive Operation
  | push (event : CountedEvent)
  | pruneThrough (watermark : ℕ)

/-- The journal and the total of what its prunes have reported. -/
structure Ledger where
  journal : EventJournal
  pruned : ℕ

def Ledger.perform (ledger : Ledger) : Operation → Ledger
  | .push event => { ledger with journal := ledger.journal.push event }
  | .pruneThrough watermark =>
    ⟨(ledger.journal.pruneThrough watermark).1,
      ledger.pruned + (ledger.journal.pruneThrough watermark).2⟩

def run (capacity : ℕ) (operations : List Operation) : Ledger :=
  operations.foldl Ledger.perform ⟨EventJournal.new capacity, 0⟩

/-- The events of the pushes, oldest first. -/
def pushes (operations : List Operation) : List CountedEvent :=
  operations.filterMap fun
    | .push event => some event
    | .pruneThrough _ => none

/-- What the operation means for a log that loses its front. -/
def outline (capacity : ℕ) (history : History CountedEvent) : Operation → History CountedEvent
  | .push event => history.log capacity event
  | .pruneThrough watermark => history.forget fun event => event.seq ≤ watermark

def history (capacity : ℕ) (operations : List Operation) : History CountedEvent :=
  operations.foldl (outline (max capacity 1)) History.empty

/-- The journal holds what the history retains, and its counters add up to what is gone. -/
structure Accounts (capacity : ℕ) (ledger : Ledger) (history : History CountedEvent) : Prop where
  capacity : ledger.journal.capacity = capacity
  buffer : ledger.journal.buf = history.retained
  counters : ledger.journal.dropped + ledger.pruned = history.gone

namespace Accounts

variable {capacity : ℕ} {ledger : Ledger} {history : History CountedEvent}

theorem created (capacity : ℕ) :
    Accounts (max capacity 1) ⟨EventJournal.new capacity, 0⟩ History.empty :=
  ⟨rfl, rfl, rfl⟩

theorem push (accounts : Accounts capacity ledger history) (event : CountedEvent) :
    Accounts capacity (ledger.perform (.push event)) (history.log capacity event) := by
  have fits : history.retained.length ≤ capacity := by
    rw [← accounts.buffer, ← accounts.capacity]
    exact ledger.journal.fits
  have buffer : (ledger.journal.push event).buf = (history.log capacity event).retained := by
    rw [History.retained_log fits, ← accounts.buffer, ← accounts.capacity]
    rfl
  refine ⟨accounts.capacity, buffer, ?_⟩
  have total := history.retained_length
  have held := accounts.buffer
  have counters := accounts.counters
  change (if ledger.journal.capacity < (ledger.journal.buf ++ [event]).length
      then ledger.journal.dropped + 1 else ledger.journal.dropped) + ledger.pruned =
    max history.gone ((history.logged ++ [event]).length - capacity)
  rw [accounts.capacity, held]
  simp only [List.length_append, List.length_singleton]
  split <;> omega

theorem prune (accounts : Accounts capacity ledger history) (watermark : ℕ) :
    Accounts capacity (ledger.perform (.pruneThrough watermark))
      (history.forget fun event => event.seq ≤ watermark) := by
  refine ⟨accounts.capacity, ?_, ?_⟩
  · rw [History.retained_forget, ← accounts.buffer]
    rfl
  · have counters := accounts.counters
    have split := congrArg List.length (List.takeWhile_append_dropWhile
      (p := fun event : CountedEvent => decide (event.seq ≤ watermark)) (l := history.retained))
    rw [List.length_append] at split
    change ledger.journal.dropped + (ledger.pruned + (ledger.journal.buf.length -
        (ledger.journal.buf.dropWhile fun event => event.seq ≤ watermark).length)) =
      history.gone + (history.retained.takeWhile fun event => event.seq ≤ watermark).length
    rw [accounts.buffer]
    omega

/-- One operation on the journal is the same operation on the history. -/
theorem perform (accounts : Accounts capacity ledger history) (operation : Operation) :
    Accounts capacity (ledger.perform operation) (outline capacity history operation) := by
  cases operation with
  | push event => exact accounts.push event
  | pruneThrough watermark => exact accounts.prune watermark

theorem run (accounts : Accounts capacity ledger history) (operations : List Operation) :
    Accounts capacity (operations.foldl Ledger.perform ledger)
      (operations.foldl (outline capacity) history) := by
  induction operations generalizing ledger history with
  | nil => exact accounts
  | cons operation rest ih => exact ih (accounts.perform operation)

end Accounts

theorem run_accounts (capacity : ℕ) (operations : List Operation) :
    Accounts (max capacity 1) (run capacity operations) (history capacity operations) :=
  (Accounts.created capacity).run operations

theorem outline_logged (capacity : ℕ) (history : History CountedEvent) (operation : Operation) :
    (outline capacity history operation).logged = history.logged ++ pushes [operation] := by
  cases operation with
  | push event => rfl
  | pruneThrough watermark => exact (List.append_nil _).symm

/-- Whatever is pruned, the log is the pushes in their order. -/
theorem history_logged (capacity : ℕ) (operations : List Operation) :
    (history capacity operations).logged = pushes operations := by
  suffices lengthened : ∀ before : History CountedEvent,
      (operations.foldl (outline (max capacity 1)) before).logged =
        before.logged ++ pushes operations from lengthened History.empty
  intro before
  induction operations generalizing before with
  | nil => exact (List.append_nil _).symm
  | cons operation rest ih =>
    have joined : pushes (operation :: rest) = pushes [operation] ++ pushes rest := by
      unfold pushes
      rw [← List.filterMap_append, List.singleton_append]
    rw [List.foldl_cons, ih, outline_logged, joined, List.append_assoc]

/-- Over any run the journal retains the end of what was pushed, `since` hides nothing of it, and
every other push was either dropped or pruned. -/
theorem since_exact (capacity : ℕ) (operations : List Operation) :
    (run capacity operations).journal.buf = (pushes operations).drop
        ((run capacity operations).journal.dropped + (run capacity operations).pruned) ∧
      (∀ minSeq, (run capacity operations).journal.since minSeq =
        (run capacity operations).journal.buf.filter fun event => event.seq > minSeq) ∧
      (run capacity operations).journal.len ≤ max capacity 1 ∧
      (run capacity operations).journal.len + (run capacity operations).journal.dropped +
        (run capacity operations).pruned = (pushes operations).length := by
  have accounts := run_accounts capacity operations
  have logged := history_logged capacity operations
  have total := (history capacity operations).retained_length
  refine ⟨?_, fun minSeq => since_eq_newer _ minSeq, ?_, ?_⟩
  · rw [accounts.buffer, accounts.counters, ← logged]
    rfl
  · rw [← accounts.capacity]
    exact (run capacity operations).journal.fits
  · have counters := accounts.counters
    unfold EventJournal.len
    rw [accounts.buffer, ← logged]
    omega

end ADesk.Observer.Retention
