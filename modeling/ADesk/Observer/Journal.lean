/- ADesk/Observer/Journal
   digest: Counted events and the bounded journal that seeds and feeds waiters. -/

import ADesk.Core.Event
import ADesk.Foundation.KeyedLog

set_option autoImplicit false

namespace ADesk.Observer.Journal

open ADesk.Core.Ids (WindowId)
open ADesk.Core.Geometry (Region)
open ADesk.Core.Event (RuntimeEvent)
open ADesk.Foundation.KeyedLog

/-- What kind of change a counted event represents. -/
inductive CountedKind
  | created
  | destroyed
  | activated (previous : Option WindowId)
  | titleChanged (title : Option String)
  | commit (commitSeq : ℕ) (damage : Region)
  | focus (windowId : Option WindowId)
  | popupAppeared (popupId : ℕ)
  | popupDisappeared (popupId : ℕ)
  deriving DecidableEq

/-- A runtime event reduced to what waiters count. -/
structure CountedEvent where
  seq : ℕ
  tsMs : ℕ
  windowId : Option WindowId
  kind : CountedKind
  deriving DecidableEq

namespace CountedEvent

/-- Launches and notifications are no window changes: they are not counted. -/
def fromRuntimeEvent : RuntimeEvent → Option CountedEvent
  | .windowCreated seq tsMs windowId .. => some ⟨seq, tsMs, some windowId, .created⟩
  | .windowDestroyed seq tsMs windowId => some ⟨seq, tsMs, some windowId, .destroyed⟩
  | .windowActivated seq tsMs windowId previous =>
    some ⟨seq, tsMs, some windowId, .activated previous⟩
  | .titleChanged seq tsMs windowId title => some ⟨seq, tsMs, some windowId, .titleChanged title⟩
  | .surfaceCommit seq tsMs windowId commitSeq damage =>
    some ⟨seq, tsMs, some windowId, .commit commitSeq damage⟩
  | .focusChanged seq tsMs windowId => some ⟨seq, tsMs, windowId, .focus windowId⟩
  | .popupAppeared seq tsMs windowId popupId =>
    some ⟨seq, tsMs, some windowId, .popupAppeared popupId⟩
  | .popupDisappeared seq tsMs windowId popupId =>
    some ⟨seq, tsMs, some windowId, .popupDisappeared popupId⟩
  | .appLaunched .. | .notification .. | .notificationClosed .. | .notificationAction .. => none

def isCommit (event : CountedEvent) : Bool :=
  match event.kind with
  | .commit .. => true
  | _ => false

/-- The window a `WindowCreated` announces. -/
def createdWindow (event : CountedEvent) : Option WindowId :=
  match event.kind with
  | .created => event.windowId
  | _ => none

/-- The window a `WindowDestroyed` removes. -/
def destroyedWindow (event : CountedEvent) : Option WindowId :=
  match event.kind with
  | .destroyed => event.windowId
  | _ => none

/-- The window a `SurfaceCommit` belongs to. -/
def committedWindow (event : CountedEvent) : Option WindowId :=
  if event.isCommit then event.windowId else none

end CountedEvent

theorem from_runtime_event_seq {event : RuntimeEvent} {counted : CountedEvent}
    (reduced : CountedEvent.fromRuntimeEvent event = some counted) : counted.seq = event.seq := by
  cases event <;> cases reduced <;> rfl

theorem from_runtime_event_window {event : RuntimeEvent} {counted : CountedEvent}
    (reduced : CountedEvent.fromRuntimeEvent event = some counted) :
    counted.windowId = event.windowId := by
  cases event <;> cases reduced <;> rfl

theorem from_runtime_event_isSome (event : RuntimeEvent) :
    (CountedEvent.fromRuntimeEvent event).isSome = !event.kind.synthesized := by
  cases event <;> rfl

/-- Fixed-capacity FIFO of counted events; `maxSeq` bounds every stored `seq` and never falls. -/
structure EventJournal where
  buf : List CountedEvent
  capacity : ℕ
  dropped : ℕ
  maxSeq : ℕ
  capacityPos : 0 < capacity
  fits : buf.length ≤ capacity
  bounded : ∀ event ∈ buf, event.seq ≤ maxSeq

namespace EventJournal

def new (capacity : ℕ) : EventJournal where
  buf := []
  capacity := max capacity 1
  dropped := 0
  maxSeq := 0
  capacityPos := capacity_positive capacity
  fits := Nat.zero_le _
  bounded := fun _ member => absurd member List.not_mem_nil

/-- Appends an event, evicting the oldest when full. -/
def push (journal : EventJournal) (event : CountedEvent) : EventJournal where
  buf := pushBounded journal.capacity journal.buf event
  capacity := journal.capacity
  dropped :=
    if journal.capacity < (journal.buf ++ [event]).length then journal.dropped + 1
    else journal.dropped
  maxSeq := max journal.maxSeq event.seq
  capacityPos := journal.capacityPos
  fits := push_bounded_length journal.fits event
  bounded := by
    intro other member
    rcases mem_of_mem_push_bounded member with old | rfl
    · exact (journal.bounded other old).trans (Nat.le_max_left _ _)
    · exact Nat.le_max_right _ _

/-- Drops the front events with `seq ≤ watermark` and counts them. -/
def pruneThrough (journal : EventJournal) (watermark : ℕ) : EventJournal × ℕ :=
  let kept := journal.buf.dropWhile (fun event => event.seq ≤ watermark)
  ({ journal with
      buf := kept
      fits := (List.dropWhile_suffix _).length_le.trans journal.fits
      bounded := fun event member =>
        journal.bounded event ((List.dropWhile_suffix _).subset member) },
    journal.buf.length - kept.length)

/-- Events above `minSeq`, oldest first; the scan is skipped when none can exist. -/
def since (journal : EventJournal) (minSeq : ℕ) : List CountedEvent :=
  if minSeq ≥ journal.maxSeq then [] else journal.buf.filter (fun event => event.seq > minSeq)

def len (journal : EventJournal) : ℕ := journal.buf.length

end EventJournal

/-- The early exit of `since` is sound: it is the plain filter of the buffer. -/
theorem since_eq_newer (journal : EventJournal) (minSeq : ℕ) :
    journal.since minSeq = newer CountedEvent.seq minSeq journal.buf := by
  unfold EventJournal.since
  split
  · next short =>
    exact (newer_eq_nil.mpr fun event member => (journal.bounded event member).trans short).symm
  · rfl

@[simp] theorem push_capacity (journal : EventJournal) (event : CountedEvent) :
    (journal.push event).capacity = journal.capacity := rfl

theorem push_suffix {journal : EventJournal} {log : List CountedEvent}
    (suffix : journal.buf <:+ log) (event : CountedEvent) :
    (journal.push event).buf <:+ log ++ [event] :=
  push_bounded_suffix suffix event

theorem push_all_capacity (journal : EventJournal) (events : List CountedEvent) :
    (events.foldl EventJournal.push journal).capacity = journal.capacity := by
  induction events generalizing journal with
  | nil => rfl
  | cons event rest ih => exact ih (journal.push event)

theorem push_all_buf (journal : EventJournal) (events : List CountedEvent) :
    (events.foldl EventJournal.push journal).buf =
      (journal.buf ++ events).rtake journal.capacity := by
  rw [← foldl_push_bounded events journal.fits]
  induction events generalizing journal with
  | nil => rfl
  | cons event rest ih => exact ih (journal.push event)

theorem push_all_suffix {journal : EventJournal} {log : List CountedEvent}
    (suffix : journal.buf <:+ log) (events : List CountedEvent) :
    (events.foldl EventJournal.push journal).buf <:+ log ++ events := by
  induction events generalizing journal log with
  | nil => simpa using suffix
  | cons event rest ih =>
    have pushed := ih (push_suffix suffix event)
    simpa using pushed

/-- Pruning through a bound of every stored `seq` empties the journal. -/
theorem prune_through_covers {journal : EventJournal} {watermark : ℕ}
    (below : ∀ event ∈ journal.buf, event.seq ≤ watermark) :
    (journal.pruneThrough watermark).1.buf = [] := by
  simpa [EventJournal.pruneThrough, List.dropWhile_eq_nil_iff] using below

@[simp] theorem prune_through_capacity (journal : EventJournal) (watermark : ℕ) :
    (journal.pruneThrough watermark).1.capacity = journal.capacity := rfl

end ADesk.Observer.Journal
