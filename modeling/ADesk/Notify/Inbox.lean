/- ADesk/Notify/Inbox
   digest: The bounded event journal of `wait_for_events`, its watermark and its filtered batches. -/

import ADesk.Core.Event
import ADesk.Core.Time
import ADesk.Foundation.KeyedLog

set_option autoImplicit false

namespace ADesk.Notify.Inbox

open ADesk.Core.Ids (WindowId)
open ADesk.Core.Event (EventKind RuntimeEvent)
open ADesk.Foundation.KeyedLog

def defaultTimeoutMs : ℕ := 5000

def defaultMaxEvents : ℕ := 32

/-- Parameters of `wait_for_events`. No `kinds` means every kind. -/
structure EventWaitSpec where
  kinds : List EventKind := []
  windowId : Option WindowId := none
  timeoutMs : ℕ := defaultTimeoutMs
  maxEvents : ℕ := defaultMaxEvents
  sinceSeq : Option ℕ := none
  deriving DecidableEq

/-- `true` when the event passes the kind and window filters. -/
def EventWaitSpec.matchesEvent (spec : EventWaitSpec) (event : RuntimeEvent) : Bool :=
  if spec.windowId.any (fun windowId => event.windowId != some windowId) then false
  else spec.kinds.isEmpty || spec.kinds.contains event.kind

/-- The result of `wait_for_events`; `seq` is the watermark when the journal was last read. -/
structure EventBatch where
  events : List RuntimeEvent
  timedOut : Bool
  elapsedMs : ℕ
  seq : ℕ
  deriving DecidableEq

/-- Most recent events, oldest first; the watermark bounds every stored `seq`. -/
structure InboxState where
  journal : List RuntimeEvent
  capacity : ℕ
  watermark : ℕ
  capacityPos : 0 < capacity
  fits : journal.length ≤ capacity
  bounded : ∀ event ∈ journal, event.seq ≤ watermark

namespace InboxState

def new (capacity : ℕ) : InboxState where
  journal := []
  capacity := max capacity 1
  watermark := 0
  capacityPos := capacity_positive capacity
  fits := by simp
  bounded := by simp

/-- Appends an event, raising the watermark and evicting the oldest when full. -/
def record (state : InboxState) (event : RuntimeEvent) : InboxState where
  journal := pushBounded state.capacity state.journal event
  capacity := state.capacity
  watermark := max state.watermark event.seq
  capacityPos := state.capacityPos
  fits := push_bounded_length state.fits event
  bounded := by
    intro other member
    rcases mem_of_mem_push_bounded member with old | rfl
    · exact (state.bounded other old).trans (Nat.le_max_left _ _)
    · exact Nat.le_max_right _ _

/-- Matching events above the filter point, oldest first, at most `maxEvents`. -/
def collect (state : InboxState) (spec : EventWaitSpec) (filterPoint : ℕ) : List RuntimeEvent :=
  if spec.maxEvents = 0 ∨ filterPoint ≥ state.watermark then []
  else
    ((state.journal.filter (fun event => event.seq > filterPoint)).filter
      spec.matchesEvent).take spec.maxEvents

end InboxState

/-- The batch that a journal answers with, without the shortcuts of `collect`. -/
def oldestMatching (spec : EventWaitSpec) (filterPoint : ℕ) (journal : List RuntimeEvent) :
    List RuntimeEvent :=
  (newer RuntimeEvent.seq filterPoint (journal.filter spec.matchesEvent)).take spec.maxEvents

/-- The shortcuts of `collect` are sound. -/
theorem collect_eq_oldest_matching (state : InboxState) (spec : EventWaitSpec) (filterPoint : ℕ) :
    state.collect spec filterPoint = oldestMatching spec filterPoint state.journal := by
  have swapped : (state.journal.filter (fun event => event.seq > filterPoint)).filter
        spec.matchesEvent =
      newer RuntimeEvent.seq filterPoint (state.journal.filter spec.matchesEvent) := by
    unfold newer
    rw [List.filter_comm]
  unfold InboxState.collect oldestMatching
  split
  · next short =>
    rcases short with noRoom | ahead
    · rw [noRoom, List.take_zero]
    · have none : newer RuntimeEvent.seq filterPoint
          (state.journal.filter spec.matchesEvent) = [] := by
        refine newer_eq_nil.mpr fun event member => ?_
        exact (state.bounded event (List.mem_of_mem_filter member)).trans ahead
      rw [none, List.take_nil]
  · rw [swapped]

theorem record_journal_suffix {state : InboxState} {log : List RuntimeEvent}
    (suffix : state.journal <:+ log) (event : RuntimeEvent) :
    (state.record event).journal <:+ log ++ [event] :=
  push_bounded_suffix suffix event

end ADesk.Notify.Inbox
