/- ADesk/Observer/State
   digest: Per-window temporal state, resync snapshots and the report of a resync. -/

import ADesk.Core.Ids
import ADesk.Core.Geometry

set_option autoImplicit false

namespace ADesk.Observer.State

open ADesk.Core.Ids (WindowId)
open ADesk.Core.Geometry (Rect Region)

/-- An active waiter: its filter point and its start in the clock domain. -/
structure PendingObservation where
  sinceSeq : ℕ
  startedAt : ℕ
  deriving DecidableEq, Repr

instance : Ord PendingObservation :=
  ⟨compareLex (compareOn PendingObservation.sinceSeq) (compareOn PendingObservation.startedAt)⟩

instance : Std.TransOrd PendingObservation :=
  inferInstanceAs (Std.TransCmp (compareLex (compareOn PendingObservation.sinceSeq)
    (compareOn PendingObservation.startedAt)))

instance : Std.LawfulEqOrd PendingObservation where
  eq_of_compare := by
    intro ⟨a, b⟩ ⟨c, d⟩ equal
    obtain ⟨first, second⟩ := Ordering.then_eq_eq.mp
      (equal : (compare a c).then (compare b d) = .eq)
    have sameSeq : a = c := Nat.compare_eq_eq.mp first
    have sameStart : b = d := Nat.compare_eq_eq.mp second
    rw [sameSeq, sameStart]

/-- Temporal state of one window. -/
structure WindowTemporalState where
  windowId : WindowId
  lastCommitSeq : ℕ
  lastCommitAt : ℕ
  lastDamage : Region
  lastMeaningfulChangeAt : ℕ
  lastInputAt : Option ℕ
  quietSince : Option ℕ
  commitCount : ℕ
  pendingObservation : Option PendingObservation
  geometry : Option Rect
  stateUncertain : Bool
  deriving DecidableEq

/-- Fresh state for a newly created window. -/
def WindowTemporalState.created (windowId : WindowId) (tsMs : ℕ) : WindowTemporalState where
  windowId := windowId
  lastCommitSeq := 0
  lastCommitAt := 0
  lastDamage := Region.empty
  lastMeaningfulChangeAt := tsMs
  lastInputAt := none
  quietSince := none
  commitCount := 0
  pendingObservation := none
  geometry := none
  stateUncertain := false

structure WindowSnapshot where
  windowId : WindowId
  lastCommitSeq : ℕ
  geometry : Rect
  popupCount : ℕ
  deriving DecidableEq

/-- The compositor state a resync adopts. -/
structure StateSnapshot where
  seq : ℕ
  tsMs : ℕ
  windows : List WindowSnapshot
  deriving DecidableEq

def StateSnapshot.windowIds (snapshot : StateSnapshot) : List WindowId :=
  snapshot.windows.map WindowSnapshot.windowId

/-- What a resync changed; purely diagnostic. -/
structure ResyncReport where
  snapshotSeq : ℕ := 0
  windowsAdded : List WindowId := []
  windowsRemoved : List WindowId := []
  markedUncertain : List WindowId := []
  eventsDropped : ℕ := 0
  deriving DecidableEq

end ADesk.Observer.State
