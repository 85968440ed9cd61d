/- ADesk/Observer/Waiter
   digest: Filters, the per-waiter accumulator, wait conditions and their resolution. -/

import ADesk.Observer.Journal
import ADesk.Observer.State
import ADesk.Core.Time

set_option autoImplicit false

namespace ADesk.Observer.Waiter

open ADesk.Core.Ids (WindowId ActionId)
open ADesk.Core.Geometry (Rect Region)
open ADesk.Core.Event (Observation)
open ADesk.Core.Time (saturatingAdd)
open ADesk.Observer.Journal (CountedEvent CountedKind)
open ADesk.Observer.State (WindowTemporalState)

def defaultTimeoutMs : ℕ := 5000

def defaultQuietMs : ℕ := 250

/-- Which counted events a waiter counts. -/
structure Filters where
  windowId : Option WindowId
  minSeq : ℕ
  sinceCommit : Option ℕ
  deriving DecidableEq

/-- `true` when the event belongs to the wait. -/
def Filters.counts (filters : Filters) (event : CountedEvent) : Bool :=
  if event.seq ≤ filters.minSeq then false
  else if filters.windowId.any (fun windowId => event.windowId != some windowId) then false
  else
    match filters.sinceCommit, event.kind with
    | some minCommit, .commit commitSeq _ => decide (commitSeq > minCommit)
    | _, _ => true

inductive WaitCondition
  | change
  | quiet (quietMs : ℕ)
  | timeout
  deriving DecidableEq

/-- The quiet threshold of the evidence flag. -/
def WaitCondition.quietThresholdMs : WaitCondition → ℕ
  | .quiet quietMs => quietMs
  | .change | .timeout => defaultQuietMs

/-- A fully resolved wait request. -/
structure WaitPlan where
  windowId : Option WindowId
  afterAction : Option ActionId
  filters : Filters
  condition : WaitCondition
  timeoutMs : ℕ
  anchorTs : ℕ
  startedAt : ℕ
  deriving DecidableEq

namespace WaitPlan

def deadlineMs (plan : WaitPlan) : ℕ := saturatingAdd plan.startedAt plan.timeoutMs

/-- The quiet deadline implied by the condition, if any. -/
def quietDeadlineMs (plan : WaitPlan) (anchor : ℕ) : Option ℕ :=
  match plan.condition with
  | .quiet quietMs => some (saturatingAdd anchor quietMs)
  | .change | .timeout => none

end WaitPlan

/-- Per-waiter fold of counted events into the numbers of an observation. -/
structure Accumulator where
  filters : Filters
  lastCommitTs : Option ℕ
  lastCommitSeq : ℕ
  commits : ℕ
  damage : Region
  newWindows : List WindowId
  destroyedWindows : List WindowId
  popupsAppeared : List ℕ
  popupsDisappeared : List ℕ
  focusChanged : Option Bool
  titleChanged : Bool
  events : ℕ
  deriving DecidableEq

/-- The rectangle lies entirely inside the bounds, so clipping would return it unchanged. -/
def containedIn (rect bounds : Rect) : Bool :=
  decide (rect.x ≥ bounds.x) && decide (rect.y ≥ bounds.y) &&
    decide (rect.right ≤ bounds.right) && decide (rect.bottom ≤ bounds.bottom)

/-- The damage union extended by one commit, clipped to the geometry when it is known. -/
def absorbDamage (union damage : Region) (clip : Option Rect) : Region :=
  match clip with
  | some geometry => damage.rects.foldl (fun out rect =>
      if containedIn rect geometry then out.push rect
      else match rect.intersect geometry with
        | some part => out.push part
        | none => out) union
  | none => union.extend damage

/-- What `resolve` needs beyond the accumulator. -/
structure ResolveContext where
  windowId : Option WindowId
  afterAction : Option ActionId
  startedAt : ℕ
  anchorTs : ℕ
  nowMs : ℕ
  watermark : ℕ
  quietThresholdMs : ℕ
  windowState : Option WindowTemporalState
  globalLastCommitSeq : ℕ
  timedOut : Bool

namespace Accumulator

def new (filters : Filters) : Accumulator where
  filters := filters
  lastCommitTs := none
  lastCommitSeq := 0
  commits := 0
  damage := Region.empty
  newWindows := []
  destroyedWindows := []
  popupsAppeared := []
  popupsDisappeared := []
  focusChanged := none
  titleChanged := false
  events := 0

/-- Folds one already-counted event into the observation numbers. -/
def absorb (acc : Accumulator) (event : CountedEvent) (clip : Option Rect) : Accumulator :=
  let acc := { acc with events := acc.events + 1 }
  match event.kind with
  | .created =>
    match event.windowId with
    | some windowId => { acc with newWindows := acc.newWindows ++ [windowId] }
    | none => acc
  | .destroyed =>
    match event.windowId with
    | some windowId => { acc with destroyedWindows := acc.destroyedWindows ++ [windowId] }
    | none => acc
  | .activated _ => acc
  | .titleChanged _ => { acc with titleChanged := true }
  | .commit commitSeq damage =>
    { acc with
      commits := acc.commits + 1
      lastCommitSeq := max acc.lastCommitSeq commitSeq
      lastCommitTs := some event.tsMs
      damage := absorbDamage acc.damage damage clip }
  | .focus _ => { acc with focusChanged := some true }
  | .popupAppeared popupId => { acc with popupsAppeared := acc.popupsAppeared ++ [popupId] }
  | .popupDisappeared popupId =>
    { acc with popupsDisappeared := acc.popupsDisappeared ++ [popupId] }

/-- At least one event counted. -/
def counted (acc : Accumulator) : Bool := decide (acc.events > 0)

/-- The most recent counted commit, falling back to the plan's anchor. -/
def quietAnchor (acc : Accumulator) (anchorTs : ℕ) : ℕ := acc.lastCommitTs.getD anchorTs

/-- The protocol observation at resolution time. -/
def resolve (acc : Accumulator) (ctx : ResolveContext) : Observation where
  windowId := ctx.windowId
  afterAction := ctx.afterAction
  commits := acc.commits
  changedRegions := acc.damage.simplified
  focusChanged := acc.focusChanged
  titleChanged := acc.titleChanged
  newWindows := acc.newWindows
  destroyedWindows := acc.destroyedWindows
  popupsAppeared := acc.popupsAppeared
  popupsDisappeared := acc.popupsDisappeared
  elapsedMs := ctx.nowMs - ctx.startedAt
  quiet := decide (ctx.nowMs - acc.quietAnchor ctx.anchorTs ≥ ctx.quietThresholdMs)
  timedOut := ctx.timedOut
  lastCommitSeq :=
    match ctx.windowId with
    | some _ => (ctx.windowState.map WindowTemporalState.lastCommitSeq).getD acc.lastCommitSeq
    | none => ctx.globalLastCommitSeq
  seq := ctx.watermark

end Accumulator

/-- `true` when the condition is satisfied at `nowMs`. -/
def conditionMet (condition : WaitCondition) (acc : Accumulator) (anchorTs nowMs : ℕ) : Bool :=
  match condition with
  | .change => acc.counted
  | .quiet quietMs =>
    let anchor := max anchorTs (acc.lastCommitTs.getD 0)
    decide (nowMs - anchor ≥ quietMs)
  | .timeout => false

/-- The one-shot fold of a list of counted events, each with the geometry it is clipped to. -/
def absorbAll (acc : Accumulator) (events : List (CountedEvent × Option Rect)) : Accumulator :=
  events.foldl (fun folded event => folded.absorb event.1 event.2) acc

@[simp] theorem absorb_all_nil (acc : Accumulator) : absorbAll acc [] = acc := rfl

theorem absorb_all_append (acc : Accumulator) (first second : List (CountedEvent × Option Rect)) :
    absorbAll acc (first ++ second) = absorbAll (absorbAll acc first) second :=
  List.foldl_append ..

theorem counts_above_minSeq {filters : Filters} {event : CountedEvent}
    (counted : filters.counts event = true) : filters.minSeq < event.seq := by
  unfold Filters.counts at counted
  split at counted
  · cases counted
  · omega

/-- Without a commit bound the filter is the window and the sequence test alone. -/
theorem counts_without_since_commit (windowId : Option WindowId) (minSeq : ℕ)
    (event : CountedEvent) :
    (Filters.mk windowId minSeq none).counts event = true ↔
      minSeq < event.seq ∧ ∀ wanted, windowId = some wanted → event.windowId = some wanted := by
  cases windowId with
  | none => simp [Filters.counts]
  | some wanted => simp [Filters.counts]

end ADesk.Observer.Waiter
