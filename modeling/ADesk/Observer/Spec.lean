/- ADesk/Observer/Spec
   digest: Wait requests of the protocol, their defaults and the plans they resolve to. -/

import ADesk.Observer.Actions
import ADesk.Observer.Waiter

set_option autoImplicit false

namespace ADesk.Observer.Spec

open ADesk.Core.Ids (WindowId ActionId)
open ADesk.Observer.Actions (ActionRegistry)
open ADesk.Observer.Waiter

/-- The condition union of the wire protocol. -/
inductive Condition
  | change
  | quiet (quietMs : ℕ)
  | timeout
  deriving DecidableEq

/-- Parameters of `wait_for_change`. -/
structure WaitSpec where
  windowId : Option WindowId := none
  sinceCommit : Option ℕ := none
  timeoutMs : ℕ := defaultTimeoutMs
  deriving DecidableEq

/-- Parameters of `wait_for_quiet`. -/
structure QuietSpec where
  windowId : Option WindowId := none
  quietMs : ℕ := defaultQuietMs
  timeoutMs : ℕ := defaultTimeoutMs
  afterAction : Option ActionId := none
  deriving DecidableEq

/-- Parameters of `observe`. -/
structure ObserveSpec where
  windowId : Option WindowId := none
  afterAction : Option ActionId := none
  untilCondition : Condition := .quiet defaultQuietMs
  timeoutMs : ℕ := defaultTimeoutMs
  deriving DecidableEq

inductive WaitRequest
  | waitForChange (spec : WaitSpec)
  | waitForQuiet (spec : QuietSpec)
  | observe (spec : ObserveSpec)
  deriving DecidableEq

/-- Waits fail for unusable requests only, never because of time. -/
inductive WaitError
  | unknownWindow (windowId : WindowId)
  | unknownAction (actionId : ActionId)
  deriving DecidableEq

def waitCondition : Condition → WaitCondition
  | .quiet quietMs => .quiet quietMs
  | .change => .change
  | .timeout => .timeout

/-- The causal point of a wait: the echoed action, the filter sequence, the quiet anchor. -/
structure Anchor where
  afterAction : Option ActionId
  minSeq : ℕ
  anchorTs : ℕ

/-- `action_anchor`: an unknown action is an error; without one the filter point is the
watermark and the quiet anchor the wait start. -/
def actionAnchor (actions : ActionRegistry) (watermark : ℕ) (afterAction : Option ActionId)
    (startedAt : ℕ) : Except WaitError Anchor :=
  match afterAction with
  | some actionId =>
    match actions.get actionId with
    | some record => .ok ⟨some actionId, record.seq, record.tsMs⟩
    | none => .error (.unknownAction actionId)
  | none => .ok ⟨none, watermark, startedAt⟩

/-- The plan each request hands to the wait loop. -/
def planRequest (actions : ActionRegistry) (watermark : ℕ) (request : WaitRequest)
    (startedAt : ℕ) : Except WaitError WaitPlan :=
  match request with
  | .waitForChange spec =>
    .ok
      { windowId := spec.windowId
        afterAction := none
        filters := ⟨spec.windowId, watermark, spec.sinceCommit⟩
        condition := .change
        timeoutMs := spec.timeoutMs
        anchorTs := startedAt
        startedAt := startedAt }
  | .waitForQuiet spec => do
    let anchor ← actionAnchor actions watermark spec.afterAction startedAt
    .ok
      { windowId := spec.windowId
        afterAction := anchor.afterAction
        filters := ⟨spec.windowId, anchor.minSeq, none⟩
        condition := .quiet spec.quietMs
        timeoutMs := spec.timeoutMs
        anchorTs := anchor.anchorTs
        startedAt := startedAt }
  | .observe spec => do
    let anchor ← actionAnchor actions watermark spec.afterAction startedAt
    .ok
      { windowId := spec.windowId
        afterAction := anchor.afterAction
        filters := ⟨spec.windowId, anchor.minSeq, none⟩
        condition := waitCondition spec.untilCondition
        timeoutMs := spec.timeoutMs
        anchorTs := anchor.anchorTs
        startedAt := startedAt }

/-- The causal point of a plan is the watermark, or the sequence of the action it names. -/
def Anchored (actions : ActionRegistry) (watermark : ℕ) (plan : WaitPlan) : Prop :=
  match plan.afterAction with
  | none => plan.filters.minSeq = watermark
  | some actionId => ∃ record, actions.get actionId = some record ∧
      plan.filters = ⟨plan.windowId, record.seq, none⟩

private theorem anchored_of_anchor {actions : ActionRegistry} {watermark startedAt : ℕ}
    {afterAction : Option ActionId} {anchor : Anchor}
    (found : actionAnchor actions watermark afterAction startedAt = .ok anchor) :
    (anchor.afterAction = none ∧ anchor.minSeq = watermark) ∨
      ∃ actionId record, anchor.afterAction = some actionId ∧
        actions.get actionId = some record ∧ anchor.minSeq = record.seq := by
  unfold actionAnchor at found
  cases afterAction with
  | none =>
    cases found
    exact Or.inl ⟨rfl, rfl⟩
  | some actionId =>
    cases lookup : actions.get actionId with
    | none =>
      simp only [lookup] at found
      cases found
    | some record =>
      simp only [lookup] at found
      cases found
      exact Or.inr ⟨actionId, record, rfl, lookup, rfl⟩

theorem plan_request_anchored {actions : ActionRegistry} {watermark startedAt : ℕ}
    {request : WaitRequest} {plan : WaitPlan}
    (planned : planRequest actions watermark request startedAt = .ok plan) :
    Anchored actions watermark plan := by
  have anchored : ∀ {afterAction : Option ActionId} {build : Anchor → WaitPlan},
      (actionAnchor actions watermark afterAction startedAt >>= fun anchor =>
        Except.ok (build anchor)) = .ok plan →
      ∃ anchor, actionAnchor actions watermark afterAction startedAt = .ok anchor ∧
        build anchor = plan := by
    intro afterAction build bound
    cases found : actionAnchor actions watermark afterAction startedAt with
    | error _ =>
      rw [found] at bound
      cases bound
    | ok anchor =>
      rw [found] at bound
      cases bound
      exact ⟨anchor, rfl, rfl⟩
  cases request with
  | waitForChange spec =>
    cases planned
    rfl
  | waitForQuiet spec =>
    obtain ⟨anchor, found, rfl⟩ := anchored planned
    rcases anchored_of_anchor found with ⟨noAction, point⟩ | ⟨actionId, record, named, lookup, point⟩
    · simp only [Anchored, noAction, point]
    · simp only [Anchored, named]
      exact ⟨record, lookup, by rw [point]⟩
  | observe spec =>
    obtain ⟨anchor, found, rfl⟩ := anchored planned
    rcases anchored_of_anchor found with ⟨noAction, point⟩ | ⟨actionId, record, named, lookup, point⟩
    · simp only [Anchored, noAction, point]
    · simp only [Anchored, named]
      exact ⟨record, lookup, by rw [point]⟩

end ADesk.Observer.Spec
