/- ADesk/Agent/Costs
   digest: The recorder of a task's cost, its report, and the images of the agent's contexts. -/

import ADesk.Agent.Execute
import Mathlib.Algebra.Order.Field.Basic
import Mathlib.Algebra.Order.Ring.Rat
import Mathlib.Algebra.Field.Rat

set_option autoImplicit false

namespace ADesk.Agent.Costs

open ADesk.Agent.Errors
open ADesk.Agent.Execute (ActionKind)

universe u

/-! ## Counts by key -/

section Counts

variable {κ : Type u} [DecidableEq κ]

/-- One more for the key, which is entered if it is not there yet. -/
def bump : List (κ × ℕ) → κ → List (κ × ℕ)
  | [], key => [(key, 1)]
  | (known, count) :: rest, key =>
    if known = key then (known, count + 1) :: rest else (known, count) :: bump rest key

def total (counts : List (κ × ℕ)) : ℕ := (counts.map Prod.snd).sum

theorem total_bump (counts : List (κ × ℕ)) (key : κ) :
    total (bump counts key) = total counts + 1 := by
  induction counts with
  | nil => rfl
  | cons first rest later =>
    obtain ⟨known, count⟩ := first
    simp only [total, bump] at later ⊢
    split
    · simp only [List.map_cons, List.sum_cons]
      omega
    · simp only [List.map_cons, List.sum_cons, later]
      omega

end Counts

/-! ## Images -/

structure ImagePayload where
  width : ℕ
  height : ℕ
  data : String

/-- How many tiles of 512 pixels an edge spans, one at least. -/
def tiles (edge : ℕ) : ℕ := max 1 ((edge + 511) / 512)

def estimateVisualTokens (width height : ℕ) : ℕ := 85 + 170 * tiles width * tiles height

/-- The images of the context that the provider is handed. -/
structure AgentContext where
  image : Option ImagePayload
  keyframe : Option ImagePayload

def AgentContext.imageCount (context : AgentContext) : ℕ :=
  context.image.isSome.toNat + context.keyframe.isSome.toNat

/-- The images that the builder keeps for the next context. -/
structure ContextBuilder where
  currentImage : Option ImagePayload
  keyframe : Option ImagePayload

namespace ContextBuilder

def new : ContextBuilder := ⟨none, none⟩

def imageCount (b : ContextBuilder) : ℕ := b.currentImage.isSome.toNat + b.keyframe.isSome.toNat

def clearImage (_ : ContextBuilder) : ContextBuilder := ⟨none, none⟩

def setImage (maxImages : ℕ) (b : ContextBuilder) : Option ImagePayload → ContextBuilder
  | none => b.clearImage
  | some image =>
    if maxImages = 0 then b.clearImage
    else ⟨some image, if 2 ≤ maxImages then b.currentImage else none⟩

def build (b : ContextBuilder) : AgentContext := ⟨b.currentImage, b.keyframe⟩

@[simp] theorem build_image_count (b : ContextBuilder) : b.build.imageCount = b.imageCount := rfl

/-- A keyframe is only kept beside a current image. -/
def Rotated (b : ContextBuilder) : Prop := b.keyframe.isSome → b.currentImage.isSome

theorem rotated_set_image (maxImages : ℕ) (b : ContextBuilder) (image : Option ImagePayload) :
    (b.setImage maxImages image).Rotated := by
  unfold setImage Rotated
  split
  · exact id
  · split
    · exact id
    · exact fun _ => rfl

end ContextBuilder

/-! ## The recorder -/

inductive StopReason
  | finished
  | stepBudgetExhausted
  | failureBudgetExhausted
  | fatalError
  deriving DecidableEq

structure LatencyStats where
  count : ℕ
  minMs : ℕ
  meanMs : ℚ
  p95Ms : ℕ

/-- Smallest, mean and nearest-rank 95th percentile of the samples. -/
def latencyStats (samples : List ℕ) : LatencyStats :=
  if samples = [] then ⟨0, 0, 0, 0⟩
  else
    let sorted := samples.mergeSort
    let rank := min samples.length (max 1 ((95 * samples.length + 99) / 100))
    ⟨samples.length, sorted.headD 0, (samples.sum : ℚ) / samples.length, sorted.getD (rank - 1) 0⟩

/-- The key that a failure is counted under. -/
def kindKey : Error → String
  | .client code _ => code.asStr
  | .provider .missingApiKey => "provider_missing_api_key"
  | .provider (.transport _) => "provider_transport"
  | .provider (.status _ _) => "provider_status"
  | .provider (.timeout _) => "provider_timeout"
  | .provider (.invalidResponse _) => "provider_invalid_response"
  | .transport _ => "transport"
  | .protocolVersion _ _ => "protocol_version_mismatch"
  | .stepBudgetExhausted _ => "step_budget_exhausted"
  | .failureBudgetExhausted _ => "failure_budget_exhausted"
  | .stepTimeout _ _ => "step_timeout"
  | .invalidDecision _ => "invalid_decision"
  | .io _ => "io"
  | .json _ => "json"

/-- The kinds that are delivered through the seat. -/
def isInputKind : ActionKind → Bool
  | .click | .typeText | .keypress | .scroll => true
  | _ => false

structure Metrics where
  steps : ℕ
  decisions : ℕ
  actions : ℕ
  actionsByKind : List (ActionKind × ℕ)
  runtimeOps : ℕ
  inputActions : ℕ
  gpuReadbacks : ℕ
  imagesSent : ℕ
  visualTokens : ℕ
  latenciesMs : List ℕ
  failures : ℕ
  failuresByKind : List (String × ℕ)
  recoveries : ℕ
  consecutiveFailures : ℕ
  lastStepFailed : Bool

namespace Metrics

def new : Metrics := ⟨0, 0, 0, [], 0, 0, 0, 0, 0, [], 0, [], 0, 0, false⟩

def recordStep (m : Metrics) : Metrics := { m with steps := m.steps + 1 }

def recordDecision (m : Metrics) (latencyMs : ℕ) : Metrics :=
  { m with decisions := m.decisions + 1, latenciesMs := m.latenciesMs ++ [latencyMs] }

def recordImageSent (m : Metrics) (image : ImagePayload) : Metrics :=
  { m with
    imagesSent := m.imagesSent + 1
    visualTokens := m.visualTokens + estimateVisualTokens image.width image.height }

/-- An executed action; the end of a task is not one. -/
def recordAction (m : Metrics) (kind : ActionKind) (readback : Bool)
    (image : Option ImagePayload) : Metrics :=
  if kind = .finish then m
  else
    let acted : Metrics := { m with
      actions := m.actions + 1
      actionsByKind := bump m.actionsByKind kind
      inputActions := m.inputActions + (isInputKind kind).toNat
      runtimeOps := m.runtimeOps + (!isInputKind kind).toNat
      gpuReadbacks := m.gpuReadbacks + readback.toNat }
    match image with
    | none => acted
    | some image => acted.recordImageSent image

def recordFailure (m : Metrics) (error : Error) : Metrics :=
  { m with
    failures := m.failures + 1
    consecutiveFailures := m.consecutiveFailures + 1
    lastStepFailed := true
    failuresByKind := bump m.failuresByKind (kindKey error) }

def recordSuccess (m : Metrics) : Metrics :=
  { m with
    recoveries := m.recoveries + m.lastStepFailed.toNat
    consecutiveFailures := 0
    lastStepFailed := false }

end Metrics

structure MetricsReport where
  task : String
  success : Bool
  stopReason : StopReason
  steps : ℕ
  decisions : ℕ
  actions : ℕ
  actionsByKind : List (ActionKind × ℕ)
  runtimeOps : ℕ
  inputActions : ℕ
  gpuReadbacks : ℕ
  imagesSent : ℕ
  visualTokens : ℕ
  decisionLatency : LatencyStats
  failures : ℕ
  failuresByKind : List (String × ℕ)
  recoveries : ℕ
  failureRate : ℚ
  recoveryRate : ℚ

def Metrics.report (m : Metrics) (task : String) (success : Bool) (stopReason : StopReason) :
    MetricsReport where
  task := task
  success := success
  stopReason := stopReason
  steps := m.steps
  decisions := m.decisions
  actions := m.actions
  actionsByKind := m.actionsByKind
  runtimeOps := m.runtimeOps
  inputActions := m.inputActions
  gpuReadbacks := m.gpuReadbacks
  imagesSent := m.imagesSent
  visualTokens := m.visualTokens
  decisionLatency := latencyStats m.latenciesMs
  failures := m.failures
  failuresByKind := m.failuresByKind
  recoveries := m.recoveries
  failureRate := if m.steps = 0 then 0 else (m.failures : ℚ) / m.steps
  recoveryRate := if m.failures = 0 then 0 else (m.recoveries : ℚ) / m.failures

/-! ## What the recorder keeps -/

/-- The actions are split two ways, and a recovery goes back to a failure of its own. -/
structure Metrics.Sane (m : Metrics) : Prop where
  split : m.actions = m.runtimeOps + m.inputActions
  kinds : m.actions = total m.actionsByKind
  failed : total m.failuresByKind = m.failures
  recovered : m.recoveries + m.lastStepFailed.toNat ≤ m.failures

namespace Metrics.Sane

variable {m : Metrics}

theorem new : Metrics.new.Sane := ⟨rfl, rfl, rfl, Nat.le_refl 0⟩

theorem recordStep (sane : m.Sane) : m.recordStep.Sane :=
  ⟨sane.split, sane.kinds, sane.failed, sane.recovered⟩

theorem recordDecision (sane : m.Sane) (latencyMs : ℕ) : (m.recordDecision latencyMs).Sane :=
  ⟨sane.split, sane.kinds, sane.failed, sane.recovered⟩

theorem recordImageSent (sane : m.Sane) (image : ImagePayload) :
    (m.recordImageSent image).Sane :=
  ⟨sane.split, sane.kinds, sane.failed, sane.recovered⟩

theorem recordAction (sane : m.Sane) (kind : ActionKind) (readback : Bool)
    (image : Option ImagePayload) : (m.recordAction kind readback image).Sane := by
  unfold Metrics.recordAction
  by_cases finish : kind = .finish
  · rw [if_pos finish]
    exact sane
  · rw [if_neg finish]
    have acted : Metrics.Sane { m with
        actions := m.actions + 1
        actionsByKind := bump m.actionsByKind kind
        inputActions := m.inputActions + (isInputKind kind).toNat
        runtimeOps := m.runtimeOps + (!isInputKind kind).toNat
        gpuReadbacks := m.gpuReadbacks + readback.toNat } := by
      refine ⟨?_, ?_, sane.failed, sane.recovered⟩
      · have before := sane.split
        cases isInputKind kind with
        | true => simp; omega
        | false => simp; omega
      · show m.actions + 1 = total (bump m.actionsByKind kind)
        rw [total_bump, ← sane.kinds]
    cases image with
    | none => exact acted
    | some image => exact acted.recordImageSent image

theorem recordFailure (sane : m.Sane) (error : Error) : (m.recordFailure error).Sane := by
  refine ⟨sane.split, sane.kinds, ?_, ?_⟩
  · show total (bump m.failuresByKind (kindKey error)) = m.failures + 1
    rw [total_bump, sane.failed]
  · show m.recoveries + 1 ≤ m.failures + 1
    have before := sane.recovered
    omega

theorem recordSuccess (sane : m.Sane) : m.recordSuccess.Sane :=
  ⟨sane.split, sane.kinds, sane.failed, sane.recovered⟩

end Metrics.Sane

end ADesk.Agent.Costs
