/- ADesk/Agent/Accounts
   digest: What the agent loop records of its steps, and when its report agrees with them. -/

import ADesk.Agent.Costs
import ADesk.Foundation.Rotation

set_option autoImplicit false

namespace ADesk.Agent.Accounts

open ADesk.Agent.Costs
open ADesk.Agent.Errors
open ADesk.Agent.Execute (ActionKind Call LoopConfig execute)
open ADesk.Foundation.Execution
open ADesk.Foundation.Rotation

universe u

variable {Observation : Type u}

/-! ## The records of a step -/

/-- What one executed decision produced. -/
structure Execution (Observation : Type u) where
  actionId : Option ℕ
  observation : Option Observation
  image : Option ImagePayload
  attempts : ℕ

def Execution.default : Execution Observation := ⟨none, none, none, 0⟩

/-- A result that the client gives a call, by what the loop keeps of it. -/
inductive Answer (Observation : Type u)
  | plain
  | acted (actionId : ℕ)
  | observed (observation : Observation) (image : Option ImagePayload)
  | captured (image : ImagePayload)

/-- The results that a call can have; an actuation that no backend serves yields no id. -/
def takes : Call → Answer Observation → Bool
  | .decided .listApps, .plain | .decided .listWindows, .plain | .decided .getWindow, .plain
  | .decided .launchApp, .plain => true
  | .decided .activateWindow, .acted _ | .decided .closeWindow, .acted _ => true
  | .decided .capture, .captured _ => true
  | .decided .observe, .observed _ _ | .decided .wait, .observed _ _ => true
  | .decided .accessibilityTree, .plain | .decided .findAccessible, .plain => true
  | .decided .invokeAccessibleAction, .plain | .decided .invokeAccessibleAction, .acted _ => true
  | .decided .click, .acted _ | .decided .typeText, .acted _ | .decided .keypress, .acted _
  | .decided .scroll, .acted _ => true
  | .observe, .observed _ _ => true
  | .accessibilityTree, .plain => true
  | _, _ => false

def Execution.record (e : Execution Observation) : Answer Observation → Execution Observation
  | .plain => e
  | .acted actionId => { e with actionId := some actionId }
  | .observed observation image => { e with observation := some observation, image := image }
  | .captured image => { e with image := some image }

inductive StepStatus
  | ok
  | recovered
  | failed
  | finished
  deriving DecidableEq

structure StepRecord (Observation : Type u) where
  step : ℕ
  decision : ActionKind
  actionId : Option ℕ
  observation : Option Observation
  status : StepStatus
  error : Option Error
  decisionLatencyMs : ℕ
  readback : Bool
  -- History: how many attempts at the step's calls were answered with an error.
  attempts : ℕ

/-! ## The loop -/

/-- What of the loop is fixed for all of its runs. -/
structure Setup where
  config : LoopConfig
  supportsImages : Bool
  maxImages : ℕ

/-- The loop as it is configured by default, with a provider that consumes images. -/
def Setup.default : Setup where
  config := {
    maxSteps := 20
    stepTimeoutMs := 30000
    observeAfterInput := true
    includeAccessibility := false
    maxConsecutiveFailures := 3
    retriesPerStep := 2 }
  supportsImages := true
  maxImages := 2

/-- Where the loop is; a call at hand comes with those that follow it. -/
inductive Phase (Observation : Type u)
  | idle
  | deciding
  | calling (kind : ActionKind) (latencyMs : ℕ) (call : Call) (rest : List Call) (retry : ℕ)
      (execution : Execution Observation)
  | failed (error : Error)

structure AgentLoop (Observation : Type u) where
  phase : Phase Observation
  steps : ℕ
  consecutiveFailures : ℕ
  context : ContextBuilder
  metrics : Metrics
  history : List (StepRecord Observation)
  lastActionId : Option ℕ
  -- History: the contexts that the provider was handed.
  contexts : List AgentContext

namespace AgentLoop

def new : AgentLoop Observation :=
  ⟨.idle, 0, 0, ContextBuilder.new, Metrics.new, [], none, []⟩

/-- The head of the loop: a step is begun, with the context that is built for it, or the budget is
exhausted and the run ends. -/
def beginStep (setup : Setup) (a : AgentLoop Observation) : AgentLoop Observation :=
  if a.steps < setup.config.maxSteps then
    { a with
      phase := .deciding
      metrics := a.metrics.recordStep
      contexts := a.contexts ++ [a.context.build] }
  else { a with phase := .idle }

def stepStatus (attempts : ℕ) : Option Error → StepStatus
  | some _ => .failed
  | none => if 0 < attempts then .recovered else .ok

/-- The actions of a step are counted when it succeeds, and else when something of it landed. -/
def recordedMetrics (m : Metrics) (kind : ActionKind) (execution : Execution Observation) :
    Option Error → Metrics
  | none => (m.recordAction kind execution.image.isSome execution.image).recordSuccess
  | some _ =>
    if execution.actionId.isSome || execution.observation.isSome || execution.image.isSome then
      m.recordAction kind execution.image.isSome execution.image
    else m

/-- Pixels only reach a provider that can consume them. -/
def recordedContext (setup : Setup) (b : ContextBuilder) (image : Option ImagePayload) :
    ContextBuilder :=
  match image with
  | some image => if setup.supportsImages then b.setImage setup.maxImages (some image) else b
  | none => b

def stepRecord (a : AgentLoop Observation) (kind : ActionKind) (latencyMs : ℕ)
    (execution : Execution Observation) (error : Option Error) : StepRecord Observation where
  step := a.steps
  decision := kind
  actionId := execution.actionId
  observation := execution.observation
  status := stepStatus execution.attempts error
  error := error
  decisionLatencyMs := latencyMs
  readback := execution.image.isSome
  attempts := execution.attempts

def recordStep (setup : Setup) (a : AgentLoop Observation) (kind : ActionKind) (latencyMs : ℕ)
    (execution : Execution Observation) (error : Option Error) : AgentLoop Observation :=
  { a with
    metrics := recordedMetrics a.metrics kind execution error
    context := recordedContext setup a.context execution.image
    history := a.history ++ [a.stepRecord kind latencyMs execution error] }

/-- The end of a run's task, which is recorded but not executed. -/
def finish (a : AgentLoop Observation) (latencyMs : ℕ) : AgentLoop Observation :=
  { a with
    phase := .idle
    steps := a.steps + 1
    history := a.history ++ [{
      step := a.steps
      decision := .finish
      actionId := none
      observation := none
      status := .finished
      error := none
      decisionLatencyMs := latencyMs
      readback := false
      attempts := 0 }] }

/-- The next call of the decision, or the record of its success after the last. -/
def advance (setup : Setup) (a : AgentLoop Observation) (kind : ActionKind) (latencyMs : ℕ)
    (execution : Execution Observation) : List Call → AgentLoop Observation
  | call :: rest => { a with phase := .calling kind latencyMs call rest 0 execution }
  | [] =>
    let recorded := a.recordStep setup kind latencyMs execution none
    { recorded with consecutiveFailures := 0, steps := a.steps + 1 }.beginStep setup

/-- The record of a step that failed, and how the loop goes on. -/
def abandon (setup : Setup) (a : AgentLoop Observation) (kind : ActionKind) (latencyMs : ℕ)
    (execution : Execution Observation) (error : Error) : AgentLoop Observation :=
  let recorded := a.recordStep setup kind latencyMs execution (some error)
  let failures := a.consecutiveFailures + 1
  if error.class = .fatal then
    { recorded with phase := .failed error, consecutiveFailures := failures }
  else if setup.config.maxConsecutiveFailures ≤ failures then
    { recorded with phase := .idle, steps := a.steps + 1, consecutiveFailures := failures }
  else { recorded with steps := a.steps + 1, consecutiveFailures := failures }.beginStep setup

end AgentLoop

inductive Label (Observation : Type u)
  -- A task is run: the first one, or a further one after a wakeup.
  | run
  -- The provider keeps failing.
  | giveUp (error : Error)
  | decide (kind : ActionKind) (latencyMs : ℕ)
  | answer (answer : Answer Observation)
  | fail (error : Error)

open AgentLoop

def step (setup : Setup) (a : AgentLoop Observation) :
    Label Observation → Option (AgentLoop Observation)
  | .run =>
    match a.phase with
    | .idle => some ({ a with steps := 0, consecutiveFailures := 0 }.beginStep setup)
    | _ => none
  | .giveUp error =>
    match a.phase with
    | .deciding => some { a with phase := .failed error }
    | _ => none
  | .decide kind latencyMs =>
    match a.phase with
    | .deciding =>
      let decided := { a with metrics := a.metrics.recordDecision latencyMs }
      if kind = .finish then some (decided.finish latencyMs)
      else
        some (decided.advance setup kind latencyMs Execution.default
          (execute setup.config kind))
    | _ => none
  | .answer answer =>
    match a.phase with
    | .calling kind latencyMs call rest _ execution =>
      if takes call answer then
        let told := match answer with
          | .acted actionId => { a with lastActionId := some actionId }
          | _ => a
        some (told.advance setup kind latencyMs (execution.record answer) rest)
      else none
    | _ => none
  | .fail error =>
    match a.phase with
    | .calling kind latencyMs call rest retry execution =>
      if call.degrades && isAccessibilityUnavailable error then none
      else
        let told := { a with metrics := a.metrics.recordFailure error }
        let tried := { execution with attempts := execution.attempts + 1 }
        if error.class = .retryable ∧ retry < setup.config.retriesPerStep then
          some { told with phase := .calling kind latencyMs call rest (retry + 1) tried }
        else some (told.abandon setup kind latencyMs tried error)
    | _ => none

def machine (Observation : Type u) (setup : Setup) :
    Machine (AgentLoop Observation) (Label Observation) :=
  ⟨new, step setup⟩

/-! ## The books of the loop -/

/-- What the report is about: the recorder, and the steps and contexts it accounts for. -/
structure Books (Observation : Type u) where
  metrics : Metrics
  context : ContextBuilder
  history : List (StepRecord Observation)
  contexts : List AgentContext

def AgentLoop.books (a : AgentLoop Observation) : Books Observation :=
  ⟨a.metrics, a.context, a.history, a.contexts⟩

/-- How many images a context can hold. -/
def Setup.capacity (setup : Setup) : ℕ :=
  if setup.supportsImages then min 2 setup.maxImages else 0

def readbacks (history : List (StepRecord Observation)) : List Bool :=
  history.map StepRecord.readback

/-- The record tells how its step went. -/
structure StepRecord.Told (record : StepRecord Observation) : Prop where
  failed : record.status = .failed ↔ record.error.isSome = true
  recovered : record.status = .recovered ↔ record.error = none ∧ 0 < record.attempts
  attempted : record.error.isSome = true → 1 ≤ record.attempts

/-- The recorder agrees with the recorded steps, `opened` of them still under way, and with the
attempts of these that failed. -/
structure Booked (setup : Setup) (opened pending : ℕ) (b : Books Observation) : Prop where
  sane : b.metrics.Sane
  steps : b.metrics.steps = b.history.length + opened
  failures : b.metrics.failures = (b.history.map StepRecord.attempts).sum + pending
  images : b.metrics.imagesSent = arrivals (readbacks b.history)
  rotated : b.context.Rotated
  shelf : b.context.imageCount = shelf setup.capacity 0 (readbacks b.history)
  shown : (b.contexts.map AgentContext.imageCount).sum =
    showings setup.capacity 0 (readbacks b.history) + opened * b.context.imageCount
  told : ∀ record ∈ b.history, record.Told

end ADesk.Agent.Accounts
