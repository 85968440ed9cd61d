/- ADesk/Agent/Execute
   digest: The agent loop over a connection: decisions, the calls of each, and their attempts. -/

import ADesk.Agent.Errors
import ADesk.Client.Lines

set_option autoImplicit false

namespace ADesk.Agent.Execute

open ADesk.Agent.Errors
open ADesk.Client.Lines (Wire)
open ADesk.Client.Transport (Completion Connection Encoding Request)
open ADesk.Foundation.Execution

universe u v

variable {ε : Type u} {Value : Type v}

/-! ## Decisions and their calls -/

inductive ActionKind
  | listApps | listWindows | getWindow | launchApp | activateWindow | closeWindow | capture
  | observe | wait | accessibilityTree | findAccessible | invokeAccessibleAction | click | typeText
  | keypress | scroll | finish
  deriving DecidableEq

/-- What of the loop's configuration decides which calls are made, and how often. -/
structure LoopConfig where
  maxSteps : ℕ
  stepTimeoutMs : ℕ
  observeAfterInput : Bool
  includeAccessibility : Bool
  maxConsecutiveFailures : ℕ
  retriesPerStep : ℕ

/-- A call made for a decision: its own, or one that follows it. -/
inductive Call
  | decided (kind : ActionKind)
  | observe
  | accessibilityTree
  deriving DecidableEq

/-- The call that carries the decision out. -/
def Call.own : Call → Bool
  | .decided _ => true
  | .observe | .accessibilityTree => false

/-- The method of the client that a call goes through. -/
def Call.method : Call → String
  | .decided .listApps => "list_apps"
  | .decided .listWindows => "list_windows"
  | .decided .getWindow => "get_window"
  | .decided .launchApp => "launch_app"
  | .decided .activateWindow => "activate_window"
  | .decided .closeWindow => "close_window"
  | .decided .capture => "capture_window"
  | .decided .observe | .decided .wait | .observe => "observe"
  | .decided .accessibilityTree | .accessibilityTree => "accessibility_tree"
  | .decided .findAccessible => "find_accessible"
  | .decided .invokeAccessibleAction => "invoke_accessible_action"
  | .decided .click => "click"
  | .decided .typeText => "type_text"
  | .decided .keypress => "keypress"
  | .decided .scroll => "scroll"
  | .decided .finish => "finish"

/-- The calls for which a backend that is not there counts as an answer. -/
def Call.degrades : Call → Bool
  | .decided .accessibilityTree | .decided .findAccessible | .decided .invokeAccessibleAction
  | .accessibilityTree => true
  | _ => false

/-- The outline that an observation is enriched with. -/
def enrichAccessibility (config : LoopConfig) : List Call :=
  if config.includeAccessibility then [.accessibilityTree] else []

def observeAfterInput (config : LoopConfig) : List Call :=
  if config.observeAfterInput then .observe :: enrichAccessibility config else []

/-- The retried calls of `execute` for a decision. -/
def execute (config : LoopConfig) : ActionKind → List Call
  | .accessibilityTree =>
    if config.includeAccessibility then [.decided .accessibilityTree] else []
  | .findAccessible => if config.includeAccessibility then [.decided .findAccessible] else []
  | .invokeAccessibleAction =>
    if config.includeAccessibility then [.decided .invokeAccessibleAction] else []
  | .observe => .decided .observe :: enrichAccessibility config
  | .click => .decided .click :: observeAfterInput config
  | .typeText => .decided .typeText :: observeAfterInput config
  | .keypress => .decided .keypress :: observeAfterInput config
  | .scroll => .decided .scroll :: observeAfterInput config
  | .finish => []
  | kind => [.decided kind]

/-! ## The loop -/

/-- Where the loop is; `calls` starts with the call at hand. -/
inductive Phase
  -- No run is under way: none was begun, or the last one ended with an outcome.
  | idle
  | deciding
  | ready (calls : List Call) (retry : ℕ)
  | calling (request : ℕ) (calls : List Call) (retry : ℕ)
  | failed (error : Error)

/-- One bounded call of the client for a decision. -/
structure Attempt where
  decision : ℕ
  call : Call
  request : ℕ

structure AgentLoop (Value : Type v) (ε : Type u) where
  wire : Wire Value ε
  phase : Phase
  steps : ℕ
  consecutiveFailures : ℕ
  -- History: how many decisions were executed, and every attempt made for one of them.
  decisions : ℕ
  attempts : List Attempt

def AgentLoop.start : AgentLoop Value ε := ⟨.connect, .idle, 0, 0, 0, []⟩

/-- The loop goes on to the next step, if there is one. -/
def AgentLoop.nextStep (config : LoopConfig) (a : AgentLoop Value ε) : AgentLoop Value ε :=
  { a with
    steps := a.steps + 1
    phase := if a.steps + 1 < config.maxSteps then .deciding else .idle }

/-- The call at hand has its answer; the decision is done with the last of its calls. -/
def AgentLoop.succeed (config : LoopConfig) (a : AgentLoop Value ε) : List Call → AgentLoop Value ε
  | [] => { a.nextStep config with consecutiveFailures := 0 }
  | calls => { a with phase := .ready calls 0 }

/-- The step fails: it is never executed again, whatever the class of the error. -/
def AgentLoop.fail (config : LoopConfig) (a : AgentLoop Value ε) (error : Error) : AgentLoop Value ε :=
  let failures := a.consecutiveFailures + 1
  if error.class = .fatal then { a with phase := .failed error, consecutiveFailures := failures }
  else if config.maxConsecutiveFailures ≤ failures then
    { a with phase := .idle, steps := a.steps + 1, consecutiveFailures := failures }
  else { a.nextStep config with consecutiveFailures := failures }

/-- The result of a call, as the loop sees it. -/
def outcome (decodes : Call → Value → Except String Unit) (call : Call)
    (completion : Completion Value) : Except Error Unit :=
  match completion.toResult call.method (decodes call) with
  | .ok result => .ok result
  | .error error =>
    if call.degrades && isAccessibilityUnavailable (mapClientError error) then .ok ()
    else .error (mapClientError error)

/-- The end of a bounded call: an error of the retryable class is tried again while retries are
left. -/
def AgentLoop.settle (config : LoopConfig) (a : AgentLoop Value ε) (calls : List Call) (retry : ℕ) :
    Except Error Unit → AgentLoop Value ε
  | .ok () => a.succeed config calls.tail
  | .error error =>
    if error.class = .retryable ∧ retry < config.retriesPerStep then
      { a with phase := .ready calls (retry + 1) }
    else a.fail config error

/-- The steps of the connection that are not the runtime answering with an error. -/
def unanswered : Client.Transport.Label Value ε → Bool
  | .readLine (.response _ (.error _)) => false
  | _ => true

inductive Label (Value : Type v) (ε : Type u)
  | run
  | giveUp (error : Error)
  | decide (kind : ActionKind)
  | attempt (encoding : Encoding)
  | resolve
  | stepTimeout
  -- Anything else the connection does, calls made outside the loop's decisions among it.
  | transport (label : Client.Transport.Label Value ε)
  -- The runtime's answer to a request that failed.
  | answer (id : ℕ) (error : Server.Failures.ServerError) (message : String)
  | serve (id : ℕ)

def step (capacity : ℕ) (fits : Value → Bool) (decodes : Call → Value → Except String Unit)
    (config : LoopConfig) (a : AgentLoop Value ε) : Label Value ε → Option (AgentLoop Value ε)
  | .run =>
    match a.phase with
    | .idle =>
      some { a with
        steps := 0
        consecutiveFailures := 0
        phase := if 0 < config.maxSteps then .deciding else .idle }
    | _ => none
  | .giveUp error =>
    match a.phase with
    | .deciding => some { a with phase := .failed error }
    | _ => none
  | .decide kind =>
    match a.phase with
    | .deciding =>
      if kind = .finish then some { a with phase := .idle, steps := a.steps + 1 }
      else some ({ a with decisions := a.decisions + 1 }.succeed config (execute config kind))
    | _ => none
  | .attempt encoding =>
    match a.phase with
    | .ready (call :: rest) retry =>
      (Client.Lines.step capacity fits a.wire (.transport (.call encoding false))).map fun wire =>
        { a with
          wire := wire
          phase := .calling a.wire.connection.requests.length (call :: rest) retry
          attempts := a.attempts ++ [⟨a.decisions, call, a.wire.connection.requests.length⟩] }
    | _ => none
  | .resolve =>
    match a.phase with
    | .calling request (call :: rest) retry =>
      match a.wire.connection.requests[request]?.map Request.stage with
      | some (.completed completion) =>
        some (a.settle config (call :: rest) retry (outcome decodes call completion))
      | _ => none
    | _ => none
  | .stepTimeout =>
    -- The future of the call is dropped; its line may be out all the same.
    match a.phase with
    | .calling _ calls retry =>
      some (a.settle config calls retry (.error (.stepTimeout a.steps config.stepTimeoutMs)))
    | _ => none
  | .transport label =>
    if unanswered label then
      (Client.Lines.step capacity fits a.wire (.transport label)).map fun wire =>
        { a with wire := wire }
    else none
  | .answer id error message =>
    (Client.Lines.step capacity fits a.wire
      (.transport (.readLine (.response id (.error (errorResponse error message)))))).map
        fun wire => { a with wire := wire }
  | .serve id =>
    (Client.Lines.step capacity fits a.wire (.serve id)).map fun wire => { a with wire := wire }

def machine (ε : Type u) (capacity : ℕ) (fits : Value → Bool)
    (decodes : Call → Value → Except String Unit) (config : LoopConfig) :
    Machine (AgentLoop Value ε) (Label Value ε) :=
  ⟨AgentLoop.start, step capacity fits decodes config⟩

/-- The request is an attempt at the call that carries the decision out. -/
def AgentLoop.carries (a : AgentLoop Value ε) (decision id : ℕ) : Bool :=
  a.attempts.any fun attempt =>
    attempt.decision == decision && attempt.call.own &&
      (a.wire.connection.requests[attempt.request]?.bind Request.id == some id)

end ADesk.Agent.Execute
