/- ADesk/Agent/Errors
   digest: The errors of the agent, their classes, and those the AGP client is mapped to. -/

import ADesk.Client.Transport
import ADesk.Server.Failures

set_option autoImplicit false

namespace ADesk.Agent.Errors

open ADesk.Client.Transport
open ADesk.Compositor.Command (ErrorCode)
open ADesk.Server.Failures (Transient code_not_transient)

inductive ProviderError
  | missingApiKey
  | transport (message : String)
  | status (status : ℕ) (body : String)
  | timeout (millis : ℕ)
  | invalidResponse (message : String)
  deriving DecidableEq

inductive Error
  | client (code : ErrorCode) (message : String)
  | provider (error : ProviderError)
  | transport (message : String)
  | protocolVersion (expected got : ℕ)
  | stepBudgetExhausted (steps : ℕ)
  | failureBudgetExhausted (failures : ℕ)
  | stepTimeout (step timeoutMs : ℕ)
  | invalidDecision (message : String)
  | io (message : String)
  | json (message : String)
  deriving DecidableEq

inductive ErrorClass
  | retryable
  | recoverable
  | fatal
  deriving DecidableEq

/-- How the loop reacts to an error. -/
def Error.class : Error → ErrorClass
  | .client .timeout _ | .client .busy _ => .retryable
  | .client .unknownWindow _ | .client .unknownApp _ | .client .captureFailed _
  | .client .renderFailed _ => .recoverable
  | .transport _ | .io _ => .retryable
  | .provider (.transport _) | .provider (.timeout _) => .retryable
  | _ => .fatal

/-- The agent's error for one of the client; the reader lets no other code name through. -/
def mapClientError : ClientError → Error
  | .io _ message => .transport message
  | .closed => .transport "AGP connection closed"
  | .server code message => .client ((ErrorCode.ofStr code).getD .internal) message
  | .protocol message => .client .internal s!"AGP protocol violation: {message}"
  | .invalidPayload message =>
    .client .internal s!"AGP result did not match the protocol: {message}"
  | .lagged skipped => .client .internal s!"AGP event stream lagged: {skipped} events dropped"

/-- The errors by which the accessibility backend cannot serve a request. -/
def isAccessibilityUnavailable : Error → Bool
  | .client .notSupported _ | .client .unknownAccessible _ | .client .unknownWindow _ => true
  | _ => false

/-- The response to a request that failed in the runtime. -/
def errorResponse (error : Server.Failures.ServerError) (message : String) : ServerError :=
  ⟨error.code.asStr, message⟩

/-- A failure of the runtime is never retried. -/
theorem error_response_not_retryable (error : Server.Failures.ServerError) (message : String) :
    (mapClientError (.server (errorResponse error message).code message)).class ≠ .retryable := by
  have steady := code_not_transient error
  simp only [mapClientError, errorResponse, ErrorCode.ofStr_asStr, Option.getD_some]
  cases code : error.code with
  | timeout => exact absurd (Or.inl code) steady
  | busy => exact absurd (Or.inr code) steady
  | _ => simp [Error.class]

end ADesk.Agent.Errors
