/- ADesk/Server/Failures
   digest: The failures a request can meet and the codes they are answered with. -/

import ADesk.A11y.Source
import ADesk.Compositor.Command
import ADesk.Core.Ids
import ADesk.Notify.Store

set_option autoImplicit false

namespace ADesk.Compositor.Command.ErrorCode

/-- The name of a code on the wire. -/
def asStr : ErrorCode → String
  | .invalidRequest => "invalid_request"
  | .unknownMethod => "unknown_method"
  | .unknownWindow => "unknown_window"
  | .unknownApp => "unknown_app"
  | .unknownNotification => "unknown_notification"
  | .unknownAccessible => "unknown_accessible"
  | .launchFailed => "launch_failed"
  | .captureFailed => "capture_failed"
  | .renderFailed => "render_failed"
  | .timeout => "timeout"
  | .notSupported => "not_supported"
  | .busy => "busy"
  | .internal => "internal"
  | .shuttingDown => "shutting_down"
  | .protocolVersionMismatch => "protocol_version_mismatch"

def all : List ErrorCode :=
  [.invalidRequest, .unknownMethod, .unknownWindow, .unknownApp, .unknownNotification,
    .unknownAccessible, .launchFailed, .captureFailed, .renderFailed, .timeout, .notSupported,
    .busy, .internal, .shuttingDown, .protocolVersionMismatch]

def ofStr (name : String) : Option ErrorCode := all.find? fun code => code.asStr = name

theorem ofStr_asStr (code : ErrorCode) : ofStr code.asStr = some code := by
  cases code <;> decide

end ADesk.Compositor.Command.ErrorCode

namespace ADesk.Server.Failures

open ADesk.A11y.Source (A11yError)
open ADesk.Compositor.Command
open ADesk.Core.Ids

/-! ## The errors of each component -/

inductive ObserverError
  | unknownWindow (windowId : WindowId)
  | unknownAction (actionId : ActionId)
  | internal (message : String)

def ObserverError.code : ObserverError → ErrorCode
  | .unknownWindow _ => .unknownWindow
  | .unknownAction _ => .invalidRequest
  | .internal _ => .internal

inductive NotifyError
  | unusable (error : Notify.Store.Error)
  | internal (message : String)

def NotifyError.code : NotifyError → ErrorCode
  | .unusable (.unknownNotification _) => .unknownNotification
  | .unusable (.invalidRequest _) => .invalidRequest
  | .internal _ => .internal

/-- Where an accessibility request fails: in the service, or before it for want of a window. -/
inductive AccessibilityError
  | service (error : A11yError)
  | noActiveWindow

def AccessibilityError.code : AccessibilityError → ErrorCode
  | .service (.unavailable _) | .service (.notCorrelated _) => .notSupported
  | .service (.unknownNode _) => .unknownAccessible
  | .service (.invalidRequest _) => .invalidRequest
  | .service (.backend _) => .internal
  | .noActiveWindow => .unknownWindow

inductive RegistryError
  | unknownApp (app : String)
  | invalidEntry (path reason : String)
  | noExec (app : String)
  | invalidExec (app source : String)
  | tryExecNotFound (program : String)
  | spawn (source : String)
  | io (path source : String)
  | invalidArgument (message : String)

def RegistryError.code : RegistryError → ErrorCode
  | .unknownApp _ => .unknownApp
  | .invalidEntry _ _ | .io _ _ => .internal
  | .noExec _ => .notSupported
  | .invalidExec _ _ | .tryExecNotFound _ | .spawn _ => .launchFailed
  | .invalidArgument _ => .invalidRequest

inductive RenderError
  | targetCreation (source : String)
  | targetBind (source : String)
  | renderFailed (source : String)
  | readback (source : String)
  | unsupportedFormat (format : String)
  | importFailed (reason : String)
  | unsupportedBuffer (reason : String)
  | invalidConfig (reason : String)
  | invalidImage (reason : String)
  | encode (reason : String)

def RenderError.code : RenderError → ErrorCode
  | .targetCreation _ | .targetBind _ | .renderFailed _ | .readback _ | .unsupportedFormat _
  | .importFailed _ | .unsupportedBuffer _ => .renderFailed
  | .invalidConfig _ | .invalidImage _ => .invalidRequest
  | .encode _ => .captureFailed

inductive InspectorError
  | invalidFrame (message : String)
  | invalidRequest (message : String)
  | render (error : RenderError)

def InspectorError.code : InspectorError → ErrorCode
  | .invalidFrame _ | .invalidRequest _ => .invalidRequest
  | .render _ => .renderFailed

/-- The errors of the compositor: those of serving a command, and those of its life cycle. -/
inductive CompositorFailure
  | serving (error : CompositorError)
  | notReady
  | startupAborted
  | startup (message : String)

def CompositorFailure.code : CompositorFailure → ErrorCode
  | .serving error => error.code
  | .notReady | .startupAborted => .shuttingDown
  | .startup _ => .internal

inductive ProtoError
  | malformed (message : String)
  | unknownMethod (method : String)
  | invalidParams (method message : String)
  | invalidEventData (kind message : String)
  | unknownEventKind (kind : String)
  | invalidResult (message : String)
  | versionMismatch (expected got : ℕ)
  | json (message : String)
  | base64 (message : String)

def ProtoError.errorCode : ProtoError → ErrorCode
  | .unknownMethod _ => .unknownMethod
  | .versionMismatch _ _ => .protocolVersionMismatch
  | .malformed _ | .invalidParams _ _ | .invalidEventData _ _ | .unknownEventKind _
  | .invalidResult _ | .json _ | .base64 _ => .invalidRequest

/-! ## The error of a request -/

inductive ServerError
  | compositor (error : CompositorFailure)
  | io (message : String)
  | registry (error : RegistryError)
  | proto (error : ProtoError)
  | observer (error : ObserverError)
  | notify (error : NotifyError)
  | a11y (error : AccessibilityError)
  | inspector (error : InspectorError)
  | render (error : RenderError)
  | shuttingDown
  | join (message : String)
  | internal (message : String)

def ServerError.code : ServerError → ErrorCode
  | .compositor error => error.code
  | .registry error => error.code
  | .proto error => error.errorCode
  | .observer error => error.code
  | .notify error => error.code
  | .a11y error => error.code
  | .inspector error => error.code
  | .render error => error.code
  | .shuttingDown => .shuttingDown
  | .io _ | .join _ | .internal _ => .internal

/-- The codes that tell a client to try again. -/
def Transient (code : ErrorCode) : Prop := code = .timeout ∨ code = .busy

/-- The runtime answers no request with a code that asks for another try. -/
theorem code_not_transient (error : ServerError) : ¬ Transient error.code := by
  unfold Transient
  cases error with
  | compositor error =>
    cases error with
    | serving error => cases error <;> simp [ServerError.code, CompositorFailure.code, CompositorError.code]
    | notReady => simp [ServerError.code, CompositorFailure.code]
    | startupAborted => simp [ServerError.code, CompositorFailure.code]
    | startup message => simp [ServerError.code, CompositorFailure.code]
  | io message => simp [ServerError.code]
  | registry error => cases error <;> simp [ServerError.code, RegistryError.code]
  | proto error => cases error <;> simp [ServerError.code, ProtoError.errorCode]
  | observer error => cases error <;> simp [ServerError.code, ObserverError.code]
  | notify error =>
    cases error with
    | unusable error => cases error <;> simp [ServerError.code, NotifyError.code]
    | internal message => simp [ServerError.code, NotifyError.code]
  | a11y error =>
    cases error with
    | service error => cases error <;> simp [ServerError.code, AccessibilityError.code]
    | noActiveWindow => simp [ServerError.code, AccessibilityError.code]
  | inspector error => cases error <;> simp [ServerError.code, InspectorError.code]
  | render error => cases error <;> simp [ServerError.code, RenderError.code]
  | shuttingDown => simp [ServerError.code]
  | join message => simp [ServerError.code]
  | internal message => simp [ServerError.code]

end ADesk.Server.Failures
