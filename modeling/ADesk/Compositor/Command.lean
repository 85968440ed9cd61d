/- ADesk/Compositor/Command
   digest: The commands that input methods send to the compositor, its errors and its snapshot. -/

import ADesk.Compositor.Keys
import ADesk.Core.Event

set_option autoImplicit false

namespace ADesk.Compositor.Command

open ADesk.Core.Event (Position)
open ADesk.Core.Geometry (Rect)
open ADesk.Core.Ids (WindowId)
open ADesk.Compositor.Keys

/-! ## Commands -/

inductive Button
  | left | right | middle | side | extra
  deriving DecidableEq

inductive ButtonState
  | pressed | released
  deriving DecidableEq

/-- The commands that input methods send, without their reply channels. -/
inductive RuntimeCommand
  | activateWindow (windowId : WindowId)
  | pointerMove (position : Position)
  | pointerButton (button : Button) (state : ButtonState)
  | pointerAxis (dx dy : ℚ)
  | keyEvent (key : KeyCode) (state : KeyState)
  deriving DecidableEq

/-! ## Errors -/

inductive ErrorCode
  | invalidRequest | unknownMethod | unknownWindow | unknownApp | unknownNotification
  | unknownAccessible | launchFailed | captureFailed | renderFailed | timeout | notSupported | busy
  | internal | shuttingDown | protocolVersionMismatch
  deriving DecidableEq

/-- The error a compositor reply carries. -/
structure CoreError where
  code : ErrorCode
  message : List Char
  deriving DecidableEq

/-- The errors that serving input can meet. -/
inductive CompositorError
  | unknownWindow (windowId : WindowId)
  | invalidRequest (message : List Char)
  | windowManagement (message : List Char)
  | render (message : List Char)
  | stopped
  | internal (message : List Char)
  deriving DecidableEq

namespace CompositorError

def code : CompositorError → ErrorCode
  | .unknownWindow _ => .unknownWindow
  | .invalidRequest _ => .invalidRequest
  | .render _ => .renderFailed
  | .stopped => .shuttingDown
  | .windowManagement _ | .internal _ => .internal

def message : CompositorError → List Char
  | .unknownWindow windowId =>
    "window ".toList ++ Nat.toDigits 10 windowId.val ++ " is not known".toList
  | .invalidRequest message => "invalid request: ".toList ++ message
  | .windowManagement message => "window management error: ".toList ++ message
  | .render message => "rendering failed: ".toList ++ message
  | .stopped => "compositor thread has terminated".toList
  | .internal message => "internal error: ".toList ++ message

def toCore (error : CompositorError) : CoreError := ⟨error.code, error.message⟩

end CompositorError

/-! ## The snapshot -/

structure WindowInfo where
  windowId : WindowId
  geometry : Rect
  deriving DecidableEq

/-- What the input methods read of a state snapshot. -/
structure StateSnapshot where
  windows : List WindowInfo
  activeWindowId : Option WindowId
  keyboardFocus : Option WindowId
  deriving DecidableEq

def StateSnapshot.window (snapshot : StateSnapshot) (windowId : WindowId) : Option WindowInfo :=
  snapshot.windows.find? fun window => window.windowId = windowId

end ADesk.Compositor.Command
