/- ADesk/Core/Event
   digest: The runtime event vocabulary, notifications, pointer positions and observations. -/

import ADesk.Core.Ids
import ADesk.Core.Geometry
import Mathlib.Data.Rat.Init

set_option autoImplicit false

namespace ADesk.Core.Event

open ADesk.Core.Ids (WindowId ActionId LaunchId NotificationId AppId)
open ADesk.Core.Geometry (Point Rect Region)

inductive NotificationUrgency
  | low | normal | critical
  deriving DecidableEq

/-- A selectable action attached to a notification. -/
structure NotificationAction where
  key : String
  label : String
  deriving DecidableEq

/-- Why a notification left the active inbox. -/
inductive NotificationCloseReason
  | dismissed | action | expired | closed
  deriving DecidableEq

/-- A stored notification; `hints` lists the string map in key order. -/
structure Notification where
  id : NotificationId
  source : Option String
  title : String
  body : String
  urgency : NotificationUrgency
  category : Option String
  actions : List NotificationAction
  hints : List (String × String)
  postedSeq : ℕ
  postedTsMs : ℕ
  dismissed : Bool
  closedSeq : Option ℕ
  closeReason : Option NotificationCloseReason
  timeoutMs : Option ℕ
  deriving DecidableEq

/-- The kind of a runtime event, without its payload. -/
inductive EventKind
  | windowCreated | windowDestroyed | windowActivated | titleChanged | surfaceCommit
  | focusChanged | popupAppeared | popupDisappeared | appLaunched
  | notification | notificationClosed | notificationAction
  deriving DecidableEq

/-- Everything reported on the one event stream. `seq` is the global sequence number and
`tsMs` monotonic milliseconds since compositor start. -/
inductive RuntimeEvent
  | windowCreated (seq tsMs : ℕ) (windowId : WindowId) (appId : Option AppId) (pid : Option ℤ)
      (launchId : Option LaunchId) (title : Option String)
  | windowDestroyed (seq tsMs : ℕ) (windowId : WindowId)
  | windowActivated (seq tsMs : ℕ) (windowId : WindowId) (previous : Option WindowId)
  | titleChanged (seq tsMs : ℕ) (windowId : WindowId) (title : Option String)
  | surfaceCommit (seq tsMs : ℕ) (windowId : WindowId) (commitSeq : ℕ) (damage : Region)
  | focusChanged (seq tsMs : ℕ) (windowId : Option WindowId)
  | popupAppeared (seq tsMs : ℕ) (windowId : WindowId) (popupId : ℕ)
  | popupDisappeared (seq tsMs : ℕ) (windowId : WindowId) (popupId : ℕ)
  | appLaunched (seq tsMs : ℕ) (launchId : LaunchId) (appId : AppId) (pid : Option ℤ)
  | notification (seq tsMs : ℕ) (notification : Notification)
  | notificationClosed (seq tsMs : ℕ) (notificationId : NotificationId)
      (reason : NotificationCloseReason)
  | notificationAction (seq tsMs : ℕ) (notificationId : NotificationId) (actionKey : String)
  deriving DecidableEq

namespace RuntimeEvent

/-- Global monotonic sequence number. -/
def seq : RuntimeEvent → ℕ
  | windowCreated seq .. | windowDestroyed seq .. | windowActivated seq .. | titleChanged seq ..
  | surfaceCommit seq .. | focusChanged seq .. | popupAppeared seq .. | popupDisappeared seq ..
  | appLaunched seq .. | notification seq .. | notificationClosed seq ..
  | notificationAction seq .. => seq

def tsMs : RuntimeEvent → ℕ
  | windowCreated _ tsMs .. | windowDestroyed _ tsMs .. | windowActivated _ tsMs ..
  | titleChanged _ tsMs .. | surfaceCommit _ tsMs .. | focusChanged _ tsMs ..
  | popupAppeared _ tsMs .. | popupDisappeared _ tsMs .. | appLaunched _ tsMs ..
  | notification _ tsMs .. | notificationClosed _ tsMs .. | notificationAction _ tsMs .. => tsMs

def kind : RuntimeEvent → EventKind
  | windowCreated .. => .windowCreated
  | windowDestroyed .. => .windowDestroyed
  | windowActivated .. => .windowActivated
  | titleChanged .. => .titleChanged
  | surfaceCommit .. => .surfaceCommit
  | focusChanged .. => .focusChanged
  | popupAppeared .. => .popupAppeared
  | popupDisappeared .. => .popupDisappeared
  | appLaunched .. => .appLaunched
  | notification .. => .notification
  | notificationClosed .. => .notificationClosed
  | notificationAction .. => .notificationAction

/-- The window the event belongs to; launches and notifications have none. -/
def windowId : RuntimeEvent → Option WindowId
  | windowCreated _ _ windowId .. | windowDestroyed _ _ windowId
  | windowActivated _ _ windowId _ | titleChanged _ _ windowId _
  | surfaceCommit _ _ windowId .. | popupAppeared _ _ windowId _
  | popupDisappeared _ _ windowId _ => some windowId
  | focusChanged _ _ windowId => windowId
  | appLaunched .. | notification .. | notificationClosed .. | notificationAction .. => none

end RuntimeEvent

/-- Kinds the server synthesizes; the compositor emits all the others. -/
def EventKind.synthesized : EventKind → Bool
  | .appLaunched | .notification | .notificationClosed | .notificationAction => true
  | _ => false

/-- A window-relative pointer position. Fractions are exact rationals here; no modelled
operation computes with them. -/
inductive Position
  | pixels (point : Point)
  | normalized (x y : ℚ)
  deriving DecidableEq

/-- What a resolved wait reports about window state relative to an action. -/
structure Observation where
  windowId : Option WindowId
  afterAction : Option ActionId
  commits : ℕ
  changedRegions : List Rect
  focusChanged : Option Bool
  titleChanged : Bool
  newWindows : List WindowId
  destroyedWindows : List WindowId
  popupsAppeared : List ℕ
  popupsDisappeared : List ℕ
  elapsedMs : ℕ
  quiet : Bool
  timedOut : Bool
  lastCommitSeq : ℕ
  seq : ℕ
  deriving DecidableEq

end ADesk.Core.Event
