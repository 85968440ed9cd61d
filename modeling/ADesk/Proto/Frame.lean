/- ADesk/Proto/Frame
   digest: The frames of events: their kinds, the payloads of each, and the values that carry
   them. -/

import ADesk.Proto.Event

set_option autoImplicit false

namespace ADesk.Proto.Frame

open ADesk.Core.Event hiding EventKind
open ADesk.Core.Geometry (Region)
open ADesk.Core.Ids
open ADesk.Foundation.Json
open ADesk.Proto.Event

variable {Image : Type}

/-! ## Payloads -/

structure WindowCreatedEvent where
  windowId : WindowId
  appId : Option AppId
  pid : Option ℤ
  launchId : Option LaunchId
  title : Option String

structure WindowDestroyedEvent where
  windowId : WindowId

structure WindowActivatedEvent where
  windowId : WindowId
  previous : Option WindowId

structure TitleChangedEvent where
  windowId : WindowId
  title : Option String

structure SurfaceCommitEvent where
  windowId : WindowId
  commitSeq : ℕ
  damage : Region

structure FocusChangedEvent where
  windowId : Option WindowId

structure PopupAppearedEvent where
  windowId : WindowId
  popupId : ℕ

structure PopupDisappearedEvent where
  windowId : WindowId
  popupId : ℕ

structure AppLaunchedEvent where
  launchId : LaunchId
  appId : AppId
  pid : Option ℤ

structure NotificationEvent where
  notification : Notification

structure NotificationClosedEvent where
  notificationId : NotificationId
  reason : NotificationCloseReason

structure NotificationActionEvent where
  notificationId : NotificationId
  actionKey : String

structure QuietEvent where
  windowId : Option WindowId
  quietMs : ℕ

structure InspectFrameEvent (Image : Type) where
  subscriptionId : ℕ
  image : Image

def windowCreated : Codec 1 WindowCreatedEvent where
  encode e := .object
    [("app_id", appId.written e.appId), ("launch_id", launchId.written e.launchId),
      ("pid", i32.written e.pid), ("title", Codec.text.written e.title),
      ("window_id", windowId.encode e.windowId)]
  decode
    | .object members => do
      let window ← windowId.required members "window_id"
      let app ← appId.optional members "app_id"
      let pid ← i32.optional members "pid"
      let launch ← launchId.optional members "launch_id"
      let title ← Codec.text.optional members "title"
      some ⟨window, app, pid, launch, title⟩
    | _ => none
  Fits e := windowId.Fits e.windowId ∧ (∀ pid ∈ e.pid, i32.Fits pid) ∧
    ∀ launch ∈ e.launchId, launchId.Fits launch
  reads e fits := by
    obtain ⟨window, pid, launch⟩ := fits
    have app := appId.found_written (a := e.appId) fun _ _ => trivial
    have title := Codec.text.found_written (a := e.title) fun _ _ => trivial
    simp [Codec.required, Codec.optional, List.lookup_cons, windowId.reads _ window, app, title,
      i32.found_written pid, launchId.found_written launch]
  held {room} e fits fitting := by
    obtain ⟨window, pid, launch⟩ := fits
    have app : (appId.written e.appId).Held (room - 1) :=
      appId.written_held (fun _ _ => trivial) (Nat.zero_le _)
    have title : (Codec.text.written e.title).Held (room - 1) :=
      Codec.text.written_held (fun _ _ => trivial) (Nat.zero_le _)
    refine .ofObject fitting
      (ascending ["app_id", "launch_id", "pid", "title", "window_id"] rfl (by decide)) fun inside => ?_
    simp [windowId.held _ window, app, title, i32.written_held pid, launchId.written_held launch]
  solid _ := Value.noConfusion

def windowDestroyed : Codec 1 WindowDestroyedEvent where
  encode e := .object [("window_id", windowId.encode e.windowId)]
  decode
    | .object members => do
      let window ← windowId.required members "window_id"
      some ⟨window⟩
    | _ => none
  Fits e := windowId.Fits e.windowId
  reads e fits := by simp [Codec.required, windowId.reads _ fits]
  held {room} e fits fitting := by
    refine .ofObject fitting (ascending ["window_id"] rfl (by decide)) fun inside => ?_
    simp [windowId.held _ fits]
  solid _ := Value.noConfusion

def windowActivated : Codec 1 WindowActivatedEvent where
  encode e := .object
    [("previous", windowId.written e.previous), ("window_id", windowId.encode e.windowId)]
  decode
    | .object members => do
      let window ← windowId.required members "window_id"
      let previous ← windowId.optional members "previous"
      some ⟨window, previous⟩
    | _ => none
  Fits e := windowId.Fits e.windowId ∧ ∀ previous ∈ e.previous, windowId.Fits previous
  reads e fits := by
    simp [Codec.required, Codec.optional, List.lookup_cons, windowId.reads _ fits.1,
      windowId.found_written fits.2]
  held {room} e fits fitting := by
    refine .ofObject fitting (ascending ["previous", "window_id"] rfl (by decide)) fun inside => ?_
    simp [windowId.held _ fits.1, windowId.written_held fits.2]
  solid _ := Value.noConfusion

def titleChanged : Codec 1 TitleChangedEvent where
  encode e := .object
    [("title", Codec.text.written e.title), ("window_id", windowId.encode e.windowId)]
  decode
    | .object members => do
      let window ← windowId.required members "window_id"
      let title ← Codec.text.optional members "title"
      some ⟨window, title⟩
    | _ => none
  Fits e := windowId.Fits e.windowId
  reads e fits := by
    have title := Codec.text.found_written (a := e.title) fun _ _ => trivial
    simp [Codec.required, Codec.optional, List.lookup_cons, windowId.reads _ fits, title]
  held {room} e fits fitting := by
    have title : (Codec.text.written e.title).Held (room - 1) :=
      Codec.text.written_held (fun _ _ => trivial) (Nat.zero_le _)
    refine .ofObject fitting (ascending ["title", "window_id"] rfl (by decide)) fun inside => ?_
    simp [windowId.held _ fits, title]
  solid _ := Value.noConfusion

def surfaceCommit : Codec 3 SurfaceCommitEvent where
  encode e := .object
    [("commit_seq", u64.encode e.commitSeq), ("damage", region.encode e.damage),
      ("window_id", windowId.encode e.windowId)]
  decode
    | .object members => do
      let window ← windowId.required members "window_id"
      let commitSeq ← u64.required members "commit_seq"
      let damage ← region.required members "damage"
      some ⟨window, commitSeq, damage⟩
    | _ => none
  Fits e := windowId.Fits e.windowId ∧ u64.Fits e.commitSeq ∧ region.Fits e.damage
  reads e fits := by
    obtain ⟨window, commitSeq, damage⟩ := fits
    simp [Codec.required, List.lookup_cons, windowId.reads _ window, u64.reads _ commitSeq,
      region.reads _ damage]
  held {room} e fits fitting := by
    obtain ⟨window, commitSeq, damage⟩ := fits
    refine .ofObject fitting
      (ascending ["commit_seq", "damage", "window_id"] rfl (by decide)) fun inside => ?_
    simp [windowId.held _ window, u64.held _ commitSeq, region.held _ damage inside]
  solid _ := Value.noConfusion

def focusChanged : Codec 1 FocusChangedEvent where
  encode e := .object [("window_id", windowId.written e.windowId)]
  decode
    | .object members => do
      let window ← windowId.optional members "window_id"
      some ⟨window⟩
    | _ => none
  Fits e := ∀ window ∈ e.windowId, windowId.Fits window
  reads e fits := by simp [Codec.optional, windowId.found_written fits]
  held {room} e fits fitting := by
    refine .ofObject fitting (ascending ["window_id"] rfl (by decide)) fun inside => ?_
    simp [windowId.written_held fits]
  solid _ := Value.noConfusion

/-- The fields of a popup's events. -/
def popup : Codec 1 (WindowId × ℕ) where
  encode e := .object [("popup_id", u64.encode e.2), ("window_id", windowId.encode e.1)]
  decode
    | .object members => do
      let window ← windowId.required members "window_id"
      let popupId ← u64.required members "popup_id"
      some (window, popupId)
    | _ => none
  Fits e := windowId.Fits e.1 ∧ u64.Fits e.2
  reads e fits := by
    simp [Codec.required, List.lookup_cons, windowId.reads _ fits.1, u64.reads _ fits.2]
  held {room} e fits fitting := by
    refine .ofObject fitting (ascending ["popup_id", "window_id"] rfl (by decide)) fun inside => ?_
    simp [windowId.held _ fits.1, u64.held _ fits.2]
  solid _ := Value.noConfusion

def popupAppeared : Codec 1 PopupAppearedEvent :=
  popup.via (fun e => ⟨e.1, e.2⟩) (fun e => (e.windowId, e.popupId)) fun _ => rfl

def popupDisappeared : Codec 1 PopupDisappearedEvent :=
  popup.via (fun e => ⟨e.1, e.2⟩) (fun e => (e.windowId, e.popupId)) fun _ => rfl

def appLaunched : Codec 1 AppLaunchedEvent where
  encode e := .object
    [("app_id", appId.encode e.appId), ("launch_id", launchId.encode e.launchId),
      ("pid", i32.written e.pid)]
  decode
    | .object members => do
      let launch ← launchId.required members "launch_id"
      let app ← appId.required members "app_id"
      let pid ← i32.optional members "pid"
      some ⟨launch, app, pid⟩
    | _ => none
  Fits e := launchId.Fits e.launchId ∧ ∀ pid ∈ e.pid, i32.Fits pid
  reads e fits := by
    have app := appId.reads e.appId trivial
    simp [Codec.required, Codec.optional, List.lookup_cons, launchId.reads _ fits.1, app,
      i32.found_written fits.2]
  held {room} e fits fitting := by
    have app : (appId.encode e.appId).Held (room - 1) := appId.held _ trivial (Nat.zero_le _)
    refine .ofObject fitting (ascending ["app_id", "launch_id", "pid"] rfl (by decide)) fun inside => ?_
    simp [launchId.held _ fits.1, app, i32.written_held fits.2]
  solid _ := Value.noConfusion

def notificationEvent : Codec 4 NotificationEvent where
  encode e := .object [("notification", notification.encode e.notification)]
  decode
    | .object members => do
      let posted ← notification.required members "notification"
      some ⟨posted⟩
    | _ => none
  Fits e := notification.Fits e.notification
  reads e fits := by simp [Codec.required, notification.reads _ fits]
  held {room} e fits fitting := by
    refine .ofObject fitting (ascending ["notification"] rfl (by decide)) fun inside => ?_
    simp [notification.held _ fits inside]
  solid _ := Value.noConfusion

def notificationClosed : Codec 1 NotificationClosedEvent where
  encode e := .object
    [("notification_id", notificationId.encode e.notificationId),
      ("reason", closeReason.encode e.reason)]
  decode
    | .object members => do
      let closed ← notificationId.required members "notification_id"
      let reason ← closeReason.required members "reason"
      some ⟨closed, reason⟩
    | _ => none
  Fits e := notificationId.Fits e.notificationId
  reads e fits := by
    have reason := closeReason.reads e.reason trivial
    simp [Codec.required, List.lookup_cons, notificationId.reads _ fits, reason]
  held {room} e fits fitting := by
    have reason : (closeReason.encode e.reason).Held (room - 1) :=
      closeReason.held _ trivial (Nat.zero_le _)
    refine .ofObject fitting (ascending ["notification_id", "reason"] rfl (by decide)) fun inside => ?_
    simp [notificationId.held _ fits, reason]
  solid _ := Value.noConfusion

def notificationActionEvent : Codec 1 NotificationActionEvent where
  encode e := .object
    [("action_key", .string e.actionKey),
      ("notification_id", notificationId.encode e.notificationId)]
  decode
    | .object members => do
      let acted ← notificationId.required members "notification_id"
      let key ← Codec.text.required members "action_key"
      some ⟨acted, key⟩
    | _ => none
  Fits e := notificationId.Fits e.notificationId
  reads e fits := by simp [Codec.required, List.lookup_cons, notificationId.reads _ fits]
  held {room} e fits fitting := by
    refine .ofObject fitting
      (ascending ["action_key", "notification_id"] rfl (by decide)) fun _ => ?_
    simp [notificationId.held _ fits, Value.Held.string]
  solid _ := Value.noConfusion

def quiet : Codec 1 QuietEvent where
  encode e := .object
    [("quiet_ms", u64.encode e.quietMs), ("window_id", windowId.written e.windowId)]
  decode
    | .object members => do
      let window ← windowId.optional members "window_id"
      let quietMs ← u64.required members "quiet_ms"
      some ⟨window, quietMs⟩
    | _ => none
  Fits e := (∀ window ∈ e.windowId, windowId.Fits window) ∧ u64.Fits e.quietMs
  reads e fits := by
    simp [Codec.required, Codec.optional, List.lookup_cons, windowId.found_written fits.1,
      u64.reads _ fits.2]
  held {room} e fits fitting := by
    refine .ofObject fitting (ascending ["quiet_ms", "window_id"] rfl (by decide)) fun inside => ?_
    simp [windowId.written_held fits.1, u64.held _ fits.2]
  solid _ := Value.noConfusion

/-! ## Kinds -/

inductive EventKind
  | windowCreated | windowDestroyed | windowActivated | titleChanged | surfaceCommit
  | surfaceDamage | focusChanged | popupAppeared | popupDisappeared | quiet | appLaunched
  | notification | notificationClosed | notificationAction | inspectFrame
  deriving DecidableEq

namespace EventKind

/-- The name of a kind on the wire. -/
def kindName : EventKind → String
  | windowCreated => "window_created"
  | windowDestroyed => "window_destroyed"
  | windowActivated => "window_activated"
  | titleChanged => "title_changed"
  | surfaceCommit => "surface_commit"
  | surfaceDamage => "surface_damage"
  | focusChanged => "focus_changed"
  | popupAppeared => "popup_appeared"
  | popupDisappeared => "popup_disappeared"
  | quiet => "quiet"
  | appLaunched => "app_launched"
  | notification => "notification"
  | notificationClosed => "notification_closed"
  | notificationAction => "notification_action"
  | inspectFrame => "inspect_frame"

def ofName : String → Option EventKind
  | "window_created" => some windowCreated
  | "window_destroyed" => some windowDestroyed
  | "window_activated" => some windowActivated
  | "title_changed" => some titleChanged
  | "surface_commit" => some surfaceCommit
  | "surface_damage" => some surfaceDamage
  | "focus_changed" => some focusChanged
  | "popup_appeared" => some popupAppeared
  | "popup_disappeared" => some popupDisappeared
  | "quiet" => some quiet
  | "app_launched" => some appLaunched
  | "notification" => some notification
  | "notification_closed" => some notificationClosed
  | "notification_action" => some notificationAction
  | "inspect_frame" => some inspectFrame
  | _ => none

@[simp] theorem ofName_kindName (kind : EventKind) : ofName kind.kindName = some kind := by
  cases kind with
  | _ => rfl

end EventKind

/-- The typed data of a frame, one variant for each kind that is emitted. -/
inductive EventPayload (Image : Type)
  | windowCreated (event : WindowCreatedEvent)
  | windowDestroyed (event : WindowDestroyedEvent)
  | windowActivated (event : WindowActivatedEvent)
  | titleChanged (event : TitleChangedEvent)
  | surfaceCommit (event : SurfaceCommitEvent)
  | focusChanged (event : FocusChangedEvent)
  | popupAppeared (event : PopupAppearedEvent)
  | popupDisappeared (event : PopupDisappearedEvent)
  | appLaunched (event : AppLaunchedEvent)
  | notification (event : NotificationEvent)
  | notificationClosed (event : NotificationClosedEvent)
  | notificationAction (event : NotificationActionEvent)
  | quiet (event : QuietEvent)
  | inspectFrame (event : InspectFrameEvent Image)

/-- How images are written and read; they are written without nesting. -/
structure ImageCodec (Image : Type) where
  encode : Image → Value
  decode : Value → Option Image
  nested : ∀ {room} image, (encode image).Nested (room + 1)

inductive ProtoError
  | malformed (message : String)
  | unknownEventKind (name : String)
  | invalidEventData (kind : String)
  deriving DecidableEq

namespace EventPayload

def kind : EventPayload Image → EventKind
  | windowCreated _ => .windowCreated
  | windowDestroyed _ => .windowDestroyed
  | windowActivated _ => .windowActivated
  | titleChanged _ => .titleChanged
  | surfaceCommit _ => .surfaceCommit
  | focusChanged _ => .focusChanged
  | popupAppeared _ => .popupAppeared
  | popupDisappeared _ => .popupDisappeared
  | appLaunched _ => .appLaunched
  | notification _ => .notification
  | notificationClosed _ => .notificationClosed
  | notificationAction _ => .notificationAction
  | quiet _ => .quiet
  | inspectFrame _ => .inspectFrame

/-- The payload of a runtime event, whose `seq` and `ts_ms` live on the frame. -/
def fromRuntime : RuntimeEvent → EventPayload Image
  | .windowCreated _ _ windowId appId pid launchId title =>
    windowCreated ⟨windowId, appId, pid, launchId, title⟩
  | .windowDestroyed _ _ windowId => windowDestroyed ⟨windowId⟩
  | .windowActivated _ _ windowId previous => windowActivated ⟨windowId, previous⟩
  | .titleChanged _ _ windowId title => titleChanged ⟨windowId, title⟩
  | .surfaceCommit _ _ windowId commitSeq damage => surfaceCommit ⟨windowId, commitSeq, damage⟩
  | .focusChanged _ _ windowId => focusChanged ⟨windowId⟩
  | .popupAppeared _ _ windowId popupId => popupAppeared ⟨windowId, popupId⟩
  | .popupDisappeared _ _ windowId popupId => popupDisappeared ⟨windowId, popupId⟩
  | .appLaunched _ _ launchId appId pid => appLaunched ⟨launchId, appId, pid⟩
  | .notification _ _ posted => notification ⟨posted⟩
  | .notificationClosed _ _ notificationId reason => notificationClosed ⟨notificationId, reason⟩
  | .notificationAction _ _ notificationId actionKey =>
    notificationAction ⟨notificationId, actionKey⟩

/-- The runtime event of a payload; the kinds of the protocol alone have none. -/
def toRuntime (seq tsMs : ℕ) : EventPayload Image → Option RuntimeEvent
  | windowCreated event =>
    some (.windowCreated seq tsMs event.windowId event.appId event.pid event.launchId event.title)
  | windowDestroyed event => some (.windowDestroyed seq tsMs event.windowId)
  | windowActivated event => some (.windowActivated seq tsMs event.windowId event.previous)
  | titleChanged event => some (.titleChanged seq tsMs event.windowId event.title)
  | surfaceCommit event =>
    some (.surfaceCommit seq tsMs event.windowId event.commitSeq event.damage)
  | focusChanged event => some (.focusChanged seq tsMs event.windowId)
  | popupAppeared event => some (.popupAppeared seq tsMs event.windowId event.popupId)
  | popupDisappeared event => some (.popupDisappeared seq tsMs event.windowId event.popupId)
  | appLaunched event => some (.appLaunched seq tsMs event.launchId event.appId event.pid)
  | notification event => some (.notification seq tsMs event.notification)
  | notificationClosed event =>
    some (.notificationClosed seq tsMs event.notificationId event.reason)
  | notificationAction event =>
    some (.notificationAction seq tsMs event.notificationId event.actionKey)
  | quiet _ | inspectFrame _ => none

def toData (images : ImageCodec Image) : EventPayload Image → Value
  | windowCreated event => Frame.windowCreated.encode event
  | windowDestroyed event => Frame.windowDestroyed.encode event
  | windowActivated event => Frame.windowActivated.encode event
  | titleChanged event => Frame.titleChanged.encode event
  | surfaceCommit event => Frame.surfaceCommit.encode event
  | focusChanged event => Frame.focusChanged.encode event
  | popupAppeared event => Frame.popupAppeared.encode event
  | popupDisappeared event => Frame.popupDisappeared.encode event
  | appLaunched event => Frame.appLaunched.encode event
  | notification event => Frame.notificationEvent.encode event
  | notificationClosed event => Frame.notificationClosed.encode event
  | notificationAction event => Frame.notificationActionEvent.encode event
  | quiet event => Frame.quiet.encode event
  | inspectFrame event =>
    .object [("image", images.encode event.image),
      ("subscription_id", u64.encode event.subscriptionId)]

def inspectFrameFrom (images : ImageCodec Image) : Value → Option (InspectFrameEvent Image)
  | .object members => do
    let subscriptionId ← u64.required members "subscription_id"
    let image ← (members.lookup "image").bind images.decode
    some ⟨subscriptionId, image⟩
  | _ => none

def fromData (images : ImageCodec Image) (kind : EventKind) (data : Value) :
    Except ProtoError (EventPayload Image) :=
  let parsed (payload : Option (EventPayload Image)) : Except ProtoError (EventPayload Image) :=
    match payload with
    | some payload => .ok payload
    | none => .error (.invalidEventData kind.kindName)
  match kind with
  | .windowCreated => parsed ((Frame.windowCreated.decode data).map .windowCreated)
  | .windowDestroyed => parsed ((Frame.windowDestroyed.decode data).map .windowDestroyed)
  | .windowActivated => parsed ((Frame.windowActivated.decode data).map .windowActivated)
  | .titleChanged => parsed ((Frame.titleChanged.decode data).map .titleChanged)
  | .surfaceCommit => parsed ((Frame.surfaceCommit.decode data).map .surfaceCommit)
  | .focusChanged => parsed ((Frame.focusChanged.decode data).map .focusChanged)
  | .popupAppeared => parsed ((Frame.popupAppeared.decode data).map .popupAppeared)
  | .popupDisappeared => parsed ((Frame.popupDisappeared.decode data).map .popupDisappeared)
  | .appLaunched => parsed ((Frame.appLaunched.decode data).map .appLaunched)
  | .notification => parsed ((Frame.notificationEvent.decode data).map .notification)
  | .notificationClosed => parsed ((Frame.notificationClosed.decode data).map .notificationClosed)
  | .notificationAction =>
    parsed ((Frame.notificationActionEvent.decode data).map .notificationAction)
  | .quiet => parsed ((Frame.quiet.decode data).map .quiet)
  | .inspectFrame => parsed ((inspectFrameFrom images data).map .inspectFrame)
  | .surfaceDamage =>
    .error (.malformed
      "`surface_damage` is a subscription filter alias, never an emitted event kind")

/-- The payload is not an image, and its numbers fit their types. -/
def Fits : EventPayload Image → Prop
  | windowCreated event => Frame.windowCreated.Fits event
  | windowDestroyed event => Frame.windowDestroyed.Fits event
  | windowActivated event => Frame.windowActivated.Fits event
  | titleChanged event => Frame.titleChanged.Fits event
  | surfaceCommit event => Frame.surfaceCommit.Fits event
  | focusChanged event => Frame.focusChanged.Fits event
  | popupAppeared event => Frame.popupAppeared.Fits event
  | popupDisappeared event => Frame.popupDisappeared.Fits event
  | appLaunched event => Frame.appLaunched.Fits event
  | notification event => Frame.notificationEvent.Fits event
  | notificationClosed event => Frame.notificationClosed.Fits event
  | notificationAction event => Frame.notificationActionEvent.Fits event
  | quiet event => Frame.quiet.Fits event
  | inspectFrame event => u64.Fits event.subscriptionId

theorem from_data (images : ImageCodec Image) {payload : EventPayload Image}
    (fits : payload.Fits) (typed : payload.kind ≠ .inspectFrame) :
    fromData images payload.kind (payload.toData images) = .ok payload := by
  cases payload with
  | windowCreated event => simp [fromData, kind, toData, Frame.windowCreated.reads _ fits]
  | windowDestroyed event => simp [fromData, kind, toData, Frame.windowDestroyed.reads _ fits]
  | windowActivated event => simp [fromData, kind, toData, Frame.windowActivated.reads _ fits]
  | titleChanged event => simp [fromData, kind, toData, Frame.titleChanged.reads _ fits]
  | surfaceCommit event => simp [fromData, kind, toData, Frame.surfaceCommit.reads _ fits]
  | focusChanged event => simp [fromData, kind, toData, Frame.focusChanged.reads _ fits]
  | popupAppeared event => simp [fromData, kind, toData, Frame.popupAppeared.reads _ fits]
  | popupDisappeared event => simp [fromData, kind, toData, Frame.popupDisappeared.reads _ fits]
  | appLaunched event => simp [fromData, kind, toData, Frame.appLaunched.reads _ fits]
  | notification event => simp [fromData, kind, toData, Frame.notificationEvent.reads _ fits]
  | notificationClosed event =>
    simp [fromData, kind, toData, Frame.notificationClosed.reads _ fits]
  | notificationAction event =>
    simp [fromData, kind, toData, Frame.notificationActionEvent.reads _ fits]
  | quiet event => simp [fromData, kind, toData, Frame.quiet.reads _ fits]
  | inspectFrame event => exact absurd rfl typed

theorem data_held (images : ImageCodec Image) {payload : EventPayload Image}
    (fits : payload.Fits) (typed : payload.kind ≠ .inspectFrame) :
    (payload.toData images).Held (recursionLimit - 1) := by
  cases payload with
  | windowCreated event => exact Frame.windowCreated.held _ fits (by decide)
  | windowDestroyed event => exact Frame.windowDestroyed.held _ fits (by decide)
  | windowActivated event => exact Frame.windowActivated.held _ fits (by decide)
  | titleChanged event => exact Frame.titleChanged.held _ fits (by decide)
  | surfaceCommit event => exact Frame.surfaceCommit.held _ fits (by decide)
  | focusChanged event => exact Frame.focusChanged.held _ fits (by decide)
  | popupAppeared event => exact Frame.popupAppeared.held _ fits (by decide)
  | popupDisappeared event => exact Frame.popupDisappeared.held _ fits (by decide)
  | appLaunched event => exact Frame.appLaunched.held _ fits (by decide)
  | notification event => exact Frame.notificationEvent.held _ fits (by decide)
  | notificationClosed event => exact Frame.notificationClosed.held _ fits (by decide)
  | notificationAction event => exact Frame.notificationActionEvent.held _ fits (by decide)
  | quiet event => exact Frame.quiet.held _ fits (by decide)
  | inspectFrame event => exact absurd rfl typed

end EventPayload

/-! ## Frames -/

structure EventFrame (Image : Type) where
  event : EventKind
  seq : ℕ
  tsMs : ℕ
  data : EventPayload Image

namespace EventFrame

def fromRuntime (event : RuntimeEvent) : EventFrame Image :=
  let data := EventPayload.fromRuntime event
  ⟨data.kind, event.seq, event.tsMs, data⟩

def toRuntime (frame : EventFrame Image) : Option RuntimeEvent :=
  frame.data.toRuntime frame.seq frame.tsMs

/-- The object of a frame. -/
def toValue (images : ImageCodec Image) (frame : EventFrame Image) : Value :=
  .object
    [("data", frame.data.toData images), ("event", .string frame.event.kindName),
      ("seq", u64.encode frame.seq), ("ts_ms", u64.encode frame.tsMs)]

/-- The data of a frame, which may be missing or null. -/
def dataOf (members : List (String × Value)) : Value :=
  match members.lookup "data" with
  | none | some .null => .object []
  | some data => data

def fromValue (images : ImageCodec Image) : Value → Except ProtoError (EventFrame Image)
  | .object members =>
    match members.lookup "event" with
    | some (.string name) =>
      match EventKind.ofName name with
      | none => .error (.unknownEventKind name)
      | some kind =>
        match u64.required members "seq" with
        | none => .error (.malformed "event frame requires a `seq` u64")
        | some seq =>
          match u64.required members "ts_ms" with
          | none => .error (.malformed "event frame requires a `ts_ms` u64")
          | some tsMs =>
            (EventPayload.fromData images kind (dataOf members)).map fun data =>
              ⟨kind, seq, tsMs, data⟩
    | some _ => .error (.malformed "event frame's `event` must be a string")
    | none => .error (.malformed "event frame requires an `event` field")
  | _ => .error (.malformed "event frame must be a JSON object")

/-- The numbers of the frame fit their types. -/
structure Fits (frame : EventFrame Image) : Prop where
  seq : u64.Fits frame.seq
  tsMs : u64.Fits frame.tsMs
  data : frame.data.Fits

theorem to_from_runtime (event : RuntimeEvent) :
    (fromRuntime event : EventFrame Image).toRuntime = some event := by
  cases event with
  | _ => rfl

theorem from_runtime_kind (event : RuntimeEvent) :
    (fromRuntime event : EventFrame Image).event =
      (fromRuntime event : EventFrame Image).data.kind := rfl

end EventFrame

end ADesk.Proto.Frame
