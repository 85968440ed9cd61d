/- ADesk/Server/EventFilters
   digest: The same filter on `subscribe_events` and on `wait_for_events`, and the events that the
   wait matches beyond those that the subscription pushes. -/

import ADesk.Notify.Inbox
import ADesk.Server.Subscriptions

set_option autoImplicit false

namespace ADesk.Server.EventFilters

open ADesk.Core.Geometry (Region)
open ADesk.Core.Ids (WindowId)
open ADesk.Core.Event (RuntimeEvent)
open ADesk.Notify.Inbox (EventWaitSpec defaultTimeoutMs defaultMaxEvents)
open ADesk.Server.Subscriptions

/-! ## The two requests -/

structure SubscribeEventsParams where
  kinds : List EventKind := []
  windowId : Option WindowId := none
  deriving DecidableEq

structure WaitForEventsParams where
  kinds : List EventKind := []
  windowId : Option WindowId := none
  timeoutMs : ℕ := defaultTimeoutMs
  maxEvents : ℕ := defaultMaxEvents
  sinceSeq : Option ℕ := none
  deriving DecidableEq

def WaitForEventsParams.filter (params : WaitForEventsParams) : SubscribeEventsParams :=
  ⟨params.kinds, params.windowId⟩

/-- The name of a kind in messages. -/
def debugName : EventKind → String
  | .windowCreated => "WindowCreated"
  | .windowDestroyed => "WindowDestroyed"
  | .windowActivated => "WindowActivated"
  | .titleChanged => "TitleChanged"
  | .surfaceCommit => "SurfaceCommit"
  | .surfaceDamage => "SurfaceDamage"
  | .focusChanged => "FocusChanged"
  | .popupAppeared => "PopupAppeared"
  | .popupDisappeared => "PopupDisappeared"
  | .quiet => "Quiet"
  | .appLaunched => "AppLaunched"
  | .notification => "Notification"
  | .notificationClosed => "NotificationClosed"
  | .notificationAction => "NotificationAction"
  | .inspectFrame => "InspectFrame"

structure InvalidParams where
  method : String
  message : String
  deriving DecidableEq

/-- `subscribe_events`: a filter that names a kind that cannot be subscribed is refused. -/
def subscribeEvents (params : SubscribeEventsParams) (id : SubscriptionId)
    (connection : SessionId) : Except InvalidParams Subscription :=
  match params.kinds.find? fun kind => !kind.isSubscribable with
  | some kind =>
    .error
      { method := "subscribe_events"
        message := "`" ++ debugName kind ++ "` is not a subscribable event kind (§5.6)" }
  | none => .ok ⟨id, connection, params.kinds, params.windowId, connection⟩

/-- The subscription that the request makes pushes the event; a refused one pushes nothing. -/
def pushesEvent (params : SubscribeEventsParams) (id : SubscriptionId) (connection : SessionId)
    (event : RuntimeEvent) : Bool :=
  match subscribeEvents params id connection with
  | .ok subscription => subscription.matchesEvent event
  | .error _ => false

/-- The runtime kind of a wire kind. The narrowing of `surfaceDamage` is lost; the kinds that no
wait can observe have none. -/
def protoEventKind : EventKind → Option Core.Event.EventKind
  | .windowCreated => some .windowCreated
  | .windowDestroyed => some .windowDestroyed
  | .windowActivated => some .windowActivated
  | .titleChanged => some .titleChanged
  | .surfaceCommit | .surfaceDamage => some .surfaceCommit
  | .focusChanged => some .focusChanged
  | .popupAppeared => some .popupAppeared
  | .popupDisappeared => some .popupDisappeared
  | .appLaunched => some .appLaunched
  | .notification => some .notification
  | .notificationClosed => some .notificationClosed
  | .notificationAction => some .notificationAction
  | .quiet | .inspectFrame => none

/-- `wait_for_events`: the filter it hands to the inbox. -/
def waitSpec (params : WaitForEventsParams) : EventWaitSpec where
  kinds := params.kinds.filterMap protoEventKind
  windowId := params.windowId
  timeoutMs := params.timeoutMs
  maxEvents := params.maxEvents
  sinceSeq := params.sinceSeq

/-! ## One kind -/

/-- A commit that damaged nothing. -/
def undamaged : RuntimeEvent → Bool
  | .surfaceCommit _ _ _ _ damage => damage.isEmpty
  | _ => false

/-- The kinds that the wait drops from its filter. -/
def protocolOnly (kind : EventKind) : Bool := (protoEventKind kind).isNone

theorem protocol_only_iff (kind : EventKind) :
    protocolOnly kind = true ↔ kind = .quiet ∨ kind = .inspectFrame := by
  cases kind <;> simp [protocolOnly, protoEventKind]

theorem protocol_only_matches_nothing {kind : EventKind} (only : protocolOnly kind = true)
    (event : RuntimeEvent) : kind.matchesEvent event = false := by
  rcases (protocol_only_iff kind).mp only with rfl | rfl <;> cases event <;> rfl

/-- A wire kind stands for the kind of an event when it matches the event, and
`surfaceDamage` also for that of a commit without damage. -/
theorem proto_event_kind_eq (kind : EventKind) (event : RuntimeEvent) :
    protoEventKind kind = some event.kind ↔
      kind.matchesEvent event = true ∨ (kind = .surfaceDamage ∧ undamaged event = true) := by
  cases event with
  | surfaceCommit seq tsMs windowId commitSeq damage =>
    cases kind <;>
      simp [protoEventKind, RuntimeEvent.kind, EventKind.matchesEvent, undamaged]
  | windowCreated | windowDestroyed | windowActivated | titleChanged | focusChanged
  | popupAppeared | popupDisappeared | appLaunched | notification | notificationClosed
  | notificationAction =>
    cases kind <;> simp [protoEventKind, RuntimeEvent.kind, EventKind.matchesEvent, undamaged]

/-! ## Whole filters -/

/-- The window part of a filter, the same for both requests. -/
def CarriesWindow (windowId : Option WindowId) (event : RuntimeEvent) : Prop :=
  ∀ wanted, windowId = some wanted → event.windowId = some wanted

/-- Why a wait matches an event of its window that the subscription does not push: the filter
names nothing but kinds that the wait drops, or the event is a commit without damage, or the
subscription is refused and the event is of another kind that the filter names. -/
def Beyond (kinds : List EventKind) (event : RuntimeEvent) : Prop :=
  (kinds ≠ [] ∧ ∀ kind ∈ kinds, kind = .quiet ∨ kind = .inspectFrame) ∨
    (.surfaceDamage ∈ kinds ∧ undamaged event = true) ∨
    (.inspectFrame ∈ kinds ∧ ∃ kind ∈ kinds, kind.matchesEvent event = true)

theorem wait_matches_event_iff (params : WaitForEventsParams) (event : RuntimeEvent) :
    (waitSpec params).matchesEvent event = true ↔
      CarriesWindow params.windowId event ∧
        ((∀ kind ∈ params.kinds, protocolOnly kind = true) ∨
          ∃ kind ∈ params.kinds, protoEventKind kind = some event.kind) := by
  have dropped : (params.kinds.filterMap protoEventKind).isEmpty = true ↔
      ∀ kind ∈ params.kinds, protocolOnly kind = true := by
    simp [protocolOnly, List.filterMap_eq_nil_iff]
  have kept : (params.kinds.filterMap protoEventKind).contains event.kind = true ↔
      ∃ kind ∈ params.kinds, protoEventKind kind = some event.kind := by
    simp
  have window : params.windowId.any (fun windowId => event.windowId != some windowId) = false ↔
      CarriesWindow params.windowId event := by
    unfold CarriesWindow
    cases params.windowId with
    | none => simp
    | some wanted => simp
  rw [← window, ← dropped, ← kept]
  unfold EventWaitSpec.matchesEvent waitSpec
  cases params.windowId.any (fun windowId => event.windowId != some windowId) with
  | true => simp
  | false => simp

/-- The refusal in terms of the kinds of the filter. -/
theorem subscribable_iff (kinds : List EventKind) :
    (kinds.find? fun kind => !kind.isSubscribable) = none ↔ .inspectFrame ∉ kinds := by
  rw [List.find?_eq_none]
  constructor
  · intro all member
    exact all _ member rfl
  · rintro absent kind member refused
    have frame : kind = .inspectFrame := by simpa [EventKind.isSubscribable] using refused
    exact absent (frame ▸ member)

theorem subscription_matches_iff (subscription : Subscription) (event : RuntimeEvent) :
    subscription.matchesEvent event = true ↔
      CarriesWindow subscription.windowId event ∧
        (subscription.kinds = [] ∨ ∃ kind ∈ subscription.kinds, kind.matchesEvent event = true) := by
  obtain ⟨id, connection, kinds, windowId, sink⟩ := subscription
  unfold CarriesWindow
  cases windowId with
  | none => simp [Subscription.matchesEvent]
  | some wanted => simp [Subscription.matchesEvent, and_comm]

theorem pushes_event_iff (params : SubscribeEventsParams) (id : SubscriptionId)
    (connection : SessionId) (event : RuntimeEvent) :
    pushesEvent params id connection event = true ↔
      CarriesWindow params.windowId event ∧ .inspectFrame ∉ params.kinds ∧
        (params.kinds = [] ∨ ∃ kind ∈ params.kinds, kind.matchesEvent event = true) := by
  unfold pushesEvent subscribeEvents
  cases found : params.kinds.find? fun kind => !kind.isSubscribable with
  | some refused =>
    have named : .inspectFrame ∈ params.kinds := by
      by_contra absent
      rw [(subscribable_iff params.kinds).mpr absent] at found
      cases found
    simp [named]
  | none =>
    have absent := (subscribable_iff params.kinds).mp found
    change Subscription.matchesEvent ⟨id, connection, params.kinds, params.windowId, connection⟩ event
      = true ↔ _
    rw [subscription_matches_iff]
    exact ⟨fun pushed => ⟨pushed.1, absent, pushed.2⟩, fun pushed => ⟨pushed.1, pushed.2.2⟩⟩

/-- A wait matches what a subscription with the same filter pushes, and beyond that exactly the
events of its window that `Beyond` lists. -/
theorem wait_matches_iff (params : WaitForEventsParams) (id : SubscriptionId)
    (connection : SessionId) (event : RuntimeEvent) :
    (waitSpec params).matchesEvent event = true ↔
      pushesEvent params.filter id connection event = true ∨
        (CarriesWindow params.windowId event ∧ Beyond params.kinds event) := by
  rw [wait_matches_event_iff, pushes_event_iff]
  constructor
  · rintro ⟨window, only | ⟨kind, member, same⟩⟩
    · -- nothing is left of the filter
      rcases List.eq_nil_or_concat params.kinds with empty | ⟨_, _, parts⟩
      · exact Or.inl ⟨window, by simp [WaitForEventsParams.filter, empty], Or.inl empty⟩
      · refine Or.inr ⟨window, Or.inl ⟨by simp [parts], fun kind member => ?_⟩⟩
        exact (protocol_only_iff kind).mp (only kind member)
    · rcases (proto_event_kind_eq kind event).mp same with matched | ⟨rfl, empty⟩
      · by_cases frame : .inspectFrame ∈ params.kinds
        · exact Or.inr ⟨window, Or.inr (Or.inr ⟨frame, kind, member, matched⟩)⟩
        · exact Or.inl ⟨window, frame, Or.inr ⟨kind, member, matched⟩⟩
      · exact Or.inr ⟨window, Or.inr (Or.inl ⟨member, empty⟩)⟩
  · have matching : ∀ kind ∈ params.kinds, kind.matchesEvent event = true →
        ∃ kind ∈ params.kinds, protoEventKind kind = some event.kind :=
      fun kind member matched => ⟨kind, member, (proto_event_kind_eq kind event).mpr (Or.inl matched)⟩
    rintro (⟨window, _, empty | ⟨kind, member, matched⟩⟩ | ⟨window, only | damage | frame⟩)
    · have nothing : params.kinds = [] := empty
      exact ⟨window, Or.inl (by simp [nothing])⟩
    · exact ⟨window, Or.inr (matching kind member matched)⟩
    · refine ⟨window, Or.inl fun kind member => ?_⟩
      exact (protocol_only_iff kind).mpr (only.2 kind member)
    · obtain ⟨member, empty⟩ := damage
      exact ⟨window, Or.inr ⟨.surfaceDamage, member,
        (proto_event_kind_eq _ event).mpr (Or.inr ⟨rfl, empty⟩)⟩⟩
    · obtain ⟨_, kind, member, matched⟩ := frame
      exact ⟨window, Or.inr (matching kind member matched)⟩

/-- The two filters differ on a commit without damage. -/
theorem undamaged_commit_differs :
    ¬ ∀ (params : WaitForEventsParams) (id : SubscriptionId) (connection : SessionId)
      (event : RuntimeEvent),
      (waitSpec params).matchesEvent event = pushesEvent params.filter id connection event := by
  intro agree
  have differ := agree { kinds := [.surfaceDamage] } 1 1 (.surfaceCommit 1 0 ⟨1⟩ 1 Region.empty)
  exact absurd differ (by decide)

end ADesk.Server.EventFilters
