/- ADesk/Notify/Store
   digest: The notification store: identifiers, dismissal and the check of invoked actions. -/

import ADesk.Compositor.Keys
import ADesk.Core.Event
import ADesk.Core.Time

set_option autoImplicit false

namespace ADesk.Notify.Store

open ADesk.Core.Event
open ADesk.Core.Ids (NotificationId NotificationMap notification_insert_lookup)
open ADesk.Core.Time

inductive Error
  | unknownNotification (notificationId : NotificationId)
  | invalidRequest (message : List Char)
  deriving DecidableEq

/-- What a client posts: a notification without the id and the sequences. -/
structure NewNotification where
  source : Option String := none
  title : String
  body : String := ""
  urgency : NotificationUrgency := .normal
  category : Option String := none
  actions : List NotificationAction := []
  hints : List (String × String) := []
  timeoutMs : Option ℕ := none
  deriving DecidableEq

/-- The live notification that a post stores. -/
def NewNotification.posted (new : NewNotification) (id : NotificationId) (seq tsMs : ℕ) :
    Notification where
  id := id
  source := new.source
  title := new.title
  body := new.body
  urgency := new.urgency
  category := new.category
  actions := new.actions
  hints := new.hints
  postedSeq := seq
  postedTsMs := tsMs
  dismissed := false
  closedSeq := none
  closeReason := none
  timeoutMs := new.timeoutMs

/-- The notification after its dismissal. -/
def dismiss (notification : Notification) (reason : NotificationCloseReason) (seq : ℕ) :
    Notification :=
  { notification with dismissed := true, closedSeq := some seq, closeReason := some reason }

/-- The close fields are set exactly on dismissed notifications. -/
def Closing (notification : Notification) : Prop :=
  (notification.dismissed = false ∧ notification.closedSeq = none ∧
      notification.closeReason = none) ∨
    ∃ seq reason, notification.dismissed = true ∧ notification.closedSeq = some seq ∧
      notification.closeReason = some reason

/-- `newlyDismissed` is `false` when the notification was dismissed before. -/
structure CloseOutcome where
  notification : Notification
  newlyDismissed : Bool
  deriving DecidableEq

/-- The stored notifications by id. Ids are allocated upwards; the last one that fits is
allocated again and again. -/
structure NotificationStore where
  nextId : ℕ
  notifications : NotificationMap Notification
  keyed : ∀ {id : NotificationId} {notification : Notification},
    notifications[id]? = some notification → notification.id = id
  closing : ∀ {id : NotificationId} {notification : Notification},
    notifications[id]? = some notification → Closing notification
  unallocated : nextId < u64Max → ∀ id : NotificationId, nextId ≤ id.val →
    notifications[id]? = none

namespace NotificationStore

def new : NotificationStore where
  nextId := 1
  notifications := ∅
  keyed := by simp
  closing := by simp
  unallocated := by simp

/-- Stores a live notification under the next id. -/
def allocate (store : NotificationStore) (new : NewNotification) (seq tsMs : ℕ) :
    NotificationStore where
  nextId := saturatingAdd store.nextId 1
  notifications :=
    store.notifications.insert ⟨store.nextId⟩ (new.posted ⟨store.nextId⟩ seq tsMs)
  keyed := by
    intro id stored lookup
    rw [notification_insert_lookup] at lookup
    split at lookup
    · next same =>
      cases lookup
      exact same
    · exact store.keyed lookup
  closing := by
    intro id stored lookup
    rw [notification_insert_lookup] at lookup
    split at lookup
    · cases lookup
      exact .inl ⟨rfl, rfl, rfl⟩
    · exact store.closing lookup
  unallocated := by
    intro below id later
    rw [saturatingAdd] at below later
    have beyond : store.nextId < id.val := by omega
    rw [notification_insert_lookup, if_neg]
    · exact store.unallocated (by omega) id (by omega)
    · rintro rfl
      exact Nat.lt_irrefl _ beyond

/-- Allocates the next id and stores a freshly posted notification. -/
def post (store : NotificationStore) (new : NewNotification) (seq tsMs : ℕ) :
    NotificationStore × Except Error Notification :=
  if new.title.isEmpty then
    (store, .error (.invalidRequest "notification title must not be empty".toList))
  else (store.allocate new seq tsMs, .ok (new.posted ⟨store.nextId⟩ seq tsMs))

/-- Replaces a stored notification by its dismissal. -/
def setDismissed (store : NotificationStore) (id : NotificationId) (notification : Notification)
    (stored : store.notifications[id]? = some notification) (reason : NotificationCloseReason)
    (seq : ℕ) : NotificationStore where
  nextId := store.nextId
  notifications := store.notifications.insert id (dismiss notification reason seq)
  keyed := by
    intro other changed lookup
    rw [notification_insert_lookup] at lookup
    split at lookup
    · next same =>
      cases lookup
      exact (store.keyed stored).trans same
    · exact store.keyed lookup
  closing := by
    intro other changed lookup
    rw [notification_insert_lookup] at lookup
    split at lookup
    · cases lookup
      exact .inr ⟨seq, reason, rfl, rfl, rfl⟩
    · exact store.closing lookup
  unallocated := by
    intro below other later
    have free := store.unallocated below other later
    rw [notification_insert_lookup, if_neg]
    · exact free
    · rintro rfl
      rw [stored] at free
      cases free

/-- Marks a notification dismissed; closing a dismissed one changes nothing. -/
def close (store : NotificationStore) (id : NotificationId) (reason : NotificationCloseReason)
    (seq : ℕ) : NotificationStore × Except Error CloseOutcome :=
  match stored : store.notifications[id]? with
  | none => (store, .error (.unknownNotification id))
  | some notification =>
    if notification.dismissed then (store, .ok ⟨notification, false⟩)
    else
      (store.setDismissed id notification stored reason seq,
        .ok ⟨dismiss notification reason seq, true⟩)

/-- Checks that the notification is known and has the action; dismissed ones count. -/
def invokeAction (store : NotificationStore) (id : NotificationId) (actionKey : String) :
    Except Error Unit :=
  match store.notifications[id]? with
  | none => .error (.unknownNotification id)
  | some notification =>
    if notification.actions.any (fun action => action.key = actionKey) then .ok ()
    else
      .error (.invalidRequest ("notification ".toList ++ (toString id.val).toList ++
        " has no action ".toList ++ Compositor.Keys.debugString actionKey.toList))

/-! ## What the operations do -/

variable {store : NotificationStore} {id : NotificationId}

/-- A post with a title stores, one without changes nothing. -/
theorem post_cases (store : NotificationStore) (new : NewNotification) (seq tsMs : ℕ) :
    (∃ error, store.post new seq tsMs = (store, .error error)) ∨
      (new.title.isEmpty = false ∧ store.post new seq tsMs =
        (store.allocate new seq tsMs, .ok (new.posted ⟨store.nextId⟩ seq tsMs))) := by
  unfold post
  cases empty : new.title.isEmpty with
  | true => exact .inl ⟨_, if_pos rfl⟩
  | false => exact .inr ⟨rfl, if_neg Bool.false_ne_true⟩

/-- A close of a live notification dismisses it; any other close changes nothing. -/
theorem close_cases (store : NotificationStore) (id : NotificationId)
    (reason : NotificationCloseReason) (seq : ℕ) :
    (∃ error, store.close id reason seq = (store, .error error)) ∨
      (∃ notification, store.close id reason seq = (store, .ok ⟨notification, false⟩)) ∨
      ∃ notification, ∃ stored : store.notifications[id]? = some notification,
        notification.dismissed = false ∧ store.close id reason seq =
          (store.setDismissed id notification stored reason seq,
            .ok ⟨dismiss notification reason seq, true⟩) := by
  unfold close
  split
  · exact .inl ⟨_, rfl⟩
  · next notification stored =>
    cases live : notification.dismissed with
    | true => exact .inr (.inl ⟨notification, if_pos rfl⟩)
    | false => exact .inr (.inr ⟨notification, stored, live, if_neg Bool.false_ne_true⟩)

theorem invoke_action_stored {actionKey : String}
    (valid : store.invokeAction id actionKey = .ok ()) :
    ∃ notification, store.notifications[id]? = some notification := by
  unfold invokeAction at valid
  split at valid
  · cases valid
  · next notification stored => exact ⟨notification, stored⟩

theorem allocate_lookup (new : NewNotification) (seq tsMs : ℕ) (other : NotificationId) :
    (store.allocate new seq tsMs).notifications[other]? =
      if ⟨store.nextId⟩ = other then some (new.posted ⟨store.nextId⟩ seq tsMs)
      else store.notifications[other]? :=
  notification_insert_lookup ..

theorem dismissed_lookup {notification : Notification}
    (stored : store.notifications[id]? = some notification) (reason : NotificationCloseReason)
    (seq : ℕ) (other : NotificationId) :
    (store.setDismissed id notification stored reason seq).notifications[other]? =
      if id = other then some (dismiss notification reason seq)
      else store.notifications[other]? :=
  notification_insert_lookup ..

end NotificationStore

end ADesk.Notify.Store
