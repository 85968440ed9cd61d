/- ADesk/Server/Notices
   digest: The notification handlers as programs, their interleaving, and what the event stream
   has of the store. -/

import ADesk.Compositor.Events
import ADesk.Foundation.Execution
import ADesk.Foundation.Outbox
import ADesk.Foundation.Scripts
import ADesk.Notify.Store
import ADesk.Server.Input

set_option autoImplicit false

namespace ADesk.Server.Notices

open ADesk.Core.Event
open ADesk.Core.Ids (NotificationId notification_insert_lookup)
open ADesk.Core.Time
open ADesk.Compositor.Events (EventSink)
open ADesk.Foundation.Execution
open ADesk.Foundation.Outbox
open ADesk.Foundation.Scripts
open ADesk.Notify.Store
open ADesk.Server.Input (ServerError)

/-! ## The handlers -/

/-- What a notification handler awaits or shares with other tasks. -/
inductive Call
  | reserveSeq
  | nowMs
  | post (new : NewNotification) (seq tsMs : ℕ)
  | close (id : NotificationId) (reason : NotificationCloseReason) (seq : ℕ)
  | invokeAction (id : NotificationId) (actionKey : String)
  | publish (event : RuntimeEvent)
  deriving DecidableEq

abbrev Reply : Call → Type
  | .reserveSeq => Except ServerError ℕ
  | .nowMs => ℕ
  | .post .. => Except Error Notification
  | .close .. => Except Error CloseOutcome
  | .invokeAction .. => Except Error Unit
  | .publish _ => Unit

/-- A failed request: the compositor did not answer, or the store refused. -/
inductive Failure
  | server (error : ServerError)
  | notify (error : Error)
  deriving DecidableEq

abbrev Handler (α : Type) := Script Call Reply Failure α

def reserveSeq : Handler ℕ :=
  .call .reserveSeq fun reply : Except ServerError ℕ =>
    match reply with
    | .ok seq => .done seq
    | .error error => .fail (.server error)

def nowMs : Handler ℕ := .call .nowMs fun millis => .done millis

/-- Goes on with the answer of the store. -/
def accept {α : Type} : Except Error α → Handler α
  | .ok answer => .done answer
  | .error error => .fail (.notify error)

def publish (event : RuntimeEvent) : Handler Unit := .call (.publish event) fun _ => .done ()

structure PostNotificationResult where
  notificationId : NotificationId
  seq : ℕ
  deriving DecidableEq

/-- Stores a notification and publishes its event. -/
def postNotification (params : NewNotification) : Handler PostNotificationResult := do
  let seq ← reserveSeq
  let tsMs ← nowMs
  let notification ← .call (.post params seq tsMs) accept
  publish (.notification seq tsMs notification)
  pure ⟨notification.id, seq⟩

structure CloseNotificationParams where
  notificationId : NotificationId
  reason : NotificationCloseReason := .dismissed
  deriving DecidableEq

structure CloseNotificationResult where
  notificationId : NotificationId
  seq : ℕ
  deriving DecidableEq

/-- Dismisses a notification; only the first dismissal is published. -/
def closeNotification (params : CloseNotificationParams) : Handler CloseNotificationResult := do
  let seq ← reserveSeq
  let tsMs ← nowMs
  let outcome ← .call (.close params.notificationId params.reason seq) accept
  if outcome.newlyDismissed then
    publish (.notificationClosed seq tsMs params.notificationId params.reason)
  pure ⟨params.notificationId, seq⟩

structure InvokeNotificationActionParams where
  notificationId : NotificationId
  actionKey : String
  deriving DecidableEq

structure InvokeNotificationActionResult where
  notificationId : NotificationId
  actionKey : String
  seq : ℕ
  deriving DecidableEq

/-- Reports the invocation of an action. -/
def invokeNotificationAction (params : InvokeNotificationActionParams) :
    Handler InvokeNotificationActionResult := do
  let seq ← reserveSeq
  let tsMs ← nowMs
  .call (.invokeAction params.notificationId params.actionKey) accept
  publish (.notificationAction seq tsMs params.notificationId params.actionKey)
  pure ⟨params.notificationId, params.actionKey, seq⟩

/-! ## Their interleaving -/

inductive Request
  | post (params : NewNotification)
  | close (params : CloseNotificationParams)
  | invoke (params : InvokeNotificationActionParams)
  deriving DecidableEq

inductive Answer
  | posted (result : PostNotificationResult)
  | closed (result : CloseNotificationResult)
  | invoked (result : InvokeNotificationActionResult)
  deriving DecidableEq

def dispatch : Request → Handler Answer
  | .post params => do return .posted (← postNotification params)
  | .close params => do return .closed (← closeNotification params)
  | .invoke params => do return .invoked (← invokeNotificationAction params)

/-- The objects that the handlers share, and the handlers of all requests so far. -/
structure State where
  sink : EventSink
  instant : Instant
  store : NotificationStore
  stream : List RuntimeEvent
  handlers : List (Handler Answer)

def State.new : State := ⟨EventSink.new, 0, NotificationStore.new, [], []⟩

/-- The reply to a call and the state after it. -/
def answer (s : State) : (call : Call) → State × Reply call
  | .reserveSeq =>
    let reserved := s.sink.nextSeq
    ({ s with sink := reserved.1 }, .ok reserved.2)
  | .nowMs => (s, elapsedMs 0 s.instant)
  | .post new seq tsMs =>
    let posted := s.store.post new seq tsMs
    ({ s with store := posted.1 }, posted.2)
  | .close id reason seq =>
    let closed := s.store.close id reason seq
    ({ s with store := closed.1 }, closed.2)
  | .invokeAction id actionKey => (s, s.store.invokeAction id actionKey)
  | .publish event => ({ s with stream := s.stream ++ [event] }, ())

/-- Events that no notification handler publishes. -/
def unrelated (event : RuntimeEvent) : Bool :=
  match event.kind with
  | .notification | .notificationClosed | .notificationAction => false
  | _ => true

inductive Label
  | tick (nanos : ℕ)
  | request (request : Request)
  | serve (handler : ℕ)
  | refuse (handler : ℕ) (error : ServerError)
  | cancel (handler : ℕ)
  | number
  | other (event : RuntimeEvent)
  deriving DecidableEq

def cancelled : Handler Answer := .fail (.server .shuttingDown)

/-- One step. A handler awaits nothing but its sequence number; there it can be refused and
dropped. Other sources take numbers and publish events of their own. -/
def step (s : State) : Label → Option State
  | .tick nanos => some { s with instant := s.instant + nanos }
  | .request request => some { s with handlers := s.handlers ++ [dispatch request] }
  | .serve handler =>
    match s.handlers[handler]? with
    | some (.call call next) =>
      let served := answer s call
      some { served.1 with handlers := s.handlers.set handler (next served.2) }
    | _ => none
  | .refuse handler error =>
    match s.handlers[handler]? with
    | some (.call .reserveSeq next) =>
      some { s with handlers := s.handlers.set handler (next (.error error)) }
    | _ => none
  | .cancel handler =>
    match s.handlers[handler]? with
    | some (.call .reserveSeq _) => some { s with handlers := s.handlers.set handler cancelled }
    | _ => none
  | .number => some { s with sink := s.sink.nextSeq.1 }
  | .other event => if unrelated event then some { s with stream := s.stream ++ [event] } else none

def noticeMachine : Machine State Label := ⟨State.new, step⟩

/-! ## Where a handler stands -/

def invoked (params : InvokeNotificationActionParams) (seq tsMs : ℕ) :
    Except Error Unit → Handler Answer
  | .ok () =>
    .call (.publish (.notificationAction seq tsMs params.notificationId params.actionKey))
      fun _ => .done (.invoked ⟨params.notificationId, params.actionKey, seq⟩)
  | .error error => .fail (.notify error)

def closed (params : CloseNotificationParams) (seq tsMs : ℕ) :
    Except Error CloseOutcome → Handler Answer
  | .ok ⟨_, true⟩ =>
    .call (.publish (.notificationClosed seq tsMs params.notificationId params.reason))
      fun _ => .done (.closed ⟨params.notificationId, seq⟩)
  | .ok ⟨_, false⟩ => .done (.closed ⟨params.notificationId, seq⟩)
  | .error error => .fail (.notify error)

def posted (seq tsMs : ℕ) : Except Error Notification → Handler Answer
  | .ok notification =>
    .call (.publish (.notification seq tsMs notification))
      fun _ => .done (.posted ⟨notification.id, seq⟩)
  | .error error => .fail (.notify error)

def timed (request : Request) (seq tsMs : ℕ) : Handler Answer :=
  match request with
  | .post params => .call (.post params seq tsMs) (posted seq tsMs)
  | .close params =>
    .call (.close params.notificationId params.reason seq) (closed params seq tsMs)
  | .invoke params =>
    .call (.invokeAction params.notificationId params.actionKey) (invoked params seq tsMs)

def reserved (request : Request) : Except ServerError ℕ → Handler Answer
  | .ok seq => .call .nowMs (timed request seq)
  | .error error => .fail (.server error)

/-- The points of a handler before each of its calls, and its ends. -/
inductive Stage : Handler Answer → Prop
  | reserving (request : Request) : Stage (.call .reserveSeq (reserved request))
  | timing (request : Request) (seq : ℕ) : Stage (.call .nowMs (timed request seq))
  | posting (params : NewNotification) (seq tsMs : ℕ) :
      Stage (.call (.post params seq tsMs) (posted seq tsMs))
  | closing (params : CloseNotificationParams) (seq tsMs : ℕ) :
      Stage (.call (.close params.notificationId params.reason seq) (closed params seq tsMs))
  | invoking (params : InvokeNotificationActionParams) (seq tsMs : ℕ) :
      Stage (.call (.invokeAction params.notificationId params.actionKey)
        (invoked params seq tsMs))
  | publishing (event : RuntimeEvent) (result : Answer) :
      Stage (.call (.publish event) fun _ => .done result)
  | answered (result : Answer) : Stage (.done result)
  | failed (error : Failure) : Stage (.fail error)

/-- Whatever the reply to its call, a handler goes on to one of these points. -/
theorem stage_next {call : Call} {next : Reply call → Handler Answer}
    (stage : Stage (.call call next)) (reply : Reply call) : Stage (next reply) := by
  cases stage with
  | reserving request =>
    cases reply with
    | ok seq => exact .timing request seq
    | error error => exact .failed _
  | timing request seq =>
    cases request with
    | post params => exact .posting params seq reply
    | close params => exact .closing params seq reply
    | invoke params => exact .invoking params seq reply
  | posting params seq tsMs =>
    cases reply with
    | ok notification => exact .publishing _ _
    | error error => exact .failed _
  | closing params seq tsMs =>
    match reply with
    | .ok ⟨_, true⟩ => exact .publishing _ _
    | .ok ⟨_, false⟩ => exact .answered _
    | .error error => exact .failed _
  | invoking params seq tsMs =>
    cases reply with
    | ok _ => exact .publishing _ _
    | error error => exact .failed _
  | publishing event result => exact .answered result

theorem dispatch_reserves (request : Request) :
    dispatch request = .call .reserveSeq (reserved request) := by
  have same : ∀ {α : Type} {call : Call} {next rest : Reply call → Handler α},
      (∀ reply, next reply = rest reply) → Script.call call next = .call call rest :=
    fun equal => congrArg _ (funext equal)
  cases request with
  | post params =>
    refine same fun reply => ?_
    cases reply with
    | error error => rfl
    | ok seq =>
      refine same fun tsMs => same fun answer => ?_
      cases answer <;> rfl
  | close params =>
    refine same fun reply => ?_
    cases reply with
    | error error => rfl
    | ok seq =>
      refine same fun tsMs => same fun answer => ?_
      match answer with
      | .error error => rfl
      | .ok ⟨_, true⟩ => rfl
      | .ok ⟨_, false⟩ => rfl
  | invoke params =>
    refine same fun reply => ?_
    cases reply with
    | error error => rfl
    | ok seq =>
      refine same fun tsMs => same fun answer => ?_
      cases answer <;> rfl

def Staged (s : State) : Prop := ∀ handler ∈ s.handlers, Stage handler

theorem Staged.found {s : State} (staged : Staged s) {index : ℕ} {handler : Handler Answer}
    (found : s.handlers[index]? = some handler) : Stage handler :=
  staged handler (List.mem_of_getElem? found)

theorem Staged.set {s t : State} (staged : Staged s) {index : ℕ} {handler : Handler Answer}
    (stage : Stage handler) (changed : t.handlers = s.handlers.set index handler) :
    Staged t := by
  intro other member
  rw [changed] at member
  rcases List.mem_or_eq_of_mem_set member with old | rfl
  · exact staged other old
  · exact stage

theorem step_staged {s t : State} {label : Label} (staged : Staged s)
    (taken : step s label = some t) : Staged t := by
  cases label with
  | tick nanos =>
    cases taken
    exact staged
  | number =>
    cases taken
    exact staged
  | request request =>
    cases taken
    intro handler member
    rcases List.mem_append.mp member with old | new
    · exact staged handler old
    · rw [List.mem_singleton.mp new, dispatch_reserves]
      exact .reserving request
  | serve handler =>
    simp only [step] at taken
    split at taken
    · next call next found =>
      cases taken
      exact staged.set (stage_next (staged.found found) _) rfl
    · cases taken
  | refuse handler error =>
    simp only [step] at taken
    split at taken
    · next next found =>
      cases taken
      exact staged.set (stage_next (staged.found found) (.error error)) rfl
    · cases taken
  | cancel handler =>
    simp only [step] at taken
    split at taken
    · cases taken
      exact staged.set (.failed _) rfl
    · cases taken
  | other event =>
    simp only [step] at taken
    split at taken
    · cases taken
      exact staged
    · cases taken

/-- In every run each handler stands at one of the points of `Stage`. -/
theorem staged_of_reachable {allowed : State → Label → Prop} {s : State}
    (reached : Reachable noticeMachine allowed s) : Staged s := by
  induction reached with
  | start => exact fun handler member => by cases member
  | next _ _ taken ih => exact step_staged ih taken

end ADesk.Server.Notices
