/- ADesk/Runtime/Run
   digest: The whole runtime as one machine: compositor thread, command queue, broadcast, event
   pump, request handlers and waiters. -/

import ADesk.Compositor.State
import ADesk.Foundation.Broadcast
import ADesk.Notify.Run
import ADesk.Observer.Run

set_option autoImplicit false

namespace ADesk.Runtime.Run

open ADesk.Core.Ids (WindowId ActionId LaunchId NotificationId AppId)
open ADesk.Core.Event
open ADesk.Core.Time (Instant elapsedMs)
open ADesk.Compositor.Bridge (Surface)
open ADesk.Compositor.Events (Emission)
open ADesk.Compositor.State
open ADesk.Foundation.Broadcast
open ADesk.Foundation.Execution (Machine)
open ADesk.Observer.Actions (ActionKind)
open ADesk.Wm.Policy (PolicyConfig)

/-- Who waits for the reply of a command. -/
inductive Requester
  | pump
  | handler (id : ℕ)
  deriving DecidableEq

/-- An event that the server publishes itself, before it has a sequence number. -/
inductive Synthesis
  | appLaunched (launchId : LaunchId) (appId : AppId) (pid : Option ℤ)
  | notification (notification : Notification)
  | notificationClosed (notificationId : NotificationId) (reason : NotificationCloseReason)
  | notificationAction (notificationId : NotificationId) (actionKey : String)
  deriving DecidableEq

/-- A stored notification shares the number and the timestamp of its event. -/
def Synthesis.event (seq tsMs : ℕ) : Synthesis → RuntimeEvent
  | .appLaunched launchId appId pid => .appLaunched seq tsMs launchId appId pid
  | .notification posted =>
    .notification seq tsMs { posted with postedSeq := seq, postedTsMs := tsMs }
  | .notificationClosed notificationId reason =>
    .notificationClosed seq tsMs notificationId reason
  | .notificationAction notificationId actionKey =>
    .notificationAction seq tsMs notificationId actionKey

/-- `launch_app` takes its timestamp from a `QueryState` before it reserves its number. -/
def Synthesis.readsState : Synthesis → Bool
  | .appLaunched .. => true
  | .notification _ | .notificationClosed .. | .notificationAction .. => false

/-- The requests that record an action or publish an event. -/
inductive Request
  | activateWindow (windowId : WindowId)
  | closeWindow (windowId : WindowId)
  | input (kind : ActionKind) (windowId : Option WindowId) (position : Option Position)
  | synthesize (synthesis : Synthesis)
  deriving DecidableEq

/-- The arguments of the `record_action` that starts the request. -/
def Request.action : Request → Option (ActionKind × Option WindowId × Option Position)
  | .activateWindow windowId => some (.activateWindow, some windowId, none)
  | .closeWindow windowId => some (.closeWindow, some windowId, none)
  | .input kind windowId position => some (kind, windowId, position)
  | .synthesize _ => none

/-- The commands a request may send after its action is recorded. Input requests read the state,
activate their window when it lacks the focus and inject events, in an order of their own. -/
def Request.issues : Request → Command → Bool
  | .activateWindow windowId, .activateWindow named => windowId = named
  | .closeWindow windowId, .closeWindow named => windowId = named
  | .input _ windowId _, .activateWindow named => windowId = some named
  | .input .., .queryState | .input .., .injectInput => true
  | _, _ => false

/-- Where a request handler stands; a command is always awaited before the next one. -/
inductive HandlerPhase
  | recording
  | acting (actionId : ActionId)
  | commanded (actionId : ActionId)
  | reading (synthesis : Synthesis)
  | reserving (synthesis : Synthesis) (tsMs : Option ℕ)
  | reserved (synthesis : Synthesis) (seq : ℕ) (tsMs : Option ℕ)
  | publishing (synthesis : Synthesis) (seq tsMs : ℕ)
  | done
  deriving DecidableEq

/-- A request in service, with the last reply it got. The last three fields are history
variables: how many events had been sent when `record_action` was called and when each command
of the action was served, and the pump's horizon when the action read the watermark. -/
structure Handler where
  request : Request
  phase : HandlerPhase
  lastReply : Option Reply
  calledAt : ℕ
  horizonAt : ℕ
  servedAt : List ℕ
  deriving DecidableEq

/-- Where the event pump stands. The position of a snapshot in the stream is a history
variable. -/
inductive PumpTask
  | idle
  | observing (event : RuntimeEvent)
  | recording
  | querying
  | answered (snapshot : StateSnapshot) (position : ℕ)
  | resyncing (position : ℕ)
  deriving DecidableEq

/-- The state of the runtime. `outbox` and `serving` belong to the compositor thread: the events
of its current operation that are still to be sent, and the reply that follows them. `horizon`
is a history variable: the observer accounts for the events sent before it. -/
structure State where
  observer : Observer.Run.State
  inbox : Notify.Run.State
  compositor : CompositorState
  outbox : List Emission
  serving : Option (Requester × Reply)
  commands : List (Requester × Command)
  channel : Channel RuntimeEvent
  cursor : Cursor
  pump : PumpTask
  handlers : ℕ → Option Handler
  horizon : ℕ

/-- The runtime at its start, with the pump subscribed before the first event. -/
def State.new (config : PolicyConfig) (slots inboxCapacity : ℕ) : State where
  observer := Observer.Run.State.new
  inbox := Notify.Run.State.new inboxCapacity
  compositor := CompositorState.new config
  outbox := []
  serving := none
  commands := []
  channel := Channel.new slots
  cursor := ⟨0⟩
  pump := .idle
  handlers := fun _ => none
  horizon := 0

/-- Every event sent so far. -/
def State.log (state : State) : List RuntimeEvent := state.channel.sent

/-- Milliseconds since the compositor started. -/
def State.uptimeMs (state : State) : ℕ := elapsedMs 0 state.observer.instant

inductive Label
  | tick (nanos : ℕ)
  | client (request : ClientRequest)
  | serve
  | emit
  | reply
  | pumpRecv (correlated : Option LaunchId)
  | pumpStep
  | request (handler : ℕ) (request : Request)
  | handlerStep (handler : ℕ)
  | issue (handler : ℕ) (command : Command)
  | finish (handler : ℕ)
  | publish (handler : ℕ) (stored : Bool)
  | wait (label : Observer.Run.Label)
  | inboxWait (label : Notify.Run.Label)
  deriving DecidableEq

/-- The steps of waiters, which the server starts through the wait requests only. -/
def waiterLabel : Observer.Run.Label → Bool
  | .callWait .. | .waitStep _ | .wakeChanged _ | .wakeTimer _ | .cancelWait _ => true
  | _ => false

def clientLabel : Notify.Run.Label → Bool
  | .waitForEvents .. | .callStep _ | .wakeChanged _ | .wakeTimer _ | .cancel _ => true
  | _ => false

/-- Stamps a correlated launch on a created window that carries none. -/
def correlateWindow (correlated : Option LaunchId) : RuntimeEvent → RuntimeEvent
  | .windowCreated seq tsMs windowId appId pid none title =>
    .windowCreated seq tsMs windowId appId pid correlated title
  | event => event

def State.setHandler (state : State) (id : ℕ) (handler : Handler) : State :=
  { state with handlers := Function.update state.handlers id (some handler) }

def State.observe (state : State) (label : Observer.Run.Label) : Option State :=
  (Observer.Run.step state.observer label).map fun observer => { state with observer := observer }

def State.notify (state : State) (label : Notify.Run.Label) : Option State :=
  (Notify.Run.step state.inbox label).map fun inbox => { state with inbox := inbox }

/-- The compositor thread is between two operations. -/
def State.compositorFree (state : State) : Prop := state.outbox = [] ∧ state.serving = none

instance (state : State) : Decidable state.compositorFree :=
  inferInstanceAs (Decidable (_ ∧ _))

def Handler.noteServed (handler : Handler) (position : ℕ) : Handler :=
  match handler.phase with
  | .commanded _ => { handler with servedAt := handler.servedAt ++ [position] }
  | _ => handler

/-- The handlers when a command of the requester is served. -/
def State.noteServed (state : State) : Requester → ℕ → Option Handler
  | .pump => state.handlers
  | .handler id => Function.update state.handlers id
      ((state.handlers id).map fun handler => handler.noteServed state.log.length)

/-- Serves the oldest command. -/
def serve (state : State) : Option State :=
  if state.compositorFree then
    match state.commands with
    | [] => none
    | (requester, command) :: rest =>
      let served := handleCommand state.compositor state.uptimeMs command
      some
        { state with
          compositor := served.1
          outbox := served.2.1
          serving := some (requester, served.2.2)
          commands := rest
          handlers := state.noteServed requester }
  else none

/-- Allocates a number for the next owed event and sends it. -/
def emit (state : State) : Option State :=
  match state.outbox with
  | [] => none
  | emission :: rest =>
    let allocated := state.compositor.events.nextSeq
    some
      { state with
        compositor := { state.compositor with events := allocated.1 }
        outbox := rest
        channel := state.channel.send (emission.event allocated.2 state.uptimeMs) }

/-- How a handler goes on after a reply, and the command it sends at once. -/
def Handler.answer (handler : Handler) (reply : Reply) : Option (Handler × Option Command) :=
  match handler.phase, reply with
  | .commanded actionId, reply =>
    some
      ({ handler with
          lastReply := some reply
          phase :=
            match handler.request with
            | .input .. => .acting actionId
            | _ => .done },
        none)
  | .reading synthesis, .snapshot snapshot =>
    some ({ handler with phase := .reserving synthesis (some snapshot.tsMs) }, some .reserveSeq)
  | .reserving synthesis tsMs, .reserved seq =>
    some ({ handler with phase := .reserved synthesis seq tsMs }, none)
  | _, _ => none

/-- Delivers the reply of the served command, after its events. -/
def deliverReply (state : State) : Option State :=
  match state.outbox, state.serving with
  | [], some (.pump, .snapshot snapshot) =>
    if state.pump = .querying then
      some
        { state with
          serving := none
          pump := .answered snapshot state.log.length }
    else none
  | [], some (.handler id, reply) =>
    ((state.handlers id).bind (fun handler => handler.answer reply)).map fun (handler, next) =>
      State.setHandler
        { state with
          serving := none
          commands := state.commands ++ (next.map fun command => (.handler id, command)).toList }
        id handler
  | _, _ => none

/-- Receives the next event, or the news that events were missed. -/
def pumpRecv (state : State) (correlated : Option LaunchId) : Option State :=
  match state.pump with
  | .idle =>
    match state.channel.recv state.cursor with
    | (.lagged _, cursor) =>
      some
        { state with
          cursor := cursor
          commands := state.commands ++ [(.pump, .queryState)]
          pump := .querying }
    | (.value event, cursor) =>
      { state with
        cursor := cursor
        pump := .observing (correlateWindow correlated event) }.observe
          (.handleEvent (correlateWindow correlated event))
    | (.empty, _) => none
  | _ => none

/-- The next step of `handle_event` (observer, then inbox) or of `resync`. -/
def pumpStep (state : State) : Option State :=
  match state.pump with
  | .observing event =>
    match state.observer.pump with
    | .idle => { state with pump := .recording }.notify (.handleEvent event)
    | .bumping => state.observe .pumpBump
    | .handling _ | .resyncing _ =>
      { state with horizon := max state.horizon state.cursor.next }.observe .pumpSection
  | .recording => { state with pump := .idle }.notify .bump
  | .answered snapshot position =>
    { state with pump := .resyncing position }.observe (.resync (observerSnapshot snapshot))
  | .resyncing position =>
    match state.observer.pump with
    | .idle => some { state with pump := .idle }
    | .bumping => state.observe .pumpBump
    | .handling _ | .resyncing _ =>
      { state with horizon := max state.horizon position }.observe .pumpSection
  | .idle | .querying => none

/-- Starts serving a request. -/
def startRequest (state : State) (id : ℕ) (request : Request) : Option State :=
  match state.handlers id with
  | some _ => none
  | none =>
    match request with
    | .synthesize synthesis =>
      let phase :=
        if synthesis.readsState then .reading synthesis else .reserving synthesis none
      some (State.setHandler
        { state with
          commands := state.commands ++
            [(.handler id, if synthesis.readsState then .queryState else .reserveSeq)] }
        id ⟨request, phase, none, state.log.length, state.horizon, []⟩)
    | .activateWindow _ | .closeWindow _ | .input .. =>
      request.action.bind fun (kind, windowId, position) =>
        (state.setHandler id ⟨request, .recording, none, state.log.length, state.horizon,
          []⟩).observe (.recordAction id kind windowId position)

/-- The next step of `record_action`, or the reading of the clock for a synthesized event. -/
def handlerStep (state : State) (id : ℕ) : Option State :=
  (state.handlers id).bind fun handler =>
    match handler.phase with
    | .recording =>
      match state.observer.actors id with
      | .recorded actionId => some (state.setHandler id { handler with phase := .acting actionId })
      | .stamped .. =>
        (state.setHandler id { handler with horizonAt := state.horizon }).observe (.actorStep id)
      | .idle | .marked .. | .touching .. => state.observe (.actorStep id)
    | .reserved synthesis seq tsMs =>
      some (state.setHandler id
        { handler with phase := .publishing synthesis seq (tsMs.getD state.observer.nowMs) })
    | _ => none

def issueCommand (state : State) (id : ℕ) (command : Command) : Option State :=
  (state.handlers id).bind fun handler =>
    match handler.phase with
    | .acting actionId =>
      if handler.request.issues command then
        some (State.setHandler
          { state with commands := state.commands ++ [(.handler id, command)] }
          id { handler with phase := .commanded actionId })
      else none
    | _ => none

def finishRequest (state : State) (id : ℕ) : Option State :=
  (state.handlers id).bind fun handler =>
    match handler.phase with
    | .acting _ => some (state.setHandler id { handler with phase := .done })
    | _ => none

/-- Publishes the event, unless the store refused the change. -/
def publish (state : State) (id : ℕ) (stored : Bool) : Option State :=
  (state.handlers id).bind fun handler =>
    match handler.phase with
    | .publishing synthesis seq tsMs =>
      some (State.setHandler
        { state with
          channel :=
            if stored then state.channel.send (synthesis.event seq tsMs) else state.channel }
        id { handler with phase := .done })
    | _ => none

def step (state : State) : Label → Option State
  | .tick nanos => (state.observe (.tick nanos)).bind fun ticked => ticked.notify (.tick nanos)
  | .client request =>
    if state.compositorFree then
      let handled := handleClient state.compositor request
      some
        { state with
          compositor := { state.compositor with wm := handled.1 }
          outbox := handled.2 }
    else none
  | .serve => serve state
  | .emit => emit state
  | .reply => deliverReply state
  | .pumpRecv correlated => pumpRecv state correlated
  | .pumpStep => pumpStep state
  | .request id request => startRequest state id request
  | .handlerStep id => handlerStep state id
  | .issue id command => issueCommand state id command
  | .finish id => finishRequest state id
  | .publish id stored => publish state id stored
  | .wait label => if waiterLabel label then state.observe label else none
  | .inboxWait label => if clientLabel label then state.notify label else none

/-- The runtime with its event channel of the given size, its inbox and any number of tasks. -/
def machine (config : PolicyConfig) (slots inboxCapacity : ℕ) : Machine State Label :=
  ⟨State.new config slots inboxCapacity, step⟩

end ADesk.Runtime.Run
