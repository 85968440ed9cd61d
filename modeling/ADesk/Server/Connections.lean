/- ADesk/Server/Connections
   digest: Connections, their dispatch tasks, push loops and writers over the two registries. -/

import ADesk.Foundation.Execution
import ADesk.Server.Subscriptions
import Mathlib.Logic.Function.Basic

set_option autoImplicit false

namespace ADesk.Server.Connections

open ADesk.Core.Ids (WindowId)
open ADesk.Core.Event (RuntimeEvent)
open ADesk.Foundation.Execution
open ADesk.Server.Subscriptions

def outboundQueueCapacity : ℕ := 1024

def maxInFlightRequests : ℕ := 64

/-! ## Requests and their handlers -/

/-- A request as the reader hands it to its task. All methods that touch no registry are one. -/
inductive Request
  | subscribeEvents (kinds : List EventKind) (windowId : Option WindowId)
  | inspectSubscribe (overlays : List OverlayKind) (minIntervalMs : ℕ)
  | unsubscribeEvents (id : SubscriptionId)
  | other
  deriving DecidableEq

inductive Response
  | subscribed (id : SubscriptionId)
  | unsubscribed
  | invalidParams (method message : String)
  | internal (message : String)
  | other
  deriving DecidableEq

/-- Where a subscribing handler stands between its critical sections. -/
inductive SubscribeStage
  | validating
  | sinkHeld
  | idAllocated (id : SubscriptionId)
  | inserted (id : SubscriptionId)
  | recorded (id : SubscriptionId)
  deriving DecidableEq

/-- The two registries are locked one after the other. -/
inductive UnsubscribeStage
  | events | inspectors | session
  deriving DecidableEq

inductive Handler
  | subscribeEvents (kinds : List EventKind) (windowId : Option WindowId) (stage : SubscribeStage)
  | inspectSubscribe (overlays : List OverlayKind) (minIntervalMs : ℕ) (stage : SubscribeStage)
  | unsubscribeEvents (id : SubscriptionId) (stage : UnsubscribeStage)
  | other
  | answering (response : Response)
  | finished
  deriving DecidableEq

def Request.handler : Request → Handler
  | subscribeEvents kinds windowId => .subscribeEvents kinds windowId .validating
  | inspectSubscribe overlays minIntervalMs => .inspectSubscribe overlays minIntervalMs .validating
  | unsubscribeEvents id => .unsubscribeEvents id .events
  | other => .other

/-- Whether a handler holds a clone of the outbound sink it looked up. An event subscription
moves it into its entry; an inspector stream keeps one until its push loop is spawned. -/
def Handler.holdsSink : Handler → Bool
  | subscribeEvents _ _ .sinkHeld | subscribeEvents _ _ (.idAllocated _) => true
  | inspectSubscribe _ _ .validating => false
  | inspectSubscribe .. => true
  | _ => false

/-- One spawned dispatch task. -/
structure Task where
  connection : SessionId
  handler : Handler
  deriving DecidableEq

/-- The push loop of an inspector stream. -/
inductive LoopPhase
  | checking | rendering | waiting | stopping | ended
  deriving DecidableEq

structure InspectLoop where
  connection : SessionId
  subscriptionId : SubscriptionId
  phase : LoopPhase
  deriving DecidableEq

/-! ## Connections -/

/-- A connection reads requests, then takes its four cleanup steps. -/
inductive ConnectionPhase
  | reading | eventsRemoved | inspectorsRemoved | sinkForgotten | writerDropped
  deriving DecidableEq

/-- `receiving` holds while the writer task has the receiver of the outbound queue. -/
structure ConnectionState where
  phase : ConnectionPhase
  receiving : Bool
  queued : ℕ
  inFlight : ℕ
  owned : List SubscriptionId
  deriving DecidableEq

structure ServerState where
  accepted : ℕ
  connections : SessionId → Option ConnectionState
  sinks : SessionId → Bool
  events : Registry Subscription
  inspectors : Registry InspectSubscription
  tasks : List Task
  loops : List InspectLoop

def ServerState.new : ServerState :=
  ⟨0, fun _ => none, fun _ => false, .new, .new, [], []⟩

/-- Changes one connection. -/
def ServerState.onConnection (state : ServerState) (connection : SessionId)
    (change : ConnectionState → ConnectionState) : ServerState :=
  { state with
    connections := Function.update state.connections connection
      ((state.connections connection).map change) }

def ServerState.setHandler (state : ServerState) (index : ℕ) (task : Task) (handler : Handler) :
    ServerState :=
  { state with tasks := state.tasks.set index { task with handler := handler } }

inductive SendResult
  | sent | full | closed
  deriving DecidableEq

/-- A non-blocking send: a full queue loses the frame, a dropped receiver refuses it. -/
def trySend (connections : SessionId → Option ConnectionState) (sink : EventSink) :
    (SessionId → Option ConnectionState) × SendResult :=
  match connections sink with
  | none => (connections, .closed)
  | some connection =>
    if !connection.receiving then (connections, .closed)
    else if connection.queued < outboundQueueCapacity then
      (Function.update connections sink (some { connection with queued := connection.queued + 1 }),
        .sent)
    else (connections, .full)

/-- Delivers an event to the matching subscriptions; a closed queue removes its entry. -/
def fanOut (event : RuntimeEvent) : List Subscription →
    (SessionId → Option ConnectionState) →
      List Subscription × (SessionId → Option ConnectionState)
  | [], connections => ([], connections)
  | subscription :: rest, connections =>
    if !subscription.matchesEvent event then
      let delivered := fanOut event rest connections
      (subscription :: delivered.1, delivered.2)
    else
      let tried := trySend connections subscription.sink
      let delivered := fanOut event rest tried.1
      if tried.2 = .closed then delivered else (subscription :: delivered.1, delivered.2)

/-- The looked-up sink, or the error of a connection without one. -/
def withSink (state : ServerState) (index : ℕ) (task : Task) (held : Handler) : ServerState :=
  if state.sinks task.connection then state.setHandler index task held
  else state.setHandler index task (.answering (.internal
    ("connection " ++ toString task.connection ++ " has no outbound sink registered")))

def recordOwned (state : ServerState) (connection : SessionId) (id : SubscriptionId) :
    ServerState :=
  state.onConnection connection fun session => { session with owned := session.owned ++ [id] }

def forgetOwned (state : ServerState) (connection : SessionId) (id : SubscriptionId) :
    ServerState :=
  state.onConnection connection fun session =>
    { session with owned := session.owned.filter fun owned => owned ≠ id }

/-- `writer.send` waits for room and fails at once when the writer task is gone. Either way the
task ends, which returns its permit and drops its clone of the writer. -/
def respond (state : ServerState) (index : ℕ) (task : Task) : Option ServerState :=
  match state.connections task.connection with
  | none => none
  | some connection =>
    if connection.receiving && connection.queued ≥ outboundQueueCapacity then none
    else
      let queued := if connection.receiving then connection.queued + 1 else connection.queued
      some ((state.onConnection task.connection fun session =>
        { session with queued := queued, inFlight := session.inFlight - 1 }).setHandler
          index task .finished)

/-- Runs a dispatch task up to the end of its next critical section. -/
def pollTask (state : ServerState) (index : ℕ) (task : Task) : Option ServerState :=
  match task.handler with
  | .subscribeEvents kinds windowId .validating =>
    match kinds.find? fun kind => !kind.isSubscribable with
    | some _ => some (state.setHandler index task (.answering (.invalidParams "subscribe_events"
        "`InspectFrame` is not a subscribable event kind (§5.6)")))
    | none => some (withSink state index task (.subscribeEvents kinds windowId .sinkHeld))
  | .subscribeEvents kinds windowId .sinkHeld =>
    let allocated := state.events.nextId
    some ({ state with events := allocated.1 }.setHandler index task
      (.subscribeEvents kinds windowId (.idAllocated allocated.2)))
  | .subscribeEvents kinds windowId (.idAllocated id) =>
    some ({ state with
        events := state.events.push
          ⟨id, task.connection, kinds, windowId, task.connection⟩ }.setHandler index task
      (.subscribeEvents kinds windowId (.inserted id)))
  | .subscribeEvents kinds windowId (.inserted id) =>
    some ((recordOwned state task.connection id).setHandler index task
      (.subscribeEvents kinds windowId (.recorded id)))
  | .subscribeEvents _ _ (.recorded id) =>
    some (state.setHandler index task (.answering (.subscribed id)))
  | .inspectSubscribe overlays minIntervalMs .validating =>
    some (withSink state index task (.inspectSubscribe overlays minIntervalMs .sinkHeld))
  | .inspectSubscribe overlays minIntervalMs .sinkHeld =>
    let allocated := state.inspectors.nextId
    some ({ state with inspectors := allocated.1 }.setHandler index task
      (.inspectSubscribe overlays minIntervalMs (.idAllocated allocated.2)))
  | .inspectSubscribe overlays minIntervalMs (.idAllocated id) =>
    some ({ state with
        inspectors := state.inspectors.push
          ⟨id, task.connection, overlays, minIntervalMs, task.connection⟩ }.setHandler index task
      (.inspectSubscribe overlays minIntervalMs (.inserted id)))
  | .inspectSubscribe overlays minIntervalMs (.inserted id) =>
    some ((recordOwned state task.connection id).setHandler index task
      (.inspectSubscribe overlays minIntervalMs (.recorded id)))
  | .inspectSubscribe _ _ (.recorded id) =>
    let stream : InspectLoop := ⟨task.connection, id, .checking⟩
    some ({ state with loops := state.loops ++ [stream] }.setHandler index task
      (.answering (.subscribed id)))
  | .unsubscribeEvents id .events =>
    some ({ state with events := (state.events.unsubscribe id).1 }.setHandler index task
      (.unsubscribeEvents id .inspectors))
  | .unsubscribeEvents id .inspectors =>
    some ({ state with inspectors := (state.inspectors.unsubscribe id).1 }.setHandler index task
      (.unsubscribeEvents id .session))
  | .unsubscribeEvents id .session =>
    some ((forgetOwned state task.connection id).setHandler index task (.answering .unsubscribed))
  | .other => some (state.setHandler index task (.answering .other))
  | .answering _ => respond state index task
  | .finished => none

/-- One turn of a push loop; `rendered` says whether the compositor could render. -/
def turnLoop (state : ServerState) (index : ℕ) (stream : InspectLoop) (rendered : Bool) :
    Option ServerState :=
  let atPhase (phase : LoopPhase) (state : ServerState) : ServerState :=
    { state with loops := state.loops.set index { stream with phase := phase } }
  match stream.phase with
  | .checking =>
    let closed := !(state.connections stream.connection).any ConnectionState.receiving
    if closed || !state.inspectors.contains stream.subscriptionId then
      some (atPhase .stopping state)
    else some (atPhase .rendering state)
  | .rendering =>
    if rendered then
      let tried := trySend state.connections stream.connection
      if tried.2 = .closed then some (atPhase .stopping state)
      else some (atPhase .waiting { state with connections := tried.1 })
    else some (atPhase .stopping state)
  | .waiting => some (atPhase .checking state)
  | .stopping =>
    some (atPhase .ended
      { state with inspectors := (state.inspectors.unsubscribe stream.subscriptionId).1 })
  | .ended => none

/-! ## Cleanup and the writer -/

/-- The next cleanup step of a connection whose reader has ended. -/
def teardownStep (state : ServerState) (connection : SessionId) : Option ServerState :=
  let atPhase (phase : ConnectionPhase) (state : ServerState) : ServerState :=
    state.onConnection connection fun session => { session with phase := phase }
  match (state.connections connection).map ConnectionState.phase with
  | some .reading =>
    some (atPhase .eventsRemoved
      { state with events := (state.events.removeConnection connection).1 })
  | some .eventsRemoved =>
    some (atPhase .inspectorsRemoved
      { state with inspectors := (state.inspectors.removeConnection connection).1 })
  | some .inspectorsRemoved =>
    some (atPhase .sinkForgotten
      { state with sinks := Function.update state.sinks connection false })
  | some .sinkForgotten => some (atPhase .writerDropped state)
  | some .writerDropped | none => none

/-- The senders of an outbound queue: the published sink, the writer of the connection and its
clone in every running task, looked-up sinks, registered entries and push loops. -/
def senders (state : ServerState) (connection : SessionId) : ℕ :=
  (if state.sinks connection then 1 else 0) +
    (if (state.connections connection).any fun session => session.phase ≠ .writerDropped
      then 1 else 0) +
    (state.tasks.filter fun task =>
      task.connection = connection ∧ task.handler ≠ .finished).length +
    (state.tasks.filter fun task => task.connection = connection ∧ task.handler.holdsSink).length +
    (state.events.entries.filter fun entry => entry.sink = connection).length +
    (state.inspectors.entries.filter fun entry => entry.sink = connection).length +
    (state.loops.filter fun stream => stream.connection = connection ∧ stream.phase ≠ .ended).length

/-! ## The machine -/

inductive Label
  | accept
  | read (connection : SessionId) (request : Request)
  | poll (task : ℕ)
  | turn (stream : ℕ) (rendered : Bool)
  | publish (event : RuntimeEvent)
  | teardown (connection : SessionId)
  | write (connection : SessionId)
  | writeFails (connection : SessionId)
  | writerEnds (connection : SessionId)
  deriving DecidableEq

def readRequest (state : ServerState) (connection : SessionId) (request : Request) :
    Option ServerState :=
  match state.connections connection with
  | none => none
  | some session =>
    if session.phase = .reading ∧ session.inFlight < maxInFlightRequests then
      some { state.onConnection connection fun session =>
          { session with inFlight := session.inFlight + 1 } with
        tasks := state.tasks ++ [⟨connection, request.handler⟩] }
    else none

/-- The writer task: it drains the queue, fails on the socket, or sees the last sender go. -/
def writerStep (state : ServerState) (connection : SessionId)
    (enabled : ConnectionState → Bool) (change : ConnectionState → ConnectionState) :
    Option ServerState :=
  if (state.connections connection).any fun session => session.receiving && enabled session then
    some (state.onConnection connection change)
  else none

def step (state : ServerState) : Label → Option ServerState
  | .accept =>
    some { state with
      accepted := state.accepted + 1
      connections := Function.update state.connections (state.accepted + 1)
        (some ⟨.reading, true, 0, 0, []⟩)
      sinks := Function.update state.sinks (state.accepted + 1) true }
  | .read connection request => readRequest state connection request
  | .poll index => state.tasks[index]?.bind fun task => pollTask state index task
  | .turn index rendered => state.loops[index]?.bind fun stream =>
      turnLoop state index stream rendered
  | .publish event =>
    let delivered := fanOut event state.events.entries state.connections
    some { state with
      events := { state.events with entries := delivered.1 }
      connections := delivered.2 }
  | .teardown connection => teardownStep state connection
  | .write connection =>
    writerStep state connection (fun session => 0 < session.queued)
      fun session => { session with queued := 0 }
  | .writeFails connection =>
    writerStep state connection (fun session => 0 < session.queued)
      fun session => { session with queued := 0, receiving := false }
  | .writerEnds connection =>
    if senders state connection = 0 then
      writerStep state connection (fun session => session.queued = 0)
        fun session => { session with receiving := false }
    else none

def serverMachine : Machine ServerState Label := ⟨ServerState.new, step⟩

/-! ## What a step can change -/

def phaseOf (state : ServerState) (connection : SessionId) : Option ConnectionPhase :=
  (state.connections connection).map ConnectionState.phase

/-- An event id that is handed out and not yet registered. -/
def Handler.pendingEvent : Handler → Option SubscriptionId
  | subscribeEvents _ _ (.idAllocated id) => some id
  | _ => none

/-- A stream id that is handed out and not yet registered. -/
def Handler.pendingInspector : Handler → Option SubscriptionId
  | inspectSubscribe _ _ (.idAllocated id) => some id
  | _ => none

theorem request_pending (request : Request) :
    request.handler.pendingEvent = none ∧ request.handler.pendingInspector = none := by
  cases request <;> exact ⟨rfl, rfl⟩

theorem on_connection_self (state : ServerState) (connection : SessionId)
    (change : ConnectionState → ConnectionState) :
    (state.onConnection connection change).connections connection =
      (state.connections connection).map change :=
  Function.update_self connection _ state.connections

theorem on_connection_other (state : ServerState) {connection other : SessionId}
    (different : other ≠ connection) (change : ConnectionState → ConnectionState) :
    (state.onConnection connection change).connections other = state.connections other :=
  Function.update_of_ne different _ state.connections

theorem phase_of_on_connection (state : ServerState) (changed connection : SessionId)
    {change : ConnectionState → ConnectionState}
    (keeps : ∀ session, (change session).phase = session.phase) :
    phaseOf (state.onConnection changed change) connection = phaseOf state connection := by
  unfold phaseOf
  by_cases same : connection = changed
  · subst same
    rw [on_connection_self, Option.map_map]
    congr 1
    funext session
    exact keeps session
  · rw [on_connection_other state same]

theorem try_send_phase (connections : SessionId → Option ConnectionState)
    (sink : EventSink) (connection : SessionId) :
    ((trySend connections sink).1 connection).map ConnectionState.phase =
      (connections connection).map ConnectionState.phase := by
  unfold trySend
  cases found : connections sink with
  | none => rfl
  | some session =>
    dsimp only
    split
    · rfl
    · split
      · dsimp only
        by_cases same : connection = sink
        · subst same
          rw [Function.update_self, found]
          rfl
        · rw [Function.update_of_ne same]
      · rfl

theorem fan_out_phase (event : RuntimeEvent) (entries : List Subscription)
    (connections : SessionId → Option ConnectionState) (connection : SessionId) :
    ((fanOut event entries connections).2 connection).map ConnectionState.phase =
      (connections connection).map ConnectionState.phase := by
  induction entries generalizing connections with
  | nil => rfl
  | cons entry rest ih =>
    unfold fanOut
    split
    · exact ih connections
    · have delivered := (ih (trySend connections entry.sink).1).trans
        (try_send_phase connections entry.sink connection)
      dsimp only
      split
      · exact delivered
      · exact delivered

theorem fan_out_sublist (event : RuntimeEvent) (entries : List Subscription)
    (connections : SessionId → Option ConnectionState) :
    (fanOut event entries connections).1.Sublist entries := by
  induction entries generalizing connections with
  | nil => exact List.Sublist.refl _
  | cons entry rest ih =>
    unfold fanOut
    split
    · exact (ih connections).cons_cons entry
    · dsimp only
      split
      · exact (ih _).cons entry
      · exact (ih _).cons_cons entry

/-- The effect of a poll: at most one registry changes, by one operation. Every other branch of a
handler leaves both registries and every cleanup alone. -/
inductive PollEffect (state : ServerState) (index : ℕ) (task : Task) (after : ServerState) : Prop
  | quiet (handler : Handler) (noEvent : handler.pendingEvent = none)
      (noInspector : handler.pendingInspector = none)
      (tasks : after.tasks = state.tasks.set index { task with handler := handler })
      (events : after.events = state.events) (inspectors : after.inspectors = state.inspectors)
      (sinks : after.sinks = state.sinks) (phases : phaseOf after = phaseOf state)
  | allocateEvent (kinds : List EventKind) (windowId : Option WindowId)
      (taken : after = { state with events := state.events.nextId.1 }.setHandler index task
        (.subscribeEvents kinds windowId (.idAllocated state.events.nextId.2)))
  | pushEvent (kinds : List EventKind) (windowId : Option WindowId) (id : SubscriptionId)
      (pending : task.handler = .subscribeEvents kinds windowId (.idAllocated id))
      (taken : after = { state with
          events := state.events.push
            ⟨id, task.connection, kinds, windowId, task.connection⟩ }.setHandler index task
        (.subscribeEvents kinds windowId (.inserted id)))
  | allocateInspector (overlays : List OverlayKind) (minIntervalMs : ℕ)
      (taken : after = { state with inspectors := state.inspectors.nextId.1 }.setHandler index task
        (.inspectSubscribe overlays minIntervalMs (.idAllocated state.inspectors.nextId.2)))
  | pushInspector (overlays : List OverlayKind) (minIntervalMs : ℕ) (id : SubscriptionId)
      (pending : task.handler = .inspectSubscribe overlays minIntervalMs (.idAllocated id))
      (taken : after = { state with
          inspectors := state.inspectors.push
            ⟨id, task.connection, overlays, minIntervalMs, task.connection⟩ }.setHandler index task
        (.inspectSubscribe overlays minIntervalMs (.inserted id)))
  | unsubscribeEvents (id : SubscriptionId)
      (calling : task.handler = .unsubscribeEvents id .events)
      (taken : after = { state with events := (state.events.unsubscribe id).1 }.setHandler index
        task (.unsubscribeEvents id .inspectors))
  | unsubscribeInspectors (id : SubscriptionId)
      (calling : task.handler = .unsubscribeEvents id .inspectors)
      (taken : after = { state with
          inspectors := (state.inspectors.unsubscribe id).1 }.setHandler index task
        (.unsubscribeEvents id .session))

private theorem set_handler_quiet (state : ServerState) (index : ℕ) (task : Task)
    {handler : Handler} (noEvent : handler.pendingEvent = none)
    (noInspector : handler.pendingInspector = none) :
    PollEffect state index task (state.setHandler index task handler) :=
  .quiet handler noEvent noInspector rfl rfl rfl rfl rfl

private theorem on_connection_quiet (state : ServerState) (index : ℕ) (task : Task)
    {handler : Handler} (noEvent : handler.pendingEvent = none)
    (noInspector : handler.pendingInspector = none) {change : ConnectionState → ConnectionState}
    (keeps : ∀ session, (change session).phase = session.phase) :
    PollEffect state index task
      ((state.onConnection task.connection change).setHandler index task handler) :=
  .quiet handler noEvent noInspector rfl rfl rfl rfl
    (funext fun connection => phase_of_on_connection state task.connection connection keeps)

private theorem with_sink_quiet (state : ServerState) (index : ℕ) (task : Task) {held : Handler}
    (noEvent : held.pendingEvent = none) (noInspector : held.pendingInspector = none) :
    PollEffect state index task (withSink state index task held) := by
  unfold withSink
  split
  · exact set_handler_quiet state index task noEvent noInspector
  · exact set_handler_quiet state index task rfl rfl

theorem poll_effect {state after : ServerState} {index : ℕ} {task : Task}
    (polled : pollTask state index task = some after) : PollEffect state index task after := by
  unfold pollTask at polled
  split at polled
  · split at polled
    · cases polled
      exact set_handler_quiet state index task rfl rfl
    · cases polled
      exact with_sink_quiet state index task rfl rfl
  · cases polled
    exact .allocateEvent _ _ rfl
  · next kinds windowId id pending =>
    cases polled
    exact .pushEvent kinds windowId id pending rfl
  · cases polled
    exact on_connection_quiet state index task rfl rfl fun _ => rfl
  · cases polled
    exact set_handler_quiet state index task rfl rfl
  · cases polled
    exact with_sink_quiet state index task rfl rfl
  · cases polled
    exact .allocateInspector _ _ rfl
  · next overlays minIntervalMs id pending =>
    cases polled
    exact .pushInspector overlays minIntervalMs id pending rfl
  · cases polled
    exact on_connection_quiet state index task rfl rfl fun _ => rfl
  · cases polled
    exact .quiet _ rfl rfl rfl rfl rfl rfl rfl
  · next id calling =>
    cases polled
    exact .unsubscribeEvents id calling rfl
  · next id calling =>
    cases polled
    exact .unsubscribeInspectors id calling rfl
  · cases polled
    exact on_connection_quiet state index task rfl rfl fun _ => rfl
  · cases polled
    exact set_handler_quiet state index task rfl rfl
  · unfold respond at polled
    split at polled
    · cases polled
    · split at polled
      · cases polled
      · cases polled
        exact on_connection_quiet state index task rfl rfl fun _ => rfl
  · cases polled

/-- The effect of a push loop's turn: it ends its stream or changes no registry. -/
theorem turn_effect {state after : ServerState} {index : ℕ} {stream : InspectLoop}
    {rendered : Bool} (turned : turnLoop state index stream rendered = some after) :
    after.tasks = state.tasks ∧ after.events = state.events ∧ after.sinks = state.sinks ∧
      phaseOf after = phaseOf state ∧
      (after.inspectors = state.inspectors ∨
        after.inspectors = (state.inspectors.unsubscribe stream.subscriptionId).1) := by
  unfold turnLoop at turned
  dsimp only at turned
  split at turned
  · split at turned
    · cases turned
      exact ⟨rfl, rfl, rfl, rfl, Or.inl rfl⟩
    · cases turned
      exact ⟨rfl, rfl, rfl, rfl, Or.inl rfl⟩
  · split at turned
    · split at turned
      · cases turned
        exact ⟨rfl, rfl, rfl, rfl, Or.inl rfl⟩
      · cases turned
        refine ⟨rfl, rfl, rfl, funext fun connection => ?_, Or.inl rfl⟩
        exact try_send_phase state.connections stream.connection connection
    · cases turned
      exact ⟨rfl, rfl, rfl, rfl, Or.inl rfl⟩
  · cases turned
    exact ⟨rfl, rfl, rfl, rfl, Or.inl rfl⟩
  · cases turned
    exact ⟨rfl, rfl, rfl, rfl, Or.inr rfl⟩
  · cases turned

/-- The cleanup steps, in order. -/
theorem teardown_effect {state after : ServerState} {connection : SessionId}
    (torn : teardownStep state connection = some after) :
    after.tasks = state.tasks ∧ after.loops = state.loops ∧
      (∀ other ≠ connection, phaseOf after other = phaseOf state other) ∧
      ((phaseOf state connection = some .reading ∧ phaseOf after connection = some .eventsRemoved ∧
          after.events = (state.events.removeConnection connection).1 ∧
          after.inspectors = state.inspectors ∧ after.sinks = state.sinks) ∨
        (phaseOf state connection = some .eventsRemoved ∧
          phaseOf after connection = some .inspectorsRemoved ∧ after.events = state.events ∧
          after.inspectors = (state.inspectors.removeConnection connection).1 ∧
          after.sinks = state.sinks) ∨
        (phaseOf state connection = some .inspectorsRemoved ∧
          phaseOf after connection = some .sinkForgotten ∧ after.events = state.events ∧
          after.inspectors = state.inspectors ∧
          after.sinks = Function.update state.sinks connection false) ∨
        (phaseOf state connection = some .sinkForgotten ∧
          phaseOf after connection = some .writerDropped ∧ after.events = state.events ∧
          after.inspectors = state.inspectors ∧ after.sinks = state.sinks)) := by
  have moved : ∀ (between : ServerState) (phase before : ConnectionPhase),
      between.connections = state.connections → phaseOf state connection = some before →
      phaseOf (between.onConnection connection fun session => { session with phase := phase })
          connection = some phase ∧
        ∀ other ≠ connection,
          phaseOf (between.onConnection connection fun session => { session with phase := phase })
            other = phaseOf state other := by
    intro between phase before same known
    unfold phaseOf at known
    obtain ⟨session, found, _⟩ := Option.map_eq_some_iff.mp known
    constructor
    · unfold phaseOf
      rw [on_connection_self, same, found]
      rfl
    · intro other different
      unfold phaseOf
      rw [on_connection_other between different, same]
  unfold teardownStep at torn
  dsimp only at torn
  split at torn
  · next known =>
    cases torn
    obtain ⟨now, others⟩ := moved { state with
      events := (state.events.removeConnection connection).1 } .eventsRemoved _ rfl known
    exact ⟨rfl, rfl, others, Or.inl ⟨known, now, rfl, rfl, rfl⟩⟩
  · next known =>
    cases torn
    obtain ⟨now, others⟩ := moved { state with
      inspectors := (state.inspectors.removeConnection connection).1 } .inspectorsRemoved _ rfl
      known
    exact ⟨rfl, rfl, others, Or.inr (Or.inl ⟨known, now, rfl, rfl, rfl⟩)⟩
  · next known =>
    cases torn
    obtain ⟨now, others⟩ := moved { state with
      sinks := Function.update state.sinks connection false } .sinkForgotten _ rfl known
    exact ⟨rfl, rfl, others, Or.inr (Or.inr (Or.inl ⟨known, now, rfl, rfl, rfl⟩))⟩
  · next known =>
    cases torn
    obtain ⟨now, others⟩ := moved state .writerDropped _ rfl known
    exact ⟨rfl, rfl, others, Or.inr (Or.inr (Or.inr ⟨known, now, rfl, rfl, rfl⟩))⟩
  · cases torn
  · cases torn

/-- The writer changes its own queue only. -/
theorem writer_effect {state after : ServerState} {connection : SessionId}
    {enabled : ConnectionState → Bool} {change : ConnectionState → ConnectionState}
    (keeps : ∀ session, (change session).phase = session.phase)
    (wrote : writerStep state connection enabled change = some after) :
    after.tasks = state.tasks ∧ after.events = state.events ∧
      after.inspectors = state.inspectors ∧ after.sinks = state.sinks ∧
      phaseOf after = phaseOf state := by
  unfold writerStep at wrote
  split at wrote
  · cases wrote
    exact ⟨rfl, rfl, rfl, rfl,
      funext fun other => phase_of_on_connection state connection other keeps⟩
  · cases wrote

theorem read_effect {state after : ServerState} {connection : SessionId} {request : Request}
    (read : readRequest state connection request = some after) :
    after.tasks = state.tasks ++ [⟨connection, request.handler⟩] ∧ after.events = state.events ∧
      after.inspectors = state.inspectors ∧ after.sinks = state.sinks ∧
      phaseOf after = phaseOf state := by
  unfold readRequest at read
  split at read
  · cases read
  · split at read
    · cases read
      exact ⟨rfl, rfl, rfl, rfl,
        funext fun other => phase_of_on_connection state connection other fun _ => rfl⟩
    · cases read

end ADesk.Server.Connections
