/- ADesk/Observer/Run
   digest: The observer as a machine: the pump, action recorders and waiters, one shared access
   a step. -/

import ADesk.Foundation.Execution
import ADesk.Foundation.WatchChannel
import ADesk.Observer.ClockDomain
import ADesk.Observer.Service
import ADesk.Observer.Spec

set_option autoImplicit false

namespace ADesk.Observer.Run

open ADesk.Core.Ids (WindowId ActionId)
open ADesk.Core.Geometry (Rect)
open ADesk.Core.Event (RuntimeEvent Position Observation)
open ADesk.Core.Time (Instant wrappingAdd)
open ADesk.Foundation.Execution (Machine)
open ADesk.Foundation.KeyedLog (newer)
open ADesk.Foundation.WatchChannel
open ADesk.Observer.Actions
open ADesk.Observer.ClockDomain (Clock)
open ADesk.Observer.Journal
open ADesk.Observer.Service
open ADesk.Observer.Spec
open ADesk.Observer.State
open ADesk.Observer.Waiter

/-- Where the event pump stands inside `handle_event` or `resync`. -/
inductive PumpPhase
  | idle
  | handling (event : RuntimeEvent)
  | resyncing (snapshot : StateSnapshot)
  | bumping
  deriving DecidableEq

/-- Where a request task stands inside `record_action`. -/
inductive ActorPhase
  | idle
  | stamped (kind : ActionKind) (windowId : Option WindowId) (position : Option Position)
      (nowMs : ℕ)
  | marked (kind : ActionKind) (windowId : Option WindowId) (position : Option Position)
      (nowMs watermark : ℕ)
  | touching (kind : ActionKind) (windowId : WindowId) (nowMs : ℕ) (actionId : ActionId)
  | recorded (actionId : ActionId)
  deriving DecidableEq

/-- Where a waiter stands inside `run_wait`; each constructor precedes one shared access. -/
inductive WaitPhase
  | checking
  | subscribing
  | registering
  | looping
  | reading (generation : ℕ)
  | absorbing (generation now : ℕ)
  | deciding (generation now anchor : ℕ) (met : Bool)
  | scheduling (horizon : ℕ)
  | parked (sleepUntil : Instant)
  | stamping (timedOut : Bool)
  | resolving (timedOut : Bool) (nowMs : ℕ)
  | releasing (observation : Observation)
  | done (observation : Observation)
  | failed (error : WaitError)
  | cancelled
  deriving DecidableEq

/-- The phases between an absorb section and the next loop head. -/
def WaitPhase.settled : WaitPhase → Bool
  | .deciding .. | .scheduling _ | .parked _ | .stamping _ | .resolving .. | .releasing _
  | .done _ | .cancelled => true
  | .checking | .subscribing | .registering | .looping | .reading _ | .absorbing .. | .failed _ =>
    false

/-- The observation a wait has resolved with. -/
def WaitPhase.observation : WaitPhase → Option Observation
  | .releasing observation | .done observation => some observation
  | _ => none

/-- A running `run_wait`. The last four fields are history variables: the events scanned, those
absorbed with their clips, and at the last absorb section the number of recording sections and
the watermark. -/
structure Wait where
  plan : WaitPlan
  receiver : Receiver
  accumulator : Accumulator
  cursor : ℕ
  phase : WaitPhase
  scanned : List CountedEvent
  absorbed : List (CountedEvent × Option Rect)
  examined : ℕ
  cut : ℕ

def Wait.start (plan : WaitPlan) : Wait where
  plan := plan
  receiver := ⟨0⟩
  accumulator := Accumulator.new plan.filters
  cursor := plan.filters.minSeq
  phase := .checking
  scanned := []
  absorbed := []
  examined := 0
  cut := 0

def Wait.key (wait : Wait) : PendingObservation :=
  ⟨wait.plan.filters.minSeq, wait.plan.startedAt⟩

/-- A wait request: before its plan exists, refused, or in the shared wait loop. -/
inductive WaitTask
  | idle
  | calling (request : WaitRequest) (startedAt : ℕ)
  | refused (error : WaitError)
  | running (wait : Wait)

/-- What a recording section was about. -/
inductive Source
  | handled (event : RuntimeEvent)
  | synced (snapshot : StateSnapshot)
  deriving DecidableEq

/-- One recording section: the watermark it started from and the events it journaled. -/
structure Section where
  before : ℕ
  source : Source
  pushed : List CountedEvent
  deriving DecidableEq

/-- One change of the set of tracked windows. -/
inductive WindowStep
  | handled (event : RuntimeEvent)
  | synced (snapshot : StateSnapshot)
  | touched (windowId : WindowId)
  deriving DecidableEq

/-- The observer with its pump, its action recorders and its waiters. The last three fields are
history variables that no step reads: the recording sections, the index of the last one that
adopted a snapshot, and the changes of the tracked windows. -/
structure State where
  service : ServiceState
  clock : Clock
  actions : ActionRegistry
  events : Sender ℕ
  instant : Instant
  pump : PumpPhase
  actors : ℕ → ActorPhase
  waits : ℕ → WaitTask
  sections : List Section
  epoch : ℕ
  windowLog : List WindowStep

def State.new : State where
  service := ServiceState.new
  clock := Clock.new 0
  actions := ActionRegistry.new
  events := channel 0
  instant := 0
  pump := .idle
  actors := fun _ => .idle
  waits := fun _ => .idle
  sections := []
  epoch := 0
  windowLog := []

/-- Every event journaled so far, in order. -/
def State.pushed (state : State) : List CountedEvent := state.sections.flatMap Section.pushed

def State.nowMs (state : State) : ℕ := state.clock.nowMs state.instant

def bumpGeneration (events : Sender ℕ) : Sender ℕ :=
  events.sendModify (fun generation => wrappingAdd generation 1)

inductive Label
  | tick (nanos : ℕ)
  | handleEvent (event : RuntimeEvent)
  | resync (snapshot : StateSnapshot)
  | pumpSection
  | pumpBump
  | recordAction (actor : ℕ) (kind : ActionKind) (windowId : Option WindowId)
      (position : Option Position)
  | actorStep (actor : ℕ)
  | callWait (waiter : ℕ) (request : WaitRequest)
  | runWait (waiter : ℕ) (plan : WaitPlan)
  | waitStep (waiter : ℕ)
  | wakeChanged (waiter : ℕ)
  | wakeTimer (waiter : ℕ)
  | cancelWait (waiter : ℕ)
  deriving DecidableEq

/-- The state section of the pump's current call. -/
def pumpSection (state : State) : Option State :=
  match state.pump with
  | .handling event =>
    some
      { state with
        service := handleEventSection state.service event
        pump := .bumping
        sections := state.sections ++
          [⟨state.service.watermark, .handled event,
            (CountedEvent.fromRuntimeEvent event).toList⟩]
        windowLog := state.windowLog ++ [.handled event] }
  | .resyncing snapshot =>
    if staleSnapshot state.service snapshot then some { state with pump := .idle }
    else
      some
        { state with
          service := (resyncSection state.service snapshot).1
          pump := .bumping
          sections := state.sections ++
            [⟨state.service.watermark, .synced snapshot, syntheticEvents state.service snapshot⟩]
          epoch := state.sections.length
          windowLog := state.windowLog ++ [.synced snapshot] }
  | .idle | .bumping => none

/-- The next access of `record_action`: watermark, registry, then the window table. -/
def actorStep (state : State) (actor : ℕ) : Option State :=
  match state.actors actor with
  | .stamped kind windowId position nowMs =>
    some
      { state with
        actors := Function.update state.actors actor
          (.marked kind windowId position nowMs state.service.watermark) }
  | .marked kind windowId position nowMs watermark =>
    let recorded := state.actions.record kind windowId position watermark nowMs
    some
      { state with
        actions := recorded.1
        actors := Function.update state.actors actor
          (match windowId with
            | some windowId => .touching kind windowId nowMs recorded.2
            | none => .recorded recorded.2) }
  | .touching kind windowId nowMs actionId =>
    some
      { state with
        service := touchSection state.service kind windowId nowMs
        actors := Function.update state.actors actor (.recorded actionId)
        windowLog := state.windowLog ++ [.touched windowId] }
  | .idle | .recorded _ => none

/-- The absorb section of a waiter, with its condition evaluated on the result. -/
def absorbStep (state : State) (wait : Wait) (generation now : ℕ) : Wait :=
  let scan := absorbSection state.service wait.plan.filters wait.cursor wait.accumulator
  let batch := newer CountedEvent.seq wait.cursor state.service.journal.buf
  let anchor := max wait.plan.anchorTs (scan.2.lastCommitTs.getD 0)
  { wait with
    cursor := scan.1
    accumulator := scan.2
    phase := .deciding generation now anchor
      (conditionMet wait.plan.condition scan.2 wait.plan.anchorTs now)
    scanned := wait.scanned ++ batch
    absorbed := wait.absorbed ++
      (batch.filter wait.plan.filters.counts).map fun event =>
        (event, eventGeometry state.service event)
    examined := state.sections.length
    cut := state.service.watermark }

/-- The branch of the wait loop after an absorb section. -/
def decideWait (state : State) (plan : WaitPlan) (generation now anchor : ℕ) (met : Bool) :
    WaitPhase :=
  if met then
    if state.events.borrow ≠ generation then .looping else .stamping false
  else if now ≥ plan.deadlineMs then
    .stamping (match plan.condition with
      | .timeout => false
      | .change | .quiet _ => true)
  else
    .scheduling (match plan.quietDeadlineMs anchor with
      | some quiet => min quiet plan.deadlineMs
      | none => plan.deadlineMs)

/-- The next access of `run_wait`; parked waiters move by their wakeups only. -/
def advanceWait (state : State) (wait : Wait) : Option (ServiceState × Wait) :=
  match wait.phase with
  | .checking =>
    match wait.plan.windowId with
    | none => some (state.service, { wait with phase := .subscribing })
    | some windowId =>
      if state.service.windows.contains windowId then
        some (state.service, { wait with phase := .subscribing })
      else some (state.service, { wait with phase := .failed (.unknownWindow windowId) })
  | .subscribing =>
    some (state.service, { wait with receiver := state.events.subscribe, phase := .registering })
  | .registering =>
    some (registerPending state.service wait.plan.windowId wait.key,
      { wait with phase := .looping })
  | .looping => some (state.service, { wait with phase := .reading state.events.borrow })
  | .reading generation =>
    some (state.service, { wait with phase := .absorbing generation state.nowMs })
  | .absorbing generation now => some (state.service, absorbStep state wait generation now)
  | .deciding generation now anchor met =>
    some (state.service,
      { wait with phase := decideWait state wait.plan generation now anchor met })
  | .scheduling horizon =>
    some (state.service,
      { wait with phase := .parked (state.clock.deadline state.instant horizon) })
  | .stamping timedOut =>
    some (state.service, { wait with phase := .resolving timedOut state.nowMs })
  | .resolving timedOut nowMs =>
    some (state.service,
      { wait with
        phase := .releasing
          (resolveSection state.service wait.plan wait.accumulator nowMs timedOut) })
  | .releasing observation =>
    some (dropPending state.service wait.plan.windowId wait.key,
      { wait with phase := .done observation })
  | .parked _ | .done _ | .failed _ | .cancelled => none

def State.setWait (state : State) (waiter : ℕ) (task : WaitTask) : State :=
  { state with waits := Function.update state.waits waiter task }

def waitStep (state : State) (waiter : ℕ) : Option State :=
  match state.waits waiter with
  | .calling request startedAt =>
    some (state.setWait waiter
      (match planRequest state.actions state.service.watermark request startedAt with
        | .ok plan => .running (Wait.start plan)
        | .error error => .refused error))
  | .running wait =>
    match advanceWait state wait with
    | some (service, moved) => some ({ state with service := service }.setWait waiter (.running moved))
    | none => none
  | .idle | .refused _ => none

def step (state : State) : Label → Option State
  | .tick nanos => some { state with instant := state.instant + nanos }
  | .handleEvent event =>
    match state.pump with
    | .idle =>
      some
        { state with
          clock := state.clock.observeTs state.instant event.tsMs
          pump := .handling event }
    | _ => none
  | .resync snapshot =>
    match state.pump with
    | .idle =>
      some
        { state with
          clock := state.clock.observeTs state.instant snapshot.tsMs
          pump := .resyncing snapshot }
    | _ => none
  | .pumpSection => pumpSection state
  | .pumpBump =>
    match state.pump with
    | .bumping => some { state with events := bumpGeneration state.events, pump := .idle }
    | _ => none
  | .recordAction actor kind windowId position =>
    match state.actors actor with
    | .idle =>
      some
        { state with
          actors := Function.update state.actors actor
            (.stamped kind windowId position state.nowMs) }
    | _ => none
  | .actorStep actor => actorStep state actor
  | .callWait waiter request =>
    match state.waits waiter with
    | .idle => some (state.setWait waiter (.calling request state.nowMs))
    | _ => none
  | .runWait waiter plan =>
    match state.waits waiter with
    | .idle => some (state.setWait waiter (.running (Wait.start plan)))
    | _ => none
  | .waitStep waiter => waitStep state waiter
  | .wakeChanged waiter =>
    match state.waits waiter with
    | .running wait =>
      match wait.phase with
      | .parked _ =>
        if wait.receiver.Unseen state.events then
          some (state.setWait waiter
            (.running { wait with receiver := state.events.markSeen, phase := .looping }))
        else none
      | _ => none
    | _ => none
  | .wakeTimer waiter =>
    match state.waits waiter with
    | .running wait =>
      match wait.phase with
      | .parked sleepUntil =>
        if sleepUntil ≤ state.instant then
          some (state.setWait waiter (.running { wait with phase := .looping }))
        else none
      | _ => none
    | _ => none
  | .cancelWait waiter =>
    match state.waits waiter with
    | .running wait =>
      match wait.phase with
      | .parked _ =>
        some ({ state with
          service := dropPending state.service wait.plan.windowId wait.key }.setWait waiter
            (.running { wait with phase := .cancelled }))
      | _ => none
    | _ => none

/-- The observer service with any number of request tasks. -/
def machine : Machine State Label := ⟨State.new, step⟩

end ADesk.Observer.Run
