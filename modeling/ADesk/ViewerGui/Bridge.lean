/- ADesk/ViewerGui/Bridge
   digest: The worker between a viewer's widgets and its connection: the session loop writes seat
   input, one requester task serves the calls that wait for a reply. -/

import ADesk.Compositor.Command
import ADesk.Server.Input
import ADesk.Viewer.Calls
import ADesk.Viewer.KeyInput
import ADesk.ViewerGui.Widgets

set_option autoImplicit false

namespace ADesk.ViewerGui.Bridge

open ADesk.Compositor.Command (Button ButtonState)
open ADesk.Core.Ids (WindowId)
open ADesk.Foundation.Broadcast
open ADesk.Foundation.Execution
open ADesk.Server.Input (KeySpec)
open ADesk.Viewer.Calls (Act Applied Outcome Request Ticket)
open ADesk.Viewer.KeyInput (KeyAction)
open ADesk.Viewer.Recording (RecordingStatus)
open ADesk.ViewerGui.Widgets

/-! ## Commands, jobs and messages -/

inductive RecordingEncoder
  | auto | h264 | mjpeg
  deriving DecidableEq

structure RecordRequest where
  path : Option String
  fps : ℕ
  encoder : RecordingEncoder
  deriving DecidableEq

def RecordRequest.new : RecordRequest := ⟨none, Viewer.Recording.defaultRecordFps, .auto⟩

inductive InputCommand
  | move (x y : ℚ)
  | button (button : Button) (state : ButtonState) (x y : ℚ)
  | scroll (dx dy x y : ℚ)
  | key (keys : KeySpec) (action : KeyAction)
  | text (text : String)
  | activateWindow (windowId : WindowId)
  | closeWindow (windowId : WindowId)
  | listApps
  | launchApp (appId : String)
  | startRecording (request : RecordRequest)
  | stopRecording
  deriving DecidableEq

inductive RequestJob
  | state | tick | frame | recording | apps
  | launch (appId : String)
  | startRecording (request : RecordRequest)
  | stopRecording
  deriving DecidableEq

inductive Routed
  | seat (command : InputCommand)
  | request (job : RequestJob)

def route : InputCommand → Routed
  | .listApps => .request .apps
  | .launchApp appId => .request (.launch appId)
  | .startRecording request => .request (.startRecording request)
  | .stopRecording => .request .stopRecording
  | command => .seat command

/-- The messages on the wire; a request stands for the message of its call. -/
inductive ClientMessage
  | setControl
  | pointerMove (x y : ℚ)
  | pointerButton (button : Button) (state : ButtonState) (x y : Option ℚ)
  | scroll (dx dy : ℚ) (x y : Option ℚ)
  | key (keys : KeySpec) (action : KeyAction)
  | text (text : String)
  | activateWindow (windowId : WindowId)
  | closeWindow (windowId : WindowId)
  | request (ticket : Ticket)
  deriving DecidableEq

/-- The message that `apply_seat` writes; `none` in the arm for commands routed elsewhere. -/
def InputCommand.message : InputCommand → Option ClientMessage
  | .move x y => some (.pointerMove x y)
  | .button which state x y => some (.pointerButton which state (some x) (some y))
  | .scroll dx dy x y => some (.scroll dx dy (some x) (some y))
  | .key keys action => some (.key keys action)
  | .text typed => some (.text typed)
  | .activateWindow windowId => some (.activateWindow windowId)
  | .closeWindow windowId => some (.closeWindow windowId)
  | .listApps | .launchApp _ | .startRecording _ | .stopRecording => none

/-- The calls of the requester: the first one of a job, and the refreshes that follow a tick and
a launch. -/
inductive Await
  | job (job : RequestJob)
  | tickRecording
  | launchState
  deriving DecidableEq

def Await.request : Await → Request
  | .job .state | .job .tick | .launchState => .requestState
  | .job .frame => .requestFrame
  | .job .recording | .tickRecording => .requestRecording
  | .job .apps => .listApps
  | .job (.launch _) => .launchApp
  | .job (.startRecording _) => .startRecording
  | .job .stopRecording => .stopRecording

inductive UiEvent
  | connected
  | state (state : DesktopState)
  | frame (activeWindowId : Option WindowId)
  | connectFailed
  | disconnected
  | recording (result : Except String RecordingStatus)
  | apps (result : Except String (List AppEntry))
  /-- The application is a history variable: the widgets do not see it. -/
  | launch (appId : String) (result : Except String (Option WindowId))
  | windowClosed (windowId : WindowId) (result : Except String Unit)
  | notice

/-! ## The parties -/

/-- Where the session stands: dialling, at its `select!`, in `apply_seat`, or after its loop. -/
inductive Loop
  | connecting
  | selecting
  | applying (command : InputCommand)
  | ended
  deriving DecidableEq

/-- Where the requester stands: waiting for a job, in a call of its job, or aborted. A call on a
connection that is already closed has no place among the client's calls. -/
inductive Requester
  | idle
  | calling (call : Await) (index : Option ℕ)
  | aborted
  deriving DecidableEq

/-- The models behind the window's widgets. -/
structure Widgets where
  launcher : AppLauncher
  taskBar : TaskBar
  record : RecordControl

structure State where
  widgets : Widgets
  /-- The sender of the input channel is still there. -/
  handle : Bool
  input : List InputCommand
  loop : Loop
  frames : Cursor
  lastActive : Option WindowId
  jobs : List RequestJob
  requester : Requester
  recording : Bool
  events : List UiEvent
  client : Viewer.Calls.State
  /-- History: what was sent on the input channel, the seat commands applied with their success,
  the jobs taken, the messages written and the states that the task bar was given. -/
  submitted : List InputCommand
  applied : List (InputCommand × Bool)
  served : List RequestJob
  wire : List ClientMessage
  states : List DesktopState

def State.new : State :=
  { widgets := ⟨AppLauncher.new, TaskBar.new, RecordControl.new⟩, handle := true, input := [],
    loop := .connecting, frames := ⟨0⟩, lastActive := none, jobs := [], requester := .idle,
    recording := false, events := [], client := Viewer.Calls.State.new, submitted := [],
    applied := [], served := [], wire := [], states := [] }

/-- `InputHandle::send`: nothing is sent once the handle is closed. -/
def State.send (s : State) (command : InputCommand) : State :=
  if s.handle then
    { s with input := s.input ++ [command], submitted := s.submitted ++ [command] }
  else s

def State.emit (s : State) (event : UiEvent) : State := { s with events := s.events ++ [event] }

/-! ## The requester -/

/-- What the replies of the server say. -/
structure Contents where
  state : DesktopState
  recording : RecordingStatus
  apps : List AppEntry
  launched : Option WindowId
  /-- The frame decodes, and its active window. -/
  decodes : Bool
  active : Option WindowId
  /-- The display of an error. -/
  error : String

/-- The call succeeded: its outcome is an answer other than an error. -/
def succeeded : Outcome → Bool
  | .answered answer => answer.content ≠ .error
  | .io | .closed | .dropped => false

def result {α : Type} (outcome : Outcome) (contents : Contents) (value : α) : Except String α :=
  if succeeded outcome then .ok value else .error contents.error

def State.begin (s : State) (call : Await) : State :=
  match Viewer.Calls.step s.client (.start call.request) with
  | some client => { s with client, requester := .calling call (some s.client.calls.length) }
  | none => { s with requester := .calling call none }

def State.rest (s : State) : State := { s with requester := .idle }

def emitFrame (s : State) (decodes : Bool) (active : Option WindowId) : State :=
  s.emit (if decodes then .frame active else .notice)

def refreshState (s : State) (outcome : Outcome) (contents : Contents) : State :=
  if succeeded outcome then s.emit (.state contents.state) else s

def refreshRecording (s : State) (outcome : Outcome) (contents : Contents) : State :=
  if succeeded outcome then
    { s.emit (.recording (.ok contents.recording)) with recording := contents.recording.recording }
  else { s with recording := false }

def emitRecording (s : State) (outcome : Outcome) (contents : Contents) : State :=
  { s.emit (.recording (result outcome contents contents.recording)) with
    recording := succeeded outcome && contents.recording.recording }

/-- What the requester does with the outcome of a call. -/
def State.complete (s : State) (call : Await) (outcome : Outcome) (contents : Contents) : State :=
  match call with
  | .job .state | .launchState => (refreshState s outcome contents).rest
  | .job .tick =>
    let s := refreshState s outcome contents
    if s.recording then s.begin .tickRecording else s.rest
  | .job .frame =>
    (if succeeded outcome then emitFrame s contents.decodes contents.active else s).rest
  | .job .recording | .tickRecording => (refreshRecording s outcome contents).rest
  | .job .apps => (s.emit (.apps (result outcome contents contents.apps))).rest
  | .job (.launch appId) =>
    let s := s.emit (.launch appId (result outcome contents contents.launched))
    if succeeded outcome then s.begin .launchState else s.rest
  | .job (.startRecording _) | .job .stopRecording => (emitRecording s outcome contents).rest

/-- How the call at that place ended. -/
def outcomeOf (s : State) : Option ℕ → Option Outcome
  | none => some .closed
  | some index =>
    (s.client.calls[index]?).bind fun call =>
      match call.stage with
      | .done outcome => some outcome
      | .started | .subscribed | .registered | .sent => none

/-! ## The steps -/

/-- What the human does. -/
inductive Gesture
  | openPopover
  | clickRow (appId : String)
  | clickSwitch (index : ℕ)
  | clickClose (index : ℕ)
  | clickRecord
  | seat (command : InputCommand)
  | closeRequest

/-- What the client's other end and its dispatcher do. -/
inductive Wire
  | readInput (applied : Applied)
  | readRequest (succeeds : Bool)
  | serve (succeeds : Bool)
  | push (succeeds : Bool)
  | dispatch
  | disconnect
  deriving DecidableEq

def Wire.label : Wire → Viewer.Calls.Label
  | .readInput applied => .readInput applied
  | .readRequest succeeds => .readRequest succeeds
  | .serve succeeds => .serve succeeds
  | .push succeeds => .push succeeds
  | .dispatch => .dispatch
  | .disconnect => .disconnect

inductive Label
  | gesture (gesture : Gesture)
  | nextEvent
  | connect (succeeds controls : Bool)
  | takeInput
  | applySeat (succeeds : Bool) (error : String)
  | takeFrame (decodes : Bool) (active : Option WindowId)
  | tick
  | takeJob
  | call (act : Act)
  | complete (contents : Contents)
  | close
  | wire (wire : Wire)

def Widgets.set (widgets : Widgets) (taskBar : TaskBar) : Widgets := { widgets with taskBar }

def perform (s : State) : Gesture → Option State
  | .openPopover =>
    if s.widgets.launcher.shouldFetch then
      some (State.send
        { s with widgets := { s.widgets with launcher := s.widgets.launcher.beginFetch } } .listApps)
    else some s
  | .clickRow appId =>
    match s.widgets.launcher.beginLaunch appId with
    | some launcher =>
      some (State.send { s with widgets := { s.widgets with launcher } } (.launchApp appId))
    | none => some s
  | .clickSwitch index =>
    (s.widgets.taskBar.clickSwitch index).map fun clicked =>
      State.send { s with widgets := s.widgets.set clicked.1 } (.activateWindow clicked.2)
  | .clickClose index =>
    (s.widgets.taskBar.clickClose index).map fun clicked =>
      match clicked.2 with
      | some windowId =>
        State.send { s with widgets := s.widgets.set clicked.1 } (.closeWindow windowId)
      | none => s
  | .clickRecord =>
    some (s.send (if s.widgets.record.isRecording then .stopRecording
      else .startRecording RecordRequest.new))
  | .seat command =>
    match command with
    | .move _ _ | .button _ _ _ _ | .scroll _ _ _ _ | .key _ _ | .text _ => some (s.send command)
    | .activateWindow _ | .closeWindow _ | .listApps | .launchApp _ | .startRecording _
    | .stopRecording => none
  | .closeRequest => some { s with handle := false }

/-- What the event loop of the window does with an event. -/
def apply (s : State) : UiEvent → State
  | .state state =>
    { s with
      widgets := s.widgets.set (s.widgets.taskBar.updateState state)
      states := s.states ++ [state] }
  | .frame active => { s with widgets := s.widgets.set (s.widgets.taskBar.setActive active) }
  | .recording (.ok status) =>
    { s with widgets := { s.widgets with record := RecordControl.apply status } }
  | .apps result =>
    { s with widgets := { s.widgets with launcher := s.widgets.launcher.applyList result } }
  | .launch _ result =>
    { s with widgets := { s.widgets with launcher := s.widgets.launcher.applyLaunch result } }
  | .windowClosed windowId (.error _) =>
    { s with widgets := s.widgets.set (s.widgets.taskBar.restore windowId) }
  | .connected | .connectFailed | .disconnected | .recording (.error _) | .windowClosed _ (.ok _)
  | .notice => s

/-- What a successful connection sets up: the announced control, the first jobs and the frame
stream. -/
def State.start (s : State) (controls : Bool) : State :=
  { s.emit .connected with
    loop := .selecting
    jobs := s.jobs ++ [.state, .frame, .recording]
    frames := s.client.frames.subscribe
    client := if controls then { s.client with toServer := s.client.toServer ++ [.input] }
      else s.client
    wire := if controls then s.wire ++ [.setControl] else s.wire }

/-- A streamed frame is shown; a new active window asks for a state. -/
def State.showFrame (s : State) (cursor : Cursor) (decodes : Bool) (active : Option WindowId) :
    State :=
  { emitFrame s decodes active with
    frames := cursor
    lastActive := active
    jobs := if active = s.lastActive then s.jobs else s.jobs ++ [.state] }

/-- The loop is over: the requester is aborted, and with it the call it is in. -/
def State.stop (s : State) : State :=
  { s with
    loop := .ended
    requester := .aborted
    client :=
      match s.requester with
      | .calling _ (some index) => (Viewer.Calls.step s.client (.call index .abandon)).getD s.client
      | .calling _ none | .idle | .aborted => s.client }

/-- `apply_seat` for a command, once its write has ended. -/
def State.applySeat (s : State) (command : InputCommand) (message : ClientMessage) (succeeds : Bool)
    (error : String) : State :=
  let s := { s with loop := .selecting, applied := s.applied ++ [(command, succeeds)] }
  let s :=
    if succeeds then
      { s with
        client := { s.client with toServer := s.client.toServer ++ [.input] }
        wire := s.wire ++ [message] }
    else s
  match command with
  | .closeWindow windowId => s.emit (.windowClosed windowId (if succeeds then .ok () else .error error))
  | _ => if succeeds then s else s.emit .notice

/-- The message that the act of a call writes. -/
def written (s : State) (index : ℕ) : Act → List ClientMessage
  | .write => ((s.client.calls[index]?).map fun call => .request ⟨index, call.request⟩).toList
  | _ => []

def step (s : State) : Label → Option State
  | .gesture gesture => if s.handle then perform s gesture else none
  | .nextEvent =>
    match s.events with
    | event :: rest => if s.handle then some (apply { s with events := rest } event) else none
    | [] => none
  | .connect succeeds controls =>
    match s.loop with
    | .connecting =>
      if succeeds then some (s.start controls)
      else some (s.emit .connectFailed).stop
    | .selecting | .applying _ | .ended => none
  | .takeInput =>
    match s.loop, s.input with
    | .selecting, command :: rest =>
      match route command with
      | .seat command => some { s with input := rest, loop := .applying command }
      | .request job => some { s with input := rest, jobs := s.jobs ++ [job] }
    | .selecting, [] => if s.handle then none else some s.stop
    | _, _ => none
  | .applySeat succeeds error =>
    match s.loop with
    | .applying command =>
      match command.message with
      | some message => some (s.applySeat command message succeeds error)
      | none => some { s with loop := .selecting }
    | .connecting | .selecting | .ended => none
  | .takeFrame decodes active =>
    match s.loop with
    | .selecting =>
      match s.client.frames.recv s.frames with
      | (.lagged _, cursor) => some { s with frames := cursor }
      | (.value _, cursor) => some (s.showFrame cursor decodes active)
      | (.empty, _) => if s.client.closed then some (s.emit .disconnected).stop else none
    | .connecting | .applying _ | .ended => none
  | .tick =>
    match s.loop with
    | .selecting => some { s with jobs := s.jobs ++ [.tick] }
    | .connecting | .applying _ | .ended => none
  | .takeJob =>
    match s.requester, s.jobs with
    | .idle, job :: rest =>
      some (State.begin { s with jobs := rest, served := s.served ++ [job] } (.job job))
    | _, _ => none
  | .call act =>
    match s.requester with
    | .calling _ (some index) =>
      if act = .abandon then none
      else
        (Viewer.Calls.step s.client (.call index act)).map fun client =>
          { s with client, wire := s.wire ++ written s index act }
    | .calling _ none | .idle | .aborted => none
  | .complete contents =>
    match s.requester with
    | .calling call index =>
      (outcomeOf s index).map fun outcome => s.complete call outcome contents
    | .idle | .aborted => none
  | .close =>
    match s.loop with
    | .ended => (Viewer.Calls.step s.client .disconnect).map fun client => { s with client }
    | .connecting | .selecting | .applying _ => none
  | .wire wire => (Viewer.Calls.step s.client wire.label).map fun client => { s with client }

/-- A viewer's window with its worker and its connection. -/
def machine : Machine State Label := ⟨State.new, step⟩

/-! ## What is on its way -/

/-- Seat input and the window actions. -/
def InputCommand.isSeat (command : InputCommand) : Bool := command.message.isSome

/-- The job of a command that waits for a reply. -/
def InputCommand.job (command : InputCommand) : Option RequestJob :=
  match route command with
  | .seat _ => none
  | .request job => some job

/-- The job serves a command, it is not one of the session's own refreshes. -/
def RequestJob.asked : RequestJob → Bool
  | .apps | .launch _ | .startRecording _ | .stopRecording => true
  | .state | .tick | .frame | .recording => false

/-- The command that is being written. -/
def Loop.inHand : Loop → List InputCommand
  | .applying command => [command]
  | .connecting | .selecting | .ended => []

/-- A message of a command. -/
def ClientMessage.isSeat : ClientMessage → Bool
  | .setControl | .request _ => false
  | _ => true

/-- What an applied command left on the wire. -/
def delivered (entry : InputCommand × Bool) : Option ClientMessage :=
  if entry.2 then entry.1.message else none

/-- Every command is applied or served in the order in which it was sent. -/
structure InOrder (s : State) : Prop where
  seats : s.applied.map Prod.fst ++ (s.loop.inHand ++ s.input.filter (·.isSeat)) =
    s.submitted.filter (·.isSeat)
  requests : (s.served ++ s.jobs).filter (·.asked) ++ s.input.filterMap (·.job) =
    s.submitted.filterMap (·.job)
  wire : s.wire.filter (·.isSeat) = s.applied.filterMap delivered
  routed : ∀ command ∈ s.loop.inHand, command.isSeat = true

/-- The command is either seat input or the job of a request. -/
theorem route_cases (command : InputCommand) :
    (route command = .seat command ∧ command.isSeat = true ∧ command.job = none) ∨
      ∃ job, route command = .request job ∧ command.isSeat = false ∧ command.job = some job ∧
        job.asked = true := by
  cases command with
  | move _ _ => exact .inl ⟨rfl, rfl, rfl⟩
  | button _ _ _ _ => exact .inl ⟨rfl, rfl, rfl⟩
  | scroll _ _ _ _ => exact .inl ⟨rfl, rfl, rfl⟩
  | key _ _ => exact .inl ⟨rfl, rfl, rfl⟩
  | text _ => exact .inl ⟨rfl, rfl, rfl⟩
  | activateWindow _ => exact .inl ⟨rfl, rfl, rfl⟩
  | closeWindow _ => exact .inl ⟨rfl, rfl, rfl⟩
  | listApps => exact .inr ⟨.apps, rfl, rfl, rfl, rfl⟩
  | launchApp appId => exact .inr ⟨.launch appId, rfl, rfl, rfl, rfl⟩
  | startRecording request => exact .inr ⟨.startRecording request, rfl, rfl, rfl, rfl⟩
  | stopRecording => exact .inr ⟨.stopRecording, rfl, rfl, rfl, rfl⟩

theorem message_seat {command : InputCommand} {message : ClientMessage}
    (message_of : command.message = some message) : message.isSeat = true := by
  cases command <;> cases message_of <;> rfl

/-! ### The steps, case by case -/

/-- What each step does, and where it is open. -/
inductive Moves (s : State) : Label → State → Prop
  | gesture {gesture : Gesture} {t : State} (handle : s.handle = true)
      (performed : perform s gesture = some t) : Moves s (.gesture gesture) t
  | nextEvent {event : UiEvent} {rest : List UiEvent} (pending : s.events = event :: rest) :
    Moves s .nextEvent (apply { s with events := rest } event)
  | connected {controls : Bool} (connecting : s.loop = .connecting) :
    Moves s (.connect true controls) (s.start controls)
  | refused {controls : Bool} (connecting : s.loop = .connecting) :
    Moves s (.connect false controls) (s.emit .connectFailed).stop
  | takeSeat {command : InputCommand} {rest : List InputCommand} (selecting : s.loop = .selecting)
      (queued : s.input = command :: rest) (seat : command.isSeat = true)
      (none : command.job = none) :
    Moves s .takeInput { s with input := rest, loop := .applying command }
  | takeRequest {command : InputCommand} {rest : List InputCommand} {job : RequestJob}
      (selecting : s.loop = .selecting) (queued : s.input = command :: rest)
      (other : command.isSeat = false) (some : command.job = some job) (asked : job.asked = true) :
    Moves s .takeInput { s with input := rest, jobs := s.jobs ++ [job] }
  | handleGone (selecting : s.loop = .selecting) : Moves s .takeInput s.stop
  | applySeat {command : InputCommand} {message : ClientMessage} {succeeds : Bool} {error : String}
      (applying : s.loop = .applying command) (message_of : command.message = some message) :
    Moves s (.applySeat succeeds error) (s.applySeat command message succeeds error)
  | skipSeat {command : InputCommand} {succeeds : Bool} {error : String}
      (applying : s.loop = .applying command) (none : command.message = none) :
    Moves s (.applySeat succeeds error) { s with loop := .selecting }
  | lagged {cursor : Cursor} {decodes : Bool} {active : Option WindowId}
      (selecting : s.loop = .selecting) :
    Moves s (.takeFrame decodes active) { s with frames := cursor }
  | showFrame {cursor : Cursor} {decodes : Bool} {active : Option WindowId}
      (selecting : s.loop = .selecting) :
    Moves s (.takeFrame decodes active) (s.showFrame cursor decodes active)
  | disconnected {decodes : Bool} {active : Option WindowId} (selecting : s.loop = .selecting) :
    Moves s (.takeFrame decodes active) (s.emit .disconnected).stop
  | tick (selecting : s.loop = .selecting) : Moves s .tick { s with jobs := s.jobs ++ [.tick] }
  | takeJob {job : RequestJob} {rest : List RequestJob} (idle : s.requester = .idle)
      (queued : s.jobs = job :: rest) :
    Moves s .takeJob (State.begin { s with jobs := rest, served := s.served ++ [job] } (.job job))
  | call {act : Act} {index : ℕ} {client : Viewer.Calls.State} :
    Moves s (.call act) { s with client, wire := s.wire ++ written s index act }
  | complete {contents : Contents} {call : Await} {index : Option ℕ} {outcome : Outcome}
      (calling : s.requester = .calling call index) :
    Moves s (.complete contents) (s.complete call outcome contents)
  | close {client : Viewer.Calls.State} : Moves s .close { s with client }
  | wire {wire : Wire} {client : Viewer.Calls.State} : Moves s (.wire wire) { s with client }

theorem moves_of_step {s t : State} {label : Label} (taken : step s label = some t) :
    Moves s label t := by
  cases label with
  | gesture gesture =>
    simp only [step] at taken
    split at taken
    · next handle => exact .gesture handle taken
    · cases taken
  | nextEvent =>
    simp only [step] at taken
    split at taken
    · next pending =>
      split at taken <;> cases taken
      exact .nextEvent pending
    · cases taken
  | connect succeeds controls =>
    simp only [step] at taken
    split at taken
    · next connecting =>
      cases succeeds <;> cases taken
      · exact .refused connecting
      · exact .connected connecting
    · cases taken
    · cases taken
    · cases taken
  | takeInput =>
    simp only [step] at taken
    split at taken
    · next command rest selecting queued =>
      rcases route_cases command with ⟨routed, seat, none⟩ | ⟨job, routed, other, some, asked⟩
      · rw [routed] at taken
        cases taken
        exact .takeSeat selecting queued seat none
      · rw [routed] at taken
        cases taken
        exact .takeRequest selecting queued other some asked
    · next selecting _ =>
      split at taken <;> cases taken
      exact .handleGone selecting
    · cases taken
  | applySeat succeeds error =>
    simp only [step] at taken
    split at taken
    · next command applying =>
      split at taken
      · next message message_of =>
        cases taken
        exact .applySeat applying message_of
      · next none =>
        cases taken
        exact .skipSeat applying none
    · cases taken
    · cases taken
    · cases taken
  | takeFrame decodes active =>
    simp only [step] at taken
    split at taken
    · next selecting =>
      split at taken
      · cases taken
        exact .lagged selecting
      · cases taken
        exact .showFrame selecting
      · split at taken <;> cases taken
        exact .disconnected selecting
    · cases taken
    · cases taken
    · cases taken
  | tick =>
    simp only [step] at taken
    split at taken <;> cases taken
    exact .tick (by assumption)
  | takeJob =>
    simp only [step] at taken
    split at taken
    · next idle queued =>
      cases taken
      exact .takeJob idle queued
    · cases taken
  | call act =>
    simp only [step] at taken
    split at taken
    · split at taken
      · cases taken
      · obtain ⟨client, _, rfl⟩ := Option.map_eq_some_iff.mp taken
        exact .call
    · cases taken
    · cases taken
    · cases taken
  | complete contents =>
    simp only [step] at taken
    split at taken
    · next calling =>
      obtain ⟨outcome, _, rfl⟩ := Option.map_eq_some_iff.mp taken
      exact .complete calling
    · cases taken
    · cases taken
  | close =>
    simp only [step] at taken
    split at taken
    · obtain ⟨client, _, rfl⟩ := Option.map_eq_some_iff.mp taken
      exact .close
    · cases taken
    · cases taken
    · cases taken
  | wire wire =>
    obtain ⟨client, _, rfl⟩ := Option.map_eq_some_iff.mp taken
    exact .wire

/-! ### What the steps leave alone -/

/-- The parts of the state that carry commands. -/
structure Ledger where
  input : List InputCommand
  loop : Loop
  jobs : List RequestJob
  submitted : List InputCommand
  applied : List (InputCommand × Bool)
  served : List RequestJob
  wire : List ClientMessage

def State.ledger (s : State) : Ledger :=
  ⟨s.input, s.loop, s.jobs, s.submitted, s.applied, s.served, s.wire⟩

theorem InOrder.of_ledger {s t : State} (ordered : InOrder s) (same : t.ledger = s.ledger) :
    InOrder t := by
  unfold State.ledger at same
  injection same with input loop jobs submitted applied served wire
  constructor
  · rw [input, loop, submitted, applied]
    exact ordered.seats
  · rw [input, jobs, submitted, served]
    exact ordered.requests
  · rw [applied, wire]
    exact ordered.wire
  · rw [loop]
    exact ordered.routed

@[simp] theorem ledger_emit (s : State) (event : UiEvent) : (s.emit event).ledger = s.ledger := rfl

@[simp] theorem ledger_rest (s : State) : s.rest.ledger = s.ledger := rfl

@[simp] theorem ledger_begin (s : State) (call : Await) : (s.begin call).ledger = s.ledger := by
  unfold State.begin
  split <;> rfl

@[simp] theorem ledger_refresh_state (s : State) (outcome : Outcome) (contents : Contents) :
    (refreshState s outcome contents).ledger = s.ledger := by
  unfold refreshState
  split <;> rfl

@[simp] theorem ledger_refresh_recording (s : State) (outcome : Outcome) (contents : Contents) :
    (refreshRecording s outcome contents).ledger = s.ledger := by
  unfold refreshRecording
  split <;> rfl

@[simp] theorem ledger_emit_recording (s : State) (outcome : Outcome) (contents : Contents) :
    (emitRecording s outcome contents).ledger = s.ledger := rfl

@[simp] theorem ledger_emit_frame (s : State) (decodes : Bool) (active : Option WindowId) :
    (emitFrame s decodes active).ledger = s.ledger := rfl

theorem ledger_complete (s : State) (call : Await) (outcome : Outcome) (contents : Contents) :
    (s.complete call outcome contents).ledger = s.ledger := by
  unfold State.complete
  cases call with
  | tickRecording => simp
  | launchState => simp
  | job job =>
    cases job with
    | state => simp
    | tick =>
      dsimp only
      split <;> simp
    | frame =>
      dsimp only
      split <;> simp
    | recording => simp
    | apps => simp
    | launch appId =>
      dsimp only
      split <;> simp
    | startRecording request => simp
    | stopRecording => simp

theorem ledger_apply (s : State) (event : UiEvent) : (apply s event).ledger = s.ledger := by
  cases event with
  | recording result => cases result <;> rfl
  | windowClosed windowId result => cases result <;> rfl
  | _ => rfl

/-! ### One step -/

theorem in_order_send {s : State} (ordered : InOrder s) (command : InputCommand) :
    InOrder (s.send command) := by
  unfold State.send
  split
  · constructor
    · dsimp only
      rw [List.filter_append, List.filter_append, ← ordered.seats]
      simp only [List.append_assoc]
    · dsimp only
      rw [List.filterMap_append, List.filterMap_append, ← ordered.requests, List.append_assoc]
    · exact ordered.wire
    · exact ordered.routed
  · exact ordered

theorem in_order_perform {s t : State} {gesture : Gesture} (ordered : InOrder s)
    (taken : perform s gesture = some t) : InOrder t := by
  cases gesture with
  | openPopover =>
    simp only [perform] at taken
    split at taken
    · cases taken
      exact in_order_send (ordered.of_ledger (by rfl)) _
    · cases taken
      exact ordered
  | clickRow appId =>
    simp only [perform] at taken
    split at taken
    · cases taken
      exact in_order_send (ordered.of_ledger (by rfl)) _
    · cases taken
      exact ordered
  | clickSwitch index =>
    obtain ⟨clicked, _, rfl⟩ := Option.map_eq_some_iff.mp taken
    exact in_order_send (ordered.of_ledger (by rfl)) _
  | clickClose index =>
    obtain ⟨clicked, _, rfl⟩ := Option.map_eq_some_iff.mp taken
    split
    · exact in_order_send (ordered.of_ledger (by rfl)) _
    · exact ordered
  | clickRecord =>
    cases taken
    exact in_order_send ordered _
  | seat command =>
    cases command <;> cases taken <;> exact in_order_send ordered _
  | closeRequest =>
    cases taken
    exact ordered.of_ledger (by rfl)

theorem in_order_stop {s : State} (free : s.loop.inHand = []) (ordered : InOrder s) :
    InOrder s.stop := by
  have seats := ordered.seats
  rw [free] at seats
  exact ⟨seats, ordered.requests, ordered.wire, nofun⟩

/-- A refresh of the session's own is no command. -/
theorem in_order_refresh {s t : State} (job : RequestJob) (own : job.asked = false)
    (same : t.ledger = { s.ledger with jobs := s.jobs ++ [job] }) (ordered : InOrder s) :
    InOrder t := by
  unfold State.ledger at same
  injection same with input loop jobs submitted applied served wire
  constructor
  · rw [input, loop, submitted, applied]
    exact ordered.seats
  · rw [input, jobs, submitted, served, ← List.append_assoc, List.filter_append,
      List.filter_cons_of_neg (by rw [own]; exact Bool.false_ne_true), List.filter_nil,
      List.append_nil]
    exact ordered.requests
  · rw [applied, wire]
    exact ordered.wire
  · rw [loop]
    exact ordered.routed

/-- A command in hand was written, or its write failed. -/
theorem in_order_apply_seat {s : State} {command : InputCommand} {message : ClientMessage}
    (ordered : InOrder s) (applying : s.loop = .applying command)
    (message_of : command.message = some message) (succeeds : Bool) (error : String) :
    InOrder (s.applySeat command message succeeds error) := by
  have seats := ordered.seats
  rw [applying] at seats
  have ledger : (s.applySeat command message succeeds error).ledger =
      { s.ledger with
        loop := .selecting
        applied := s.applied ++ [(command, succeeds)]
        wire := s.wire ++ if succeeds then [message] else [] } := by
    unfold State.applySeat
    cases succeeds <;> cases command <;> simp [State.ledger, State.emit]
  unfold State.ledger at ledger
  injection ledger with input loop jobs submitted applied served wire
  constructor
  · rw [applied, loop, input, submitted, ← seats, List.map_append, List.append_assoc]
    rfl
  · rw [served, jobs, input, submitted]
    exact ordered.requests
  · rw [wire, applied, List.filter_append, List.filterMap_append, ordered.wire]
    cases succeeds with
    | true =>
      have left : delivered (command, true) = some message := message_of
      rw [if_pos rfl, List.filter_cons_of_pos (message_seat message_of),
        List.filterMap_cons_some left]
      rfl
    | false => rfl
  · rw [loop]
    nofun

theorem in_order_step {s t : State} {label : Label} (ordered : InOrder s)
    (taken : step s label = some t) : InOrder t := by
  have free : ∀ {loop : Loop}, s.loop = loop → loop.inHand = [] → s.loop.inHand = [] :=
    fun here none => here ▸ none
  cases moves_of_step taken with
  | gesture _ performed => exact in_order_perform ordered performed
  | nextEvent _ => exact ordered.of_ledger (ledger_apply _ _)
  | connected connecting =>
    have seats := ordered.seats
    rw [connecting] at seats
    refine ⟨seats, Eq.trans ?_ ordered.requests, Eq.trans ?_ ordered.wire, nofun⟩
    · unfold State.start
      simp [State.emit, RequestJob.asked]
    · unfold State.start
      split <;> simp [ClientMessage.isSeat]
  | refused connecting =>
    exact in_order_stop (s := s.emit .connectFailed) (free connecting rfl)
      (ordered.of_ledger (by rfl))
  | takeSeat selecting queued seat none =>
    have seats := ordered.seats
    have requests := ordered.requests
    rw [selecting, queued] at seats
    rw [queued] at requests
    refine ⟨?_, ?_, ordered.wire, ?_⟩
    · rw [← seats, List.filter_cons_of_pos seat]
      rfl
    · rw [← requests, List.filterMap_cons_none none]
    · rintro entry (_ | ⟨_, ⟨⟩⟩)
      exact seat
  | takeRequest selecting queued other some asked =>
    have seats := ordered.seats
    have requests := ordered.requests
    rw [selecting, queued] at seats
    rw [queued] at requests
    refine ⟨?_, ?_, ordered.wire, ordered.routed⟩
    · dsimp only
      rw [← seats, List.filter_cons_of_neg (by rw [other]; exact Bool.false_ne_true), selecting]
    · rw [← requests, List.filterMap_cons_some some, ← List.append_assoc, List.filter_append,
        List.filter_cons_of_pos asked, List.append_assoc]
      rfl
  | handleGone selecting => exact in_order_stop (free selecting rfl) ordered
  | applySeat applying message_of => exact in_order_apply_seat ordered applying message_of _ _
  | skipSeat applying none =>
    have seat := ordered.routed _ (by rw [applying]; exact List.mem_singleton.mpr rfl)
    rw [InputCommand.isSeat, none] at seat
    cases seat
  | lagged _ => exact ordered.of_ledger (by rfl)
  | @showFrame _ _ active _ =>
    by_cases same : active = s.lastActive
    · exact ordered.of_ledger
        (by simp [State.ledger, State.showFrame, emitFrame, State.emit, same])
    · exact in_order_refresh .state rfl
        (by simp [State.ledger, State.showFrame, emitFrame, State.emit, same]) ordered
  | disconnected selecting =>
    exact in_order_stop (s := s.emit .disconnected) (free selecting rfl)
      (ordered.of_ledger (by rfl))
  | tick _ => exact in_order_refresh .tick rfl (by rfl) ordered
  | @takeJob job rest idle queued =>
    have requests := ordered.requests
    rw [queued] at requests
    refine InOrder.of_ledger ?_ (ledger_begin _ _)
    refine ⟨ordered.seats, ?_, ordered.wire, ordered.routed⟩
    dsimp only
    rw [List.append_assoc, List.singleton_append]
    exact requests
  | @call act index client =>
    refine ⟨ordered.seats, ordered.requests, ?_, ordered.routed⟩
    have none : (written s index act).filter (·.isSeat) = [] := by
      cases act <;> try rfl
      unfold written
      cases s.client.calls[index]? <;> rfl
    dsimp only
    rw [List.filter_append, ordered.wire, none, List.append_nil]
  | complete _ => exact ordered.of_ledger (ledger_complete _ _ _ _)
  | close => exact ordered.of_ledger (by rfl)
  | wire => exact ordered.of_ledger (by rfl)

theorem in_order_new : InOrder State.new := ⟨rfl, rfl, rfl, nofun⟩

theorem in_order_of_reachable {s : State} (reached : Reachable machine anyStep s) : InOrder s := by
  induction reached with
  | start => exact in_order_new
  | next _ _ taken ordered => exact in_order_step ordered taken

/-! ## Input waits for no reply -/

/-- A step of the loop's input path whose write goes through. -/
def Label.inputPath : Label → Bool
  | .takeInput | .applySeat true _ => true
  | _ => false

/-- The loop works off what is queued, by its own steps alone. -/
structure Drained (s t : State) (queued : List InputCommand) : Prop where
  input : t.input = []
  loop : t.loop = .selecting
  requester : t.requester = s.requester
  calls : t.client.calls = s.client.calls
  applied : t.applied = s.applied ++ (queued.filter (·.isSeat)).map fun command => (command, true)
  jobs : t.jobs = s.jobs ++ queued.filterMap (·.job)

theorem step_take_seat {s : State} {command : InputCommand} {rest : List InputCommand}
    (selecting : s.loop = .selecting) (queued : s.input = command :: rest)
    (routed : route command = .seat command) :
    step s .takeInput = some { s with input := rest, loop := .applying command } := by
  simp only [step]
  rw [selecting, queued]
  dsimp only
  rw [routed]

theorem step_take_request {s : State} {command : InputCommand} {rest : List InputCommand}
    {job : RequestJob} (selecting : s.loop = .selecting) (queued : s.input = command :: rest)
    (routed : route command = .request job) :
    step s .takeInput = some { s with input := rest, jobs := s.jobs ++ [job] } := by
  simp only [step]
  rw [selecting, queued]
  dsimp only
  rw [routed]

/-- A command in hand is written and the loop is back at its `select!`. -/
theorem step_apply_seat {s : State} {command : InputCommand} (applying : s.loop = .applying command)
    (seat : command.isSeat = true) :
    ∃ t, step s (.applySeat true "") = some t ∧ t.loop = .selecting ∧ t.input = s.input ∧
      t.requester = s.requester ∧ t.client.calls = s.client.calls ∧
      t.applied = s.applied ++ [(command, true)] ∧ t.jobs = s.jobs := by
  obtain ⟨message, message_of⟩ := Option.isSome_iff_exists.mp seat
  refine ⟨s.applySeat command message true "", ?_, ?_⟩
  · simp only [step]
    rw [applying]
    dsimp only
    rw [message_of]
  · unfold State.applySeat
    cases command <;> exact ⟨rfl, rfl, rfl, rfl, rfl, rfl⟩

theorem loop_drains (queued : List InputCommand) {s : State} (selecting : s.loop = .selecting)
    (input : s.input = queued) :
    ∃ labels t, (∀ label ∈ labels, label.inputPath = true) ∧
      replay machine anyStep s labels = some t ∧ Drained s t queued := by
  induction queued generalizing s with
  | nil =>
    exact ⟨[], s, nofun, rfl, input, selecting, rfl, rfl, (List.append_nil _).symm,
      (List.append_nil _).symm⟩
  | cons command rest ih =>
    rcases route_cases command with ⟨routed, seat, none⟩ | ⟨job, routed, other, some, _⟩
    · have taken := step_take_seat selecting input routed
      obtain ⟨mid, written, back, left, requester, calls, applied, jobs⟩ :=
        step_apply_seat (s := { s with input := rest, loop := .applying command }) rfl seat
      obtain ⟨labels, t, own, run, drained⟩ := ih back left
      refine ⟨.takeInput :: .applySeat true "" :: labels, t, ?_, ?_, ?_⟩
      · rintro label (_ | ⟨_, _ | ⟨_, member⟩⟩)
        · rfl
        · rfl
        · exact own label member
      · rw [replay_step _ taken, replay_step _ written]
        exact run
      · refine ⟨drained.input, drained.loop, drained.requester.trans requester,
          drained.calls.trans calls, ?_, ?_⟩
        · rw [drained.applied, applied, List.filter_cons_of_pos seat, List.append_assoc]
          rfl
        · rw [drained.jobs, jobs, List.filterMap_cons_none none]
    · have taken := step_take_request selecting input routed
      obtain ⟨labels, t, own, run, drained⟩ :=
        ih (s := { s with input := rest, jobs := s.jobs ++ [job] }) selecting rfl
      refine ⟨.takeInput :: labels, t, ?_, ?_, ?_⟩
      · rintro label (_ | ⟨_, member⟩)
        · rfl
        · exact own label member
      · rw [replay_step _ taken]
        exact run
      · refine ⟨drained.input, drained.loop, drained.requester, drained.calls, ?_, ?_⟩
        · rw [drained.applied, List.filter_cons_of_neg (by rw [other]; exact Bool.false_ne_true)]
        · rw [drained.jobs, List.filterMap_cons_some some, List.append_assoc]
          rfl

/-- A pointer move, a launch and a text are queued while the first state request waits. -/
def waiting : State :=
  finalState machine anyStep
    [.connect true true, .takeJob, .call .subscribe, .call .register, .call .write,
      .gesture (.seat (.move (1 / 2) (1 / 4))), .gesture (.clickRow "org.gnome.TextEditor"),
      .gesture (.seat (.text "a")), .takeInput]
    (by decide +kernel)

end ADesk.ViewerGui.Bridge
