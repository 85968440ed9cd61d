/- ADesk/Server/CursorTracking
   digest: The input requests of all connections and viewers, the cursor that they share and the
   compositor that moves the pointer. -/

import ADesk.Foundation.Execution
import ADesk.Foundation.FifoGate
import ADesk.Server.Serving

set_option autoImplicit false

namespace ADesk.Server.CursorTracking

open ADesk.Core.Event (Position)
open ADesk.Core.Geometry (Point Rect)
open ADesk.Core.Ids (WindowId)
open ADesk.Core.Position
open ADesk.Compositor.Command
open ADesk.Compositor.Inject
open ADesk.Compositor.Keys
open ADesk.Compositor.State (ClientRequest)
open ADesk.Foundation.Execution (Machine)
open ADesk.Foundation.FifoGate
open ADesk.Foundation.Scripts
open ADesk.Server.Input
open ADesk.Wm.Policy (PolicyConfig)

/-! ## Viewer inputs -/

inductive KeyAction
  | tap | pressed | released
  deriving DecidableEq

/-- The inputs of a viewer that reach the seat. Positions are fractions of the output; a button
or a scroll carries both of them or acts where the pointer is. -/
inductive ViewerInput
  | pointerMove (x y : ℚ)
  | pointerButton (button : Button) (state : ButtonState) (x y : Option ℚ)
  | scroll (dx dy : ℚ) (x y : Option ℚ)
  | key (keys : KeySpec) (action : KeyAction)
  | text (text : List Char)
  deriving DecidableEq

/-- The window that viewer inputs act on, with its geometry: the one that the seat acts on. -/
def inputTarget (snapshot : StateSnapshot) : Option (WindowId × Rect) :=
  (snapshot.keyboardFocus.or snapshot.activeWindowId).bind fun target =>
    (snapshot.window target).map fun window => (target, window.geometry)

/-- A fraction of the output as a position in the window. -/
def outputFractionPosition (x y : ℚ) (output window : Rect) : Position :=
  let point := resolve (.normalized x y) output
  .pixels ⟨point.x - window.x, point.y - window.y⟩

def viewerPosition (x y : Option ℚ) (output window : Rect) : Option Position :=
  x.bind fun x => y.map fun y => outputFractionPosition x y output window

def moveBefore (target : WindowId) (position : Option Position) (rect : Rect) : Handler Unit :=
  match position with
  | some position => movePointer target position rect
  | none => moveTo target none

def notASingleKey : ServerError :=
  .compositor (.invalidRequest "a released key must be a single key".toList)

def parseFailure (error : ParseError) : ServerError := .compositor (.invalidRequest error.message)

/-- The key of a viewer input and what happens to it; only a single key can be released. -/
def viewerKey (xkb : Xkb) (keys : KeySpec) (action : KeyAction) :
    Except ServerError (KeyCode × KeyState) :=
  match action with
  | .tap | .pressed => (parseChord xkb keys.keys).mapError parseFailure |>.map (·, .pressed)
  | .released =>
    match keys.keys with
    | [only] => (parseKey xkb only).mapError parseFailure |>.map (·, .released)
    | _ => .error notASingleKey

/-- What `apply_input` runs inside the input queue of the viewers. -/
def applyInput (xkb : Xkb) (output : Rect) (target : WindowId) (rect : Rect) :
    ViewerInput → Except ServerError (Handler ActionResult)
  | .pointerMove x y =>
    .ok (done (movePointer target (outputFractionPosition x y output rect) rect))
  | .pointerButton button state x y =>
    .ok (done do
      moveBefore target (viewerPosition x y output rect) rect
      buttonEvent target button state)
  | .scroll dx dy x y =>
    .ok (done do
      moveBefore target (viewerPosition x y output rect) rect
      sendUnit (some target) (.pointerAxis dx dy))
  | .key keys action =>
    (viewerKey xkb keys action).map fun key => done (keyAction (some target) key.1 key.2)
  | .text text => .ok (typeText xkb text (some target))

/-! ## The machine -/

/-- Each connection has an input queue of its own; the viewers share one. -/
inductive Source
  | connection (id : ℕ)
  | viewers
  deriving DecidableEq

/-- Where a request stands: not polled yet, in its queue, waiting for the compositor, dropped
while its command waits there (`none` is a state query), or answered. -/
inductive Stage
  | spawned (program : Handler ActionResult)
  | queued (program : Handler ActionResult)
  | asking (next : Option StateSnapshot → Handler ActionResult)
  | sending (command : RuntimeCommand)
      (next : Option (Except CoreError Unit) → Handler ActionResult)
  | abandoned (command : Option RuntimeCommand)
  | answered

structure Task where
  source : Source
  stage : Stage

variable {P : Type}

/-- The requests in the order they were read, the queues they wait in, and the compositor's command
channel, which names the request that sent each command. `mover` is a history variable: the
request whose command moved the pointer last. -/
structure State (P : Type) where
  seat : Seat P
  cursor : Option Point
  tasks : List Task
  gates : Source → Gate ℕ
  channel : List ℕ
  mover : Option ℕ

def State.new (config : PolicyConfig) (start : P) : State P :=
  ⟨⟨Compositor.State.CompositorState.new config, start, []⟩, none, [], fun _ => Gate.empty, [], none⟩

def State.put (s : State P) (index : ℕ) (source : Source) (stage : Stage) : State P :=
  { s with tasks := s.tasks.set index ⟨source, stage⟩ }

def State.leave (s : State P) (index : ℕ) (source : Source) : State P :=
  { s with gates := Function.update s.gates source ((s.gates source).leave index) }

/-- The command moves the pointer. -/
def places (input : InputInjector) (pointers : PointerHandle P) (seat : Seat P)
    (command : RuntimeCommand) : Bool :=
  match command with
  | .pointerMove position => (seat.perform input pointers (.pointerMove position)).isOk
  | _ => false

def State.serve (input : InputInjector) (pointers : PointerHandle P) (s : State P) (index : ℕ)
    (command : RuntimeCommand) : State P :=
  { s with
    seat := (s.seat.serve input pointers command).1
    mover := if places input pointers s.seat command then some index else s.mover }

/-- What clients do, a command outside the input queues, a request that is read, a viewer input
whose state query was answered, the first poll of a request, its next move, the compositor's next
command, the end of the compositor, the end of a request and its cancellation. -/
inductive Label
  | client (request : ClientRequest)
  | activate (id : WindowId)
  | read (connection : ℕ) (request : InputRequest)
  | readViewer (input : ViewerInput)
  | poll (index : ℕ)
  | move (index : ℕ)
  | serve
  | refuse
  | finish (index : ℕ)
  | cancel (index : ℕ)
  deriving DecidableEq

/-- The holder of a queue makes its next call. -/
def advance (s : State P) (index : ℕ) (source : Source) : Handler ActionResult → Option (State P)
  | .call .queryState next =>
    some { s.put index source (.asking next) with channel := s.channel ++ [index] }
  | .call (.send command) next =>
    some { s.put index source (.sending command next) with channel := s.channel ++ [index] }
  | .call (.sleep _) next => some (s.put index source (.queued (next ())))
  | .call .cursorGet next => some (s.put index source (.queued (next s.cursor)))
  | .call (.cursorSet point) next =>
    some { s.put index source (.queued (next ())) with cursor := some point }
  | .done _ | .fail _ => none

/-- The compositor takes the oldest command. -/
def serve (input : InputInjector) (pointers : PointerHandle P) (s : State P) (index : ℕ)
    (task : Task) : State P :=
  match task.stage with
  | .asking next => s.put index task.source (.queued (next (some s.seat.snapshot)))
  | .sending command next =>
    (s.serve input pointers index command).put index task.source
      (.queued (next (some (s.seat.serve input pointers command).2)))
  | .abandoned (some command) => s.serve input pointers index command
  | .abandoned none | .spawned _ | .queued _ | .answered => s

/-- The reply channel of the oldest command is dropped. -/
def refuse (s : State P) (index : ℕ) (task : Task) : State P :=
  match task.stage with
  | .asking next => s.put index task.source (.queued (next none))
  | .sending _ next => s.put index task.source (.queued (next none))
  | .abandoned _ | .spawned _ | .queued _ | .answered => s

def step (xkb : Xkb) (input : InputInjector) (pointers : PointerHandle P) (s : State P) :
    Label → Option (State P)
  | .client request => some { s with seat := s.seat.handle input pointers (.client request) }
  | .activate id => some { s with seat := (s.seat.serve input pointers (.activateWindow id)).1 }
  | .read connection request =>
    match queued xkb request with
    | .ok program => some { s with tasks := s.tasks ++ [⟨.connection connection, .spawned program⟩] }
    | .error _ => some s
  | .readViewer viewed =>
    match inputTarget s.seat.snapshot with
    | some (target, rect) =>
      match applyInput xkb s.seat.wm.config.tiledRect target rect viewed with
      | .ok program => some { s with tasks := s.tasks ++ [⟨.viewers, .spawned program⟩] }
      | .error _ => some s
    | none => some s
  | .poll index =>
    (s.tasks[index]?).bind fun task =>
      match task.stage with
      | .spawned program =>
        some { s.put index task.source (.queued program) with
          gates := Function.update s.gates task.source ((s.gates task.source).enter index) }
      | _ => none
  | .move index =>
    (s.tasks[index]?).bind fun task =>
      match task.stage with
      | .queued program =>
        if (s.gates task.source).holder = some index then advance s index task.source program
        else none
      | _ => none
  | .serve =>
    match s.channel with
    | index :: rest =>
      (s.tasks[index]?).map fun task => serve input pointers { s with channel := rest } index task
    | [] => none
  | .refuse =>
    match s.channel with
    | index :: rest => (s.tasks[index]?).map fun task => refuse { s with channel := rest } index task
    | [] => none
  | .finish index =>
    (s.tasks[index]?).bind fun task =>
      match task.stage with
      | .queued (.done _) | .queued (.fail _) =>
        some ((s.put index task.source .answered).leave index task.source)
      | _ => none
  | .cancel index =>
    (s.tasks[index]?).bind fun task =>
      match task.stage with
      | .spawned _ => some (s.put index task.source .answered)
      | .queued _ => some ((s.put index task.source .answered).leave index task.source)
      | .asking _ => some ((s.put index task.source (.abandoned none)).leave index task.source)
      | .sending command _ =>
        some ((s.put index task.source (.abandoned (some command))).leave index task.source)
      | .abandoned _ | .answered => none

/-- One runtime with all its connections and viewers. -/
def machine (xkb : Xkb) (input : InputInjector) (pointers : PointerHandle P) (config : PolicyConfig)
    (start : P) : Machine (State P) Label :=
  ⟨State.new config start, step xkb input pointers⟩

end ADesk.Server.CursorTracking
