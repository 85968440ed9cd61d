/- ADesk/Server/Input
   digest: The input methods as programs that issue compositor commands. -/

import ADesk.Compositor.Command
import ADesk.Core.Position
import ADesk.Foundation.Scripts

set_option autoImplicit false

namespace ADesk.Server.Input

open ADesk.Core.Ids (WindowId)
open ADesk.Core.Geometry (Point Rect)
open ADesk.Core.Event (Position)
open ADesk.Core.Position
open ADesk.Compositor.Command
open ADesk.Compositor.Keys
open ADesk.Foundation.Scripts

/-! ## Calls and replies -/

inductive ServerError
  | compositor (error : CompositorError)
  | shuttingDown
  deriving DecidableEq

/-- What an input method awaits or shares with other tasks. -/
inductive Call
  | queryState
  | send (command : RuntimeCommand)
  | sleep (millis : ℕ)
  | cursorGet
  | cursorSet (point : Point)
  deriving DecidableEq

/-- The replies; `none` is a dropped reply channel. -/
abbrev Reply : Call → Type
  | .queryState => Option StateSnapshot
  | .send _ => Option (Except CoreError Unit)
  | .sleep _ => Unit
  | .cursorGet => Option Point
  | .cursorSet _ => Unit

abbrev Handler (α : Type) := Script Call Reply ServerError α

def commandError (windowId : Option WindowId) (error : CoreError) : ServerError :=
  .compositor
    (match error.code with
      | .unknownWindow =>
        match windowId with
        | some windowId => .unknownWindow windowId
        | none => .internal error.message
      | .invalidRequest => .invalidRequest error.message
      | .renderFailed | .captureFailed => .render error.message
      | .shuttingDown => .stopped
      | _ => .internal error.message)

def unknownWindow (windowId : WindowId) : ServerError := .compositor (.unknownWindow windowId)

def state : Handler StateSnapshot :=
  .call .queryState fun reply : Option StateSnapshot =>
    match reply with
    | some snapshot => .done snapshot
    | none => .fail .shuttingDown

/-- Sends one result-bearing command and awaits its reply. -/
def sendUnit (windowId : Option WindowId) (command : RuntimeCommand) : Handler Unit :=
  .call (.send command) fun reply : Option (Except CoreError Unit) =>
    match reply with
    | some (.ok ()) => .done ()
    | some (.error error) => .fail (commandError windowId error)
    | none => .fail .shuttingDown

def sleep (millis : ℕ) : Handler Unit := .call (.sleep millis) fun _ => .done ()

def cursorGet : Handler (Option Point) := .call .cursorGet fun point => .done point

def cursorSet (point : Point) : Handler Unit := .call (.cursorSet point) fun _ => .done ()

/-! ## The steps that input methods share -/

/-- The output rect of a window, taken from the current state of the compositor. -/
def windowRect (windowId : WindowId) : Handler Rect := do
  let snapshot ← state
  match snapshot.window windowId with
  | some window => pure window.geometry
  | none => .fail (unknownWindow windowId)

/-- The request's own position, else the pointer if it lies inside the window, else the center. -/
def resolvePointerPosition (requested : Option Position) (window : Rect) (cursor : Option Point) :
    Position :=
  match requested with
  | some position => position
  | none =>
    match cursor with
    | some point =>
      if contains window point then .pixels ⟨point.x - window.x, point.y - window.y⟩
      else .normalized (1 / 2) (1 / 2)
    | none => .normalized (1 / 2) (1 / 2)

/-- Moves the pointer and records the resolved output point. -/
def movePointer (windowId : WindowId) (position : Position) (rect : Rect) : Handler Unit := do
  sendUnit (some windowId) (.pointerMove position)
  cursorSet (resolve position rect)

def moveTo (windowId : WindowId) (requested : Option Position) : Handler Unit := do
  let rect ← windowRect windowId
  let cursor ← cursorGet
  movePointer windowId (resolvePointerPosition requested rect cursor) rect

def buttonEvent (windowId : WindowId) (button : Button) (state : ButtonState) : Handler Unit :=
  sendUnit (some windowId) (.pointerButton button state)

/-- Presses and releases a button `count` times at the current pointer position. -/
def clickTimes (windowId : WindowId) (button : Button) : ℕ → Handler Unit
  | 0 => pure ()
  | count + 1 => do
    buttonEvent windowId button .pressed
    buttonEvent windowId button .released
    clickTimes windowId button count

/-- Activates the window when the request named one and it is not focused yet. -/
def activateIfNeeded : Option WindowId → Handler Unit
  | none => pure ()
  | some windowId => do
    let snapshot ← state
    match snapshot.window windowId with
    | none => .fail (unknownWindow windowId)
    | some _ =>
      if snapshot.keyboardFocus.or snapshot.activeWindowId = some windowId then pure ()
      else sendUnit (some windowId) (.activateWindow windowId)

/-- A failure that says that the keymap cannot produce the key. -/
def isUnmappableKey : ServerError → Bool
  | .compositor (.invalidRequest message) => decide ("keymap".toList <:+: message)
  | _ => false

/-- Types one character; `false` means that the keymap cannot produce it. -/
def typeCharacter (xkb : Xkb) (character : Char) : Handler Bool :=
  match parseChord xkb [[character]] with
  | .error _ => pure false
  | .ok key =>
    .call (.send (.keyEvent key .pressed)) fun reply : Option (Except CoreError Unit) =>
      match reply with
      | some (.ok ()) => .done true
      | some (.error error) =>
        if isUnmappableKey (commandError none error) then .done false
        else .fail (commandError none error)
      | none => .fail .shuttingDown

/-- Types the characters in order and collects those that are skipped. -/
def typeCharacters (xkb : Xkb) : List Char → Handler (List Char)
  | [] => pure []
  | character :: rest => do
    let typed ← typeCharacter xkb character
    let skipped ← typeCharacters xkb rest
    pure (if typed then skipped else character :: skipped)

/-! ## The methods -/

/-- Half of the double-click interval, in milliseconds. -/
def doubleClickGapMs : ℕ := 50

inductive KeySpec
  | single (key : List Char)
  | chord (keys : List (List Char))
  deriving DecidableEq

def KeySpec.keys : KeySpec → List (List Char)
  | .single key => [key]
  | .chord keys => keys

/-- A request of an input method with its parameters. -/
inductive InputRequest
  | pointerMove (windowId : WindowId) (position : Position)
  | click (windowId : WindowId) (position : Option Position) (button : Button) (count : ℕ)
  | doubleClick (windowId : WindowId) (position : Option Position) (button : Button)
  | mouseDown (windowId : WindowId) (position : Option Position) (button : Button)
  | mouseUp (windowId : WindowId) (position : Option Position) (button : Button)
  | scroll (windowId : WindowId) (position : Option Position) (dx dy : ℚ)
  | drag (windowId : WindowId) (start finish : Position) (button : Button) (durationMs : ℕ)
  | keypress (keys : KeySpec) (windowId : Option WindowId)
  | keyDown (key : List Char) (windowId : Option WindowId)
  | keyUp (key : List Char) (windowId : Option WindowId)
  | typeText (text : List Char) (windowId : Option WindowId)
  deriving DecidableEq

def pointerMove (windowId : WindowId) (position : Position) : Handler Unit := do
  let rect ← windowRect windowId
  movePointer windowId position rect

def click (windowId : WindowId) (position : Option Position) (button : Button) (count : ℕ) :
    Handler Unit := do
  moveTo windowId position
  clickTimes windowId button count

def doubleClick (windowId : WindowId) (position : Option Position) (button : Button) :
    Handler Unit := do
  moveTo windowId position
  clickTimes windowId button 1
  sleep doubleClickGapMs
  clickTimes windowId button 1

def mouseDown (windowId : WindowId) (position : Option Position) (button : Button) :
    Handler Unit := do
  moveTo windowId position
  buttonEvent windowId button .pressed

def mouseUp (windowId : WindowId) (position : Option Position) (button : Button) :
    Handler Unit := do
  moveTo windowId position
  buttonEvent windowId button .released

def scroll (windowId : WindowId) (position : Option Position) (dx dy : ℚ) : Handler Unit := do
  moveTo windowId position
  sendUnit (some windowId) (.pointerAxis dx dy)

/-- The requested duration is the hold time at the destination. -/
def hold (durationMs : ℕ) : Handler Unit :=
  if durationMs > 0 then sleep durationMs else pure ()

def drag (windowId : WindowId) (start finish : Position) (button : Button) (durationMs : ℕ) :
    Handler Unit := do
  let rect ← windowRect windowId
  movePointer windowId start rect
  buttonEvent windowId button .pressed
  movePointer windowId finish rect
  hold durationMs
  buttonEvent windowId button .released

/-- The common body of the keyboard methods with a parsed key. -/
def keyAction (windowId : Option WindowId) (key : KeyCode) (state : KeyState) : Handler Unit := do
  activateIfNeeded windowId
  sendUnit windowId (.keyEvent key state)

def typeText (xkb : Xkb) (text : List Char) (windowId : Option WindowId) :
    Handler (List Char) := do
  activateIfNeeded windowId
  typeCharacters xkb text

/-- The result of a method without its action id: the skipped characters of `type_text`. -/
abbrev ActionResult := List Char

def done (task : Handler Unit) : Handler ActionResult := do
  task
  pure []

/-- What the handler of a request runs inside its input queue; a key name that does not parse is
refused before. -/
def queued (xkb : Xkb) : InputRequest → Except ParseError (Handler ActionResult)
  | .pointerMove windowId position => .ok (done (pointerMove windowId position))
  | .click windowId position button count => .ok (done (click windowId position button count))
  | .doubleClick windowId position button => .ok (done (doubleClick windowId position button))
  | .mouseDown windowId position button => .ok (done (mouseDown windowId position button))
  | .mouseUp windowId position button => .ok (done (mouseUp windowId position button))
  | .scroll windowId position dx dy => .ok (done (scroll windowId position dx dy))
  | .drag windowId start finish button durationMs =>
    .ok (done (drag windowId start finish button durationMs))
  | .keypress keys windowId =>
    (parseChord xkb keys.keys).map fun key => done (keyAction windowId key .pressed)
  | .keyDown key windowId =>
    (parseKey xkb key).map fun key => done (keyAction windowId key .pressed)
  | .keyUp key windowId =>
    (parseKey xkb key).map fun key => done (keyAction windowId key .released)
  | .typeText text windowId => .ok (typeText xkb text windowId)

end ADesk.Server.Input
