/- ADesk/Compositor/Inject
   digest: Injected input: how keys and pointer events of commands reach the seat. -/

import ADesk.Compositor.Command
import ADesk.Compositor.State
import ADesk.Core.Position
import ADesk.Foundation.Execution

set_option autoImplicit false

namespace ADesk.Compositor.Inject

open ADesk.Core.Event (Position)
open ADesk.Core.Geometry (Point clampI32)
open ADesk.Core.Ids (WindowId)
open ADesk.Core.Position
open ADesk.Compositor.Bridge
open ADesk.Compositor.Command
open ADesk.Compositor.Events
open ADesk.Compositor.Keys
open ADesk.Compositor.State (CompositorState ClientRequest handleClient applyDecision)
open ADesk.Foundation.Execution
open ADesk.Wm.Policy (PolicyConfig window)

/-! ## The pointer of the seat -/

/-- The pointer handle of the seat, which is not part of this repository: the surface that gets
its events, the surface that a click grab keeps it on, the surface named by the last motion, and
the buttons that are held. A surface that is destroyed is forgotten. -/
structure PointerHandle (P : Type) where
  focus : P → Option Surface
  grab : P → Option (Option Surface)
  pending : P → Option Surface
  held : P → Button → Bool
  motion : P → Option Surface → Point → P
  button : P → Button → ButtonState → P
  axis : P → ℚ → ℚ → P
  forget : P → Surface → P

/-- No button is held. -/
def PointerHandle.Idle {P : Type} (pointers : PointerHandle P) (p : P) : Prop :=
  ∀ button, pointers.held p button = false

/-- What is documented of the handle: a press pins the focus until every button is released, a
motion names the surface that gets the focus when nothing is pinned, and the end of the pinning
gives the focus to the surface that was named last. -/
structure PointerHandle.Documented {P : Type} (pointers : PointerHandle P) : Prop where
  motionFocus : ∀ p target point,
    pointers.focus (pointers.motion p target point) = (pointers.grab p).getD target
  motionGrab : ∀ p target point, pointers.grab (pointers.motion p target point) = pointers.grab p
  motionPending : ∀ p target point, pointers.pending (pointers.motion p target point) = target
  motionHeld : ∀ p target point, pointers.held (pointers.motion p target point) = pointers.held p
  pressFocus : ∀ p button, pointers.focus (pointers.button p button .pressed) = pointers.focus p
  pressGrab : ∀ p button, pointers.grab (pointers.button p button .pressed) =
    some ((pointers.grab p).getD (pointers.focus p))
  pressHeld : ∀ p button, pointers.held (pointers.button p button .pressed) =
    Function.update (pointers.held p) button true
  buttonPending : ∀ p button state,
    pointers.pending (pointers.button p button state) = pointers.pending p
  releaseHeld : ∀ p button, pointers.held (pointers.button p button .released) =
    Function.update (pointers.held p) button false
  releaseKept : ∀ p button,
    pointers.grab p = none ∨ ¬ pointers.Idle (pointers.button p button .released) →
      pointers.grab (pointers.button p button .released) = pointers.grab p ∧
        pointers.focus (pointers.button p button .released) = pointers.focus p
  releaseLast : ∀ p button,
    pointers.grab p ≠ none → pointers.Idle (pointers.button p button .released) →
      pointers.grab (pointers.button p button .released) = none ∧
        pointers.focus (pointers.button p button .released) = pointers.pending p
  axisFocus : ∀ p dx dy, pointers.focus (pointers.axis p dx dy) = pointers.focus p
  axisGrab : ∀ p dx dy, pointers.grab (pointers.axis p dx dy) = pointers.grab p
  axisPending : ∀ p dx dy, pointers.pending (pointers.axis p dx dy) = pointers.pending p
  axisHeld : ∀ p dx dy, pointers.held (pointers.axis p dx dy) = pointers.held p

/-- A pointer on which the model can be run. -/
structure ClickPointer where
  focus : Option Surface
  grab : Option (Option Surface)
  pending : Option Surface
  held : Button → Bool

namespace ClickPointer

def new : ClickPointer := ⟨none, none, none, fun _ => false⟩

def idle (held : Button → Bool) : Bool :=
  !held .left && !held .right && !held .middle && !held .side && !held .extra

def press (p : ClickPointer) (button : Button) : ClickPointer :=
  { p with
    grab := some (p.grab.getD p.focus)
    held := Function.update p.held button true }

/-- The last held button is released. -/
def frees (p : ClickPointer) (button : Button) : Bool :=
  p.grab.isSome && idle (Function.update p.held button false)

def release (p : ClickPointer) (button : Button) : ClickPointer where
  focus := if p.frees button then p.pending else p.focus
  grab := if p.frees button then none else p.grab
  pending := p.pending
  held := Function.update p.held button false

end ClickPointer

def clickPointers : PointerHandle ClickPointer where
  focus := ClickPointer.focus
  grab := ClickPointer.grab
  pending := ClickPointer.pending
  held := ClickPointer.held
  motion p target _ := { p with focus := p.grab.getD target, pending := target }
  button p button
    | .pressed => p.press button
    | .released => p.release button
  axis p _ _ := p
  forget p surface :=
    { p with
      focus := p.focus.filter fun focus => focus ≠ surface
      grab := p.grab.filter fun grab => grab ≠ some surface }

theorem idle_iff (held : Button → Bool) :
    ClickPointer.idle held = true ↔ ∀ button, held button = false := by
  constructor
  · intro unheld button
    simp only [ClickPointer.idle, Bool.and_eq_true, Bool.not_eq_true'] at unheld
    obtain ⟨⟨⟨⟨left, right⟩, middle⟩, side⟩, extra⟩ := unheld
    cases button <;> assumption
  · intro unheld
    simp [ClickPointer.idle, unheld]

theorem frees_iff (p : ClickPointer) (button : Button) :
    p.frees button = true ↔
      p.grab ≠ none ∧ clickPointers.Idle (clickPointers.button p button .released) := by
  rw [ClickPointer.frees, Bool.and_eq_true, idle_iff, Option.isSome_iff_ne_none]
  rfl

theorem click_pointers_documented : clickPointers.Documented where
  motionFocus _ _ _ := rfl
  motionGrab _ _ _ := rfl
  motionPending _ _ _ := rfl
  motionHeld _ _ _ := rfl
  pressFocus _ _ := rfl
  pressGrab _ _ := rfl
  pressHeld _ _ := rfl
  buttonPending _ _ state := by cases state <;> rfl
  releaseHeld _ _ := rfl
  releaseKept p button kept := by
    have open' : p.frees button = false := by
      refine Bool.eq_false_iff.mpr fun frees => ?_
      obtain ⟨grabbed, idle⟩ := (frees_iff p button).mp frees
      exact kept.elim grabbed (absurd idle)
    change (if p.frees button then none else p.grab) = p.grab ∧
      (if p.frees button then p.pending else p.focus) = p.focus
    rw [open']
    exact ⟨rfl, rfl⟩
  releaseLast p button grabbed idle := by
    have freed : p.frees button = true := (frees_iff p button).mpr ⟨grabbed, idle⟩
    change (if p.frees button then none else p.grab) = none ∧
      (if p.frees button then p.pending else p.focus) = p.pending
    rw [freed]
    exact ⟨rfl, rfl⟩
  axisFocus _ _ _ := rfl
  axisGrab _ _ _ := rfl
  axisPending _ _ _ := rfl
  axisHeld _ _ _ := rfl

/-! ## The seat -/

/-- An event as the seat delivers it; a pointer event without a receiver is dropped. -/
inductive Delivery
  | key (keycode : ℕ) (state : KeyState)
  | motion (receiver : Option Surface) (point : Point)
  | button (receiver : Option Surface) (button : Button) (state : ButtonState)
  | axis (receiver : Option Surface) (dx dy : ℚ)
  deriving DecidableEq

/-- The compositor with its pointer, and the input events delivered so far. -/
structure Seat (P : Type) where
  compositor : CompositorState
  pointer : P
  delivered : List Delivery

variable {P : Type}

namespace Seat

def wm (seat : Seat P) : WmBridge := seat.compositor.wm

/-- The focused window, or the active one before focus has moved. -/
def target (seat : Seat P) : Option WindowId :=
  seat.wm.keyboardFocus.or (Wm.Policy.activeWindow seat.wm.manager)

def deliver (seat : Seat P) (events : List Delivery) : Seat P :=
  { seat with delivered := seat.delivered ++ events }

/-- `surface_of`: the root surface of a window whose toplevel is still registered. -/
def surfaceOf (seat : Seat P) (id : WindowId) : Option Surface :=
  (seat.wm.roots id).filter fun surface => (seat.wm.surfaces.toplevels surface).isSome

/-- The output point of a position, through the geometry of the window. -/
def resolvePosition (seat : Seat P) (id : WindowId) (position : Position) :
    Except CompositorError Point :=
  match window seat.wm.manager id with
  | some record =>
    let geometry := record.geometry
    let point := resolve position ⟨0, 0, geometry.w, geometry.h⟩
    .ok ⟨clampI32 (geometry.x + point.x), clampI32 (geometry.y + point.y)⟩
  | none =>
    .error (.windowManagement ("unknown window ".toList ++ Nat.toDigits 10 id.val))

def noFocus : CompositorError := .invalidRequest "no window has keyboard focus".toList

end Seat

/-! ## Keys -/

/-- The modifiers of a shift level, in the order in which they are pressed. -/
def levelModifierNames : ℕ → List (List Char)
  | 0 => []
  | 1 => [shiftKeysym]
  | 2 => [level3Keysym]
  | _ => [shiftKeysym, level3Keysym]

def modifierKeycode (input : InputInjector) (name : List Char) : Except CompositorError ℕ :=
  match if name = shiftKeysym then input.shift else input.level3 with
  | some keycode => .ok keycode
  | none =>
    .error (.invalidRequest ("level modifier ".toList ++ name ++
      " cannot be produced by the compositor keymap".toList))

/-- The modifiers of the level bracket the key. -/
def bracket (modifiers : List ℕ) (keycode : ℕ) : KeyState → List (ℕ × KeyState)
  | .pressed => modifiers.map (·, .pressed) ++ [(keycode, .pressed)]
  | .released => (keycode, .released) :: modifiers.reverse.map (·, .released)

/-- The keys that one keysym stands for. -/
def planKey (input : InputInjector) (keysym : Keysym) (state : KeyState) :
    Except CompositorError (List (ℕ × KeyState)) :=
  match input.keymap keysym.value with
  | some resolved =>
    match (levelModifierNames resolved.level).mapM (modifierKeycode input) with
    | .ok modifiers => .ok (bracket modifiers resolved.keycode state)
    | .error error => .error error
  | none =>
    .error (.invalidRequest ("key ".toList ++ debugString keysym.name ++
      " cannot be produced by the compositor keymap".toList))

/-- The whole sequence is resolved before a key reaches the seat. -/
def plan (input : InputInjector) (key : KeyCode) (state : KeyState) :
    Except CompositorError (List (ℕ × KeyState)) :=
  match chordSequence key state with
  | .ok sequence =>
    (sequence.mapM fun entry => planKey input entry.1 entry.2).map List.flatten
  | .error error => .error (.invalidRequest error.message)

def Seat.injectKey (input : InputInjector) (seat : Seat P) (key : KeyCode) (state : KeyState) :
    Except CompositorError (Seat P) :=
  match plan input key state with
  | .error error => .error error
  | .ok keys =>
    match seat.target with
    | none => .error Seat.noFocus
    | some id =>
      match seat.surfaceOf id with
      | none => .error (.unknownWindow id)
      | some _ => .ok (seat.deliver (keys.map fun key => .key key.1 key.2))

/-! ## The pointer -/

def Seat.injectPointerMove (pointers : PointerHandle P) (seat : Seat P) (position : Position) :
    Except CompositorError (Seat P) :=
  match seat.target with
  | none => .error Seat.noFocus
  | some id =>
    match seat.surfaceOf id with
    | none => .error (.unknownWindow id)
    | some surface =>
      match seat.resolvePosition id position with
      | .error error => .error error
      | .ok point =>
        let moved := pointers.motion seat.pointer (some surface) point
        .ok ({ seat with pointer := moved }.deliver [.motion (pointers.focus moved) point])

/-- A button goes to the surface that has the pointer. -/
def Seat.injectPointerButton (pointers : PointerHandle P) (seat : Seat P) (button : Button)
    (state : ButtonState) : Except CompositorError (Seat P) :=
  match seat.target with
  | none => .error Seat.noFocus
  | some _ =>
    .ok ({ seat with pointer := pointers.button seat.pointer button state }.deliver
      [.button (pointers.focus seat.pointer) button state])

def Seat.injectPointerAxis (pointers : PointerHandle P) (seat : Seat P) (dx dy : ℚ) :
    Except CompositorError (Seat P) :=
  match seat.target with
  | none => .error Seat.noFocus
  | some _ =>
    .ok ({ seat with pointer := pointers.axis seat.pointer dx dy }.deliver
      [.axis (pointers.focus seat.pointer) dx dy])

/-! ## Serving commands -/

/-- Events owed by the compositor take their numbers. -/
def Seat.updated (seat : Seat P) (bridge : WmBridge) (emissions : List Emission) : Seat P :=
  { seat with
    compositor := ⟨⟨seat.compositor.events.lastSeq + emissions.length⟩, bridge⟩ }

def Seat.activateWindow (seat : Seat P) (id : WindowId) : Except CompositorError (Seat P) :=
  match seat.wm.activate id with
  | some (activated, decision) => .ok (seat.updated activated (applyDecision decision))
  | none => .error (.unknownWindow id)

def Seat.perform (input : InputInjector) (pointers : PointerHandle P) (seat : Seat P) :
    RuntimeCommand → Except CompositorError (Seat P)
  | .activateWindow id => seat.activateWindow id
  | .pointerMove position => seat.injectPointerMove pointers position
  | .pointerButton button state => seat.injectPointerButton pointers button state
  | .pointerAxis dx dy => seat.injectPointerAxis pointers dx dy
  | .keyEvent key state => seat.injectKey input key state

/-- What is done when a command arrives; one that fails changes nothing. -/
def Seat.serve (input : InputInjector) (pointers : PointerHandle P) (seat : Seat P)
    (command : RuntimeCommand) : Seat P × Except CoreError Unit :=
  match seat.perform input pointers command with
  | .ok served => (served, .ok ())
  | .error error => (seat, .error error.toCore)

def Seat.snapshot (seat : Seat P) : StateSnapshot where
  windows := seat.wm.manager.records.map fun record => ⟨record.id, record.geometry⟩
  activeWindowId := Wm.Policy.activeWindow seat.wm.manager
  keyboardFocus := seat.wm.keyboardFocus

/-- The surface whose role object a client destroys. -/
def destroyedSurface : ClientRequest → Option Surface
  | .toplevelDestroyed surface | .popupDestroyed surface => some surface
  | .newToplevel .. | .commit .. | .titleChanged .. | .newPopup .. => none

/-- What clients and the server ask of the compositor. -/
inductive Request
  | client (request : ClientRequest)
  | command (command : RuntimeCommand)

def Seat.handle (input : InputInjector) (pointers : PointerHandle P) (seat : Seat P) :
    Request → Seat P
  | .client request =>
    let handled := handleClient seat.compositor request
    let pointer := (destroyedSurface request).elim seat.pointer (pointers.forget seat.pointer)
    { seat with pointer := pointer }.updated handled.1 handled.2
  | .command command => (seat.serve input pointers command).1

def seatMachine (input : InputInjector) (pointers : PointerHandle P) (config : PolicyConfig)
    (start : P) : Machine (Seat P) Request :=
  ⟨⟨CompositorState.new config, start, []⟩, fun seat request =>
    some (seat.handle input pointers request)⟩

end ADesk.Compositor.Inject
