/- ADesk/Server/CursorAgreement
   digest: When the tracked cursor is where the compositor's pointer was moved to last. -/

import ADesk.Compositor.Tiling
import ADesk.Foundation.Entries
import ADesk.Server.CursorTracking

set_option autoImplicit false

namespace ADesk.Server.CursorAgreement

open ADesk.Core.Event (Position)
open ADesk.Core.Geometry (Point Rect clampI32)
open ADesk.Core.Ids (WindowId)
open ADesk.Core.Position
open ADesk.Compositor.Command
open ADesk.Compositor.Inject
open ADesk.Compositor.Keys
open ADesk.Compositor.Tiling
open ADesk.Foundation.Entries
open ADesk.Foundation.Execution
open ADesk.Foundation.FifoGate
open ADesk.Foundation.Scripts
open ADesk.Server.CursorTracking
open ADesk.Server.Input
open ADesk.Wm.Policy (PolicyConfig WindowRecord window)

/-! ## Programs that record where they move the pointer -/

/-- A program that moved the pointer records the point next, and records nothing else. -/
def recorded : Option Point → Call → Prop
  | some point, .cursorSet recorded => recorded = point
  | some _, _ => False
  | none, .cursorSet _ => False
  | none, _ => True

/-- All windows cover the same rectangle. -/
def uniform (rect : Rect) : (request : Call) → Reply request → Prop
  | .queryState, reply =>
    ∀ snapshot : StateSnapshot, reply = some snapshot → ∀ window ∈ snapshot.windows,
      window.geometry = rect
  | .send _, _ | .sleep _, _ | .cursorGet, _ | .cursorSet _, _ => True

/-- A command that was carried out. -/
def carriedOut : Option (Except CoreError Unit) → Bool
  | some (.ok ()) => true
  | _ => false

/-- The point that is to be recorded after a call. -/
def owed (rect : Rect) (expected : Option Point) : (request : Call) → Reply request → Option Point
  | .send (.pointerMove position), reply =>
    if carriedOut reply then some (resolve position rect) else none
  | .cursorSet _, _ => none
  | .send _, _ | .queryState, _ | .sleep _, _ | .cursorGet, _ => expected

variable {α β : Type}

/-- The program records the point of every move that was carried out, before anything else. -/
def Records (rect : Rect) (post : α → Prop) (expected : Option Point) (program : Handler α) : Prop :=
  Script.Obeys recorded (uniform rect) (owed rect) (fun result left => left = none ∧ post result)
    (fun left => left = none) expected program

section Records

variable {rect : Rect}

theorem records_bind {middle : α → Prop} {post : β → Prop} {expected : Option Point}
    {first : Handler α} {rest : α → Handler β} (one : Records rect middle expected first)
    (others : ∀ result, middle result → Records rect post none (rest result)) :
    Records rect post expected (first >>= rest) := by
  refine Script.obeys_bind one fun result left kept => ?_
  obtain ⟨rfl, holds⟩ := kept
  exact others result holds

theorem records_done {post : α → Prop} {result : α} (holds : post result) :
    Records rect post none (Script.done result : Handler α) := ⟨rfl, holds⟩

theorem records_fail {post : α → Prop} (error : ServerError) :
    Records rect post none (Script.fail error : Handler α) := rfl

/-- The programs of this section all end with nothing left to record. -/
def Plain (rect : Rect) (program : Handler α) : Prop := Records rect (fun _ => True) none program

theorem records_state :
    Records rect (fun snapshot => ∀ window ∈ snapshot.windows, window.geometry = rect) none
      state := by
  refine ⟨trivial, fun reply same => ?_⟩
  cases reply with
  | none => exact records_fail _
  | some snapshot => exact records_done (same snapshot rfl)

theorem plain_send {windowId : Option WindowId} {command : RuntimeCommand}
    (still : ∀ position, command ≠ .pointerMove position) :
    Plain rect (sendUnit windowId command) := by
  have kept : ∀ reply, owed rect none (.send command) reply = none := by
    intro reply
    cases command with
    | pointerMove position => exact absurd rfl (still position)
    | _ => rfl
  refine ⟨trivial, fun reply _ => ?_⟩
  rw [kept]
  match reply with
  | some (.ok ()) => exact records_done trivial
  | some (.error error) => exact records_fail _
  | none => exact records_fail _

theorem records_window_rect (windowId : WindowId) :
    Records rect (fun found => found = rect) none (windowRect windowId) := by
  refine records_bind records_state fun snapshot same => ?_
  cases found : snapshot.window windowId with
  | some info => exact records_done (same info (List.mem_of_find?_eq_some found))
  | none => exact records_fail _

theorem records_cursor_get : Plain rect cursorGet := ⟨trivial, fun _ _ => records_done trivial⟩

/-- The one place where the pointer moves. -/
theorem records_move_pointer (windowId : WindowId) (position : Position) :
    Plain rect (movePointer windowId position rect) := by
  refine ⟨trivial, fun reply _ => ?_⟩
  match reply with
  | some (.ok ()) => exact ⟨rfl, fun _ _ => records_done trivial⟩
  | some (.error error) => exact records_fail _
  | none => exact records_fail _

theorem records_move_to (windowId : WindowId) (requested : Option Position) :
    Plain rect (moveTo windowId requested) := by
  refine records_bind (records_window_rect windowId) fun found same => ?_
  subst same
  exact records_bind records_cursor_get fun cursor _ => records_move_pointer windowId _

theorem plain_button (windowId : WindowId) (button : Button) (state : ButtonState) :
    Plain rect (buttonEvent windowId button state) :=
  plain_send nofun

theorem plain_click_times (windowId : WindowId) (button : Button) (count : ℕ) :
    Plain rect (clickTimes windowId button count) := by
  induction count with
  | zero => exact records_done trivial
  | succ count ih =>
    exact records_bind (plain_button windowId button .pressed) fun _ _ =>
      records_bind (plain_button windowId button .released) fun _ _ => ih

theorem plain_sleep (millis : ℕ) : Plain rect (sleep millis) :=
  ⟨trivial, fun _ _ => records_done trivial⟩

theorem plain_hold (durationMs : ℕ) : Plain rect (hold durationMs) := by
  unfold hold
  split
  · exact plain_sleep durationMs
  · exact records_done trivial

theorem plain_activate (windowId : Option WindowId) : Plain rect (activateIfNeeded windowId) := by
  cases windowId with
  | none => exact records_done trivial
  | some windowId =>
    refine records_bind records_state fun snapshot _ => ?_
    cases snapshot.window windowId with
    | none => exact records_fail _
    | some window =>
      dsimp only
      split
      · exact records_done trivial
      · exact plain_send nofun

theorem plain_key_action (windowId : Option WindowId) (key : KeyCode) (state : KeyState) :
    Plain rect (keyAction windowId key state) :=
  records_bind (plain_activate windowId) fun _ _ => plain_send nofun

theorem plain_type_character (xkb : Xkb) (character : Char) :
    Plain rect (typeCharacter xkb character) := by
  unfold typeCharacter
  split
  · exact records_done trivial
  · refine ⟨trivial, fun reply _ => ?_⟩
    match reply with
    | some (.ok ()) => exact records_done trivial
    | some (.error error) =>
      dsimp only
      split
      · exact records_done trivial
      · exact records_fail _
    | none => exact records_fail _

theorem plain_type_characters (xkb : Xkb) (characters : List Char) :
    Plain rect (typeCharacters xkb characters) := by
  induction characters with
  | nil => exact records_done trivial
  | cons character rest ih =>
    exact records_bind (plain_type_character xkb character) fun _ _ =>
      records_bind ih fun _ _ => records_done trivial

theorem plain_type_text (xkb : Xkb) (text : List Char) (windowId : Option WindowId) :
    Plain rect (typeText xkb text windowId) :=
  records_bind (plain_activate windowId) fun _ _ => plain_type_characters xkb text

theorem plain_task {task : Handler Unit} (plain : Plain rect task) : Plain rect (done task) :=
  records_bind plain fun _ _ => records_done trivial

/-! ### The methods -/

theorem of_map_ok {ε : Type} {result : Except ε α} {f : α → β} {value : β}
    (mapped : result.map f = .ok value) : ∃ inner, f inner = value := by
  cases result with
  | error error => cases mapped
  | ok inner =>
    cases mapped
    exact ⟨inner, rfl⟩

theorem plain_drag (windowId : WindowId) (start finish : Position) (button : Button)
    (durationMs : ℕ) : Plain rect (drag windowId start finish button durationMs) := by
  refine records_bind (records_window_rect windowId) fun found same => ?_
  subst same
  exact records_bind (records_move_pointer windowId start) fun _ _ =>
    records_bind (plain_button windowId button .pressed) fun _ _ =>
    records_bind (records_move_pointer windowId finish) fun _ _ =>
    records_bind (plain_hold durationMs) fun _ _ => plain_button windowId button .released

theorem plain_queued {xkb : Xkb} {request : InputRequest} {program : Handler ActionResult}
    (queues : queued xkb request = .ok program) : Plain rect program := by
  cases request with
  | pointerMove windowId position =>
    cases queues
    refine plain_task (records_bind (records_window_rect windowId) fun found same => ?_)
    subst same
    exact records_move_pointer windowId position
  | click windowId position button count =>
    cases queues
    exact plain_task (records_bind (records_move_to windowId position) fun _ _ =>
      plain_click_times windowId button count)
  | doubleClick windowId position button =>
    cases queues
    exact plain_task (records_bind (records_move_to windowId position) fun _ _ =>
      records_bind (plain_click_times windowId button 1) fun _ _ =>
      records_bind (plain_sleep doubleClickGapMs) fun _ _ => plain_click_times windowId button 1)
  | mouseDown windowId position button =>
    cases queues
    exact plain_task (records_bind (records_move_to windowId position) fun _ _ =>
      plain_button windowId button .pressed)
  | mouseUp windowId position button =>
    cases queues
    exact plain_task (records_bind (records_move_to windowId position) fun _ _ =>
      plain_button windowId button .released)
  | scroll windowId position dx dy =>
    cases queues
    exact plain_task (records_bind (records_move_to windowId position) fun _ _ => plain_send nofun)
  | drag windowId start finish button durationMs =>
    cases queues
    exact plain_task (plain_drag windowId start finish button durationMs)
  | keypress keys windowId =>
    obtain ⟨key, rfl⟩ := of_map_ok queues
    exact plain_task (plain_key_action windowId key .pressed)
  | keyDown key windowId =>
    obtain ⟨key, rfl⟩ := of_map_ok queues
    exact plain_task (plain_key_action windowId key .pressed)
  | keyUp key windowId =>
    obtain ⟨key, rfl⟩ := of_map_ok queues
    exact plain_task (plain_key_action windowId key .released)
  | typeText text windowId =>
    cases queues
    exact plain_type_text xkb text windowId

theorem plain_move_before (target : WindowId) (position : Option Position) :
    Plain rect (moveBefore target position rect) := by
  cases position with
  | none => exact records_move_to target none
  | some position => exact records_move_pointer target position

theorem plain_apply_input {xkb : Xkb} {output : Rect} {target : WindowId} {viewed : ViewerInput}
    {program : Handler ActionResult} (applies : applyInput xkb output target rect viewed = .ok program) :
    Plain rect program := by
  cases viewed with
  | pointerMove x y =>
    cases applies
    exact plain_task (records_move_pointer target _)
  | pointerButton button state x y =>
    cases applies
    exact plain_task (records_bind (plain_move_before target _) fun _ _ =>
      plain_button target button state)
  | scroll dx dy x y =>
    cases applies
    exact plain_task (records_bind (plain_move_before target _) fun _ _ => plain_send nofun)
  | key keys action =>
    obtain ⟨key, rfl⟩ := of_map_ok applies
    exact plain_task (plain_key_action (some target) key.1 key.2)
  | text text =>
    cases applies
    exact plain_type_text xkb text (some target)

end Records

/-! ## The compositor -/

/-- The point that the pointer was moved to last. -/
def movedTo (delivered : List Delivery) : Option Point :=
  delivered.reverse.findSome? fun delivery =>
    match delivery with
    | .motion _ point => some point
    | .key .. | .button .. | .axis .. => none

theorem moved_to_append (delivered events : List Delivery) :
    movedTo (delivered ++ events) = (movedTo events).or (movedTo delivered) := by
  simp only [movedTo, List.reverse_append, List.findSome?_append]

theorem moved_to_keys (keys : List (ℕ × KeyState)) :
    movedTo (keys.map fun key => .key key.1 key.2) = none := by
  unfold movedTo
  rw [List.findSome?_eq_none_iff]
  intro delivery delivered
  obtain ⟨key, _, rfl⟩ := List.mem_map.mp (List.mem_reverse.mp delivered)
  rfl

variable {P : Type} {input : InputInjector} {pointers : PointerHandle P} {config : PolicyConfig}

theorem clamp_idem (value : ℤ) : clampI32 (clampI32 value) = clampI32 value := by
  simp only [clampI32, Core.Geometry.i32Max, Core.Geometry.i32Min]
  grind

theorem resolve_clamped (position : Position) (width height : ℕ) :
    clampI32 (0 + (resolve position ⟨0, 0, width, height⟩).x) =
        (resolve position ⟨0, 0, width, height⟩).x ∧
      clampI32 (0 + (resolve position ⟨0, 0, width, height⟩).y) =
        (resolve position ⟨0, 0, width, height⟩).y := by
  have origin : clampI32 0 = 0 := by decide
  unfold resolve
  split
  · simp [origin]
  · cases position <;> simp [clamp_idem]

/-- The compositor resolves a position like the server: all windows lie at the origin. -/
theorem resolve_position_tiled {seat : Seat P} (tiled : Tiled config seat.wm) {id : WindowId}
    {position : Position} {point : Point} (resolved : seat.resolvePosition id position = .ok point) :
    point = resolve position config.tiledRect := by
  unfold Seat.resolvePosition at resolved
  split at resolved
  · next record found =>
    cases resolved
    have geometry : record.geometry = config.tiledRect := by
      rw [← tiled.config]
      exact tiled.consistent.tiled record (List.mem_of_find?_eq_some found)
    obtain ⟨x, y⟩ := resolve_clamped position config.outputWidth config.outputHeight
    simp only [geometry, PolicyConfig.tiledRect, x, y]
  · cases resolved

/-- What serving a command does to the tiling, to the place of the pointer and to what the request
has to record. -/
structure Served (config : PolicyConfig) (input : InputInjector) (pointers : PointerHandle P)
    (seat : Seat P) (command : RuntimeCommand) : Prop where
  tiled : Tiled config (seat.serve input pointers command).1.wm
  placed : places input pointers seat command = true →
    movedTo (seat.serve input pointers command).1.delivered =
        owed config.tiledRect none (.send command) (some (seat.serve input pointers command).2) ∧
      (movedTo (seat.serve input pointers command).1.delivered).isSome = true
  kept : places input pointers seat command = false →
    movedTo (seat.serve input pointers command).1.delivered = movedTo seat.delivered ∧
      owed config.tiledRect none (.send command) (some (seat.serve input pointers command).2) = none

theorem served_move {seat : Seat P} (tiled : Tiled config seat.wm) (position : Position) :
    Served config input pointers seat (.pointerMove position) := by
  cases performed : seat.perform input pointers (.pointerMove position) with
  | error error =>
    have refused := Serving.serve_refused performed
    have still : places input pointers seat (.pointerMove position) = false := by
      rw [places, performed]
      rfl
    refine ⟨by rw [refused]; exact tiled, fun moved => ?_, fun _ => by rw [refused]; exact ⟨rfl, rfl⟩⟩
    rw [still] at moved
    cases moved
  | ok served =>
    have serves := Serving.serve_performed performed
    have moves : places input pointers seat (.pointerMove position) = true := by
      rw [places, performed]
      rfl
    have motion : served.wm = seat.wm ∧ ∃ receiver, served.delivered =
        seat.delivered ++ [.motion receiver (resolve position config.tiledRect)] := by
      simp only [Seat.perform, Seat.injectPointerMove] at performed
      split at performed
      · cases performed
      · split at performed
        · cases performed
        · split at performed
          · cases performed
          · next point resolved =>
            cases performed
            rw [resolve_position_tiled tiled resolved]
            exact ⟨rfl, _, rfl⟩
    obtain ⟨same, receiver, delivered⟩ := motion
    have placed : movedTo served.delivered = some (resolve position config.tiledRect) := by
      rw [delivered, moved_to_append]
      rfl
    refine ⟨by rw [serves, same]; exact tiled, fun _ => ?_, fun still => ?_⟩
    · rw [serves, placed]
      exact ⟨rfl, rfl⟩
    · rw [moves] at still
      cases still

/-- A command other than a move leaves the pointer where it is. -/
theorem served_other {seat : Seat P} {command : RuntimeCommand} (tiled : Tiled config seat.wm)
    (still : ∀ position, command ≠ .pointerMove position) :
    Served config input pointers seat command := by
  have unplaced : places input pointers seat command = false := by
    cases command with
    | pointerMove position => exact absurd rfl (still position)
    | _ => rfl
  have nothing : ∀ reply, owed config.tiledRect none (.send command) reply = none := by
    intro reply
    cases command with
    | pointerMove position => exact absurd rfl (still position)
    | _ => rfl
  have kept : ∀ served, seat.perform input pointers command = .ok served →
      Tiled config served.wm ∧ movedTo served.delivered = movedTo seat.delivered := by
    intro served performed
    cases command with
    | pointerMove position => exact absurd rfl (still position)
    | activateWindow id =>
      simp only [Seat.perform, Seat.activateWindow] at performed
      split at performed
      · next activated decision found =>
        cases performed
        obtain ⟨_, _, same⟩ := Option.map_eq_some_iff.mp found
        cases same
        exact ⟨tiled.call (.activate id) rfl rfl, rfl⟩
      · cases performed
    | pointerButton button state =>
      simp only [Seat.perform, Seat.injectPointerButton] at performed
      split at performed <;> cases performed
      exact ⟨tiled, by rw [Seat.deliver, moved_to_append]; rfl⟩
    | pointerAxis dx dy =>
      simp only [Seat.perform, Seat.injectPointerAxis] at performed
      split at performed <;> cases performed
      exact ⟨tiled, by rw [Seat.deliver, moved_to_append]; rfl⟩
    | keyEvent key state =>
      simp only [Seat.perform, Seat.injectKey] at performed
      split at performed
      · cases performed
      · split at performed
        · cases performed
        · split at performed <;> cases performed
          refine ⟨tiled, ?_⟩
          rw [Seat.deliver, moved_to_append, moved_to_keys]
          rfl
  refine ⟨?_, fun moved => ?_, fun _ => ⟨?_, nothing _⟩⟩
  · cases performed : seat.perform input pointers command with
    | ok served => rw [Serving.serve_performed performed]; exact (kept served performed).1
    | error error => rw [Serving.serve_refused performed]; exact tiled
  · rw [unplaced] at moved
    cases moved
  · cases performed : seat.perform input pointers command with
    | ok served => rw [Serving.serve_performed performed]; exact (kept served performed).2
    | error error => rw [Serving.serve_refused performed]

theorem serves {seat : Seat P} (tiled : Tiled config seat.wm) (command : RuntimeCommand) :
    Served config input pointers seat command := by
  cases command with
  | pointerMove position => exact served_move tiled position
  | _ => exact served_other tiled nofun

/-! ## Requests that have moved the pointer -/

/-- The point that a program records next. -/
def expects : Handler ActionResult → Option Point
  | .call (.cursorSet point) _ => some point
  | _ => none

/-- The request moved the pointer, and its record of the point is still to come. -/
def pendingPoint (task : Task) : Option Point :=
  match task.stage with
  | .queued program => expects program
  | _ => none

def pendingAt (s : State P) (index : ℕ) : Option Point := (s.tasks[index]?).bind pendingPoint

/-- A request whose move was carried out has not recorded it yet. -/
def MoveInFlight (s : State P) : Prop := ∃ task ∈ s.tasks, (pendingPoint task).isSome = true

instance (s : State P) : Decidable (MoveInFlight s) :=
  inferInstanceAs (Decidable (∃ task ∈ s.tasks, _))

/-- The request that moved the pointer last records its point when no other one has yet to do so. -/
def RecordsInTurn (s : State P) (index : ℕ) : Prop :=
  s.mover = some index → (pendingAt s index).isSome = true →
    ∀ other < s.tasks.length, other ≠ index → pendingAt s other = none

/-- The request that moved the pointer last is not dropped before it recorded its point. -/
def DroppedInTurn (s : State P) (index : ℕ) : Prop := s.mover = some index → pendingAt s index = none

/-- The command of a dropped request, which moves the pointer for nobody. -/
def straysOn (input : InputInjector) (pointers : PointerHandle P) (seat : Seat P)
    (task : CursorTracking.Task) : Bool :=
  match task.stage with
  | .abandoned (some command) => places input pointers seat command
  | _ => false

/-- The next command does not move the pointer for a dropped request. -/
def ServedInTurn (input : InputInjector) (pointers : PointerHandle P) (s : State P) : Prop :=
  ∀ index ∈ s.channel.head?, ∀ task ∈ s.tasks[index]?, straysOn input pointers s.seat task = false

/-- The points are recorded in the order in which the pointer was moved. -/
def InTurn (input : InputInjector) (pointers : PointerHandle P) (s : State P) : Label → Prop
  | .move index => RecordsInTurn s index
  | .cancel index => DroppedInTurn s index
  | .serve => ServedInTurn input pointers s
  | _ => True

instance (s : State P) (index : ℕ) : Decidable (RecordsInTurn s index) :=
  inferInstanceAs (Decidable (_ → _ → ∀ other < _, _ → _))

instance (s : State P) (index : ℕ) : Decidable (DroppedInTurn s index) :=
  inferInstanceAs (Decidable (_ → _))

instance (input : InputInjector) (pointers : PointerHandle P) (s : State P) :
    Decidable (ServedInTurn input pointers s) :=
  inferInstanceAs (Decidable (∀ index ∈ _, ∀ task ∈ _, _ = _))

instance (input : InputInjector) (pointers : PointerHandle P) (s : State P) (label : Label) :
    Decidable (InTurn input pointers s label) :=
  match label with
  | .move index => inferInstanceAs (Decidable (RecordsInTurn s index))
  | .cancel index => inferInstanceAs (Decidable (DroppedInTurn s index))
  | .serve => inferInstanceAs (Decidable (ServedInTurn input pointers s))
  | .client _ | .activate _ | .read _ _ | .readViewer _ | .poll _ | .refuse | .finish _ =>
    inferInstanceAs (Decidable True)

/-- What is known of a request: its program records every move. -/
def Tracks (rect : Rect) (task : CursorTracking.Task) : Prop :=
  match task.stage with
  | .spawned program => Plain rect program
  | .queued program => Records rect (fun _ => True) (expects program) program
  | .asking next => ∀ reply, uniform rect .queryState reply → Plain rect (next reply)
  | .sending command next => ∀ reply,
      Records rect (fun _ => True) (owed rect none (.send command) reply) (next reply)
  | .abandoned _ | .answered => True

theorem expects_of_records {rect : Rect} {post : ActionResult → Prop} {expected : Option Point}
    {program : Handler ActionResult} (records : Records rect post expected program) :
    expects program = expected := by
  cases program with
  | done result => exact records.1.symm
  | fail error => exact Eq.symm records
  | call request next =>
    cases expected with
    | none =>
      cases request with
      | cursorSet point => exact records.1.elim
      | queryState | send | sleep | cursorGet => rfl
    | some point =>
      cases request with
      | cursorSet recorded => exact congrArg some records.1
      | queryState | send | sleep | cursorGet => exact records.1.elim

theorem tracks_queued {rect : Rect} {expected : Option Point} {program : Handler ActionResult}
    (source : Source) (records : Records rect (fun _ => True) expected program) :
    Tracks rect ⟨source, .queued program⟩ := by
  have same := expects_of_records records
  subst same
  exact records

/-- The request that moved the pointer last is about to record where, or nothing is to be recorded
and the cursor is there. -/
def Latest (s : State P) : Prop :=
  (∃ index, s.mover = some index ∧ (pendingAt s index).isSome = true ∧
      pendingAt s index = movedTo s.seat.delivered) ∨
    ((∀ index, pendingAt s index = none) ∧ s.cursor = movedTo s.seat.delivered)

structure Known (config : PolicyConfig) (s : State P) : Prop where
  tiled : Tiled config s.seat.wm
  tracks : ∀ (index : ℕ) (task : CursorTracking.Task), s.tasks[index]? = some task →
    Tracks config.tiledRect task
  latest : Latest s

/-! ## Steps -/

section Steps

variable {xkb : Xkb} {s t : State P} {index : ℕ} {task : CursorTracking.Task} {source : Source}
  {stage : Stage}

theorem pending_at (present : s.tasks[index]? = some task) :
    pendingAt s index = pendingPoint task := by
  rw [pendingAt, present]
  rfl

theorem pending_put (present : s.tasks[index]? = some task) (other : ℕ) :
    pendingAt (s.put index source stage) other =
      if other = index then pendingPoint ⟨source, stage⟩ else pendingAt s other := by
  obtain ⟨bound, _⟩ := List.getElem?_eq_some_iff.mp present
  unfold pendingAt State.put
  split
  · next same =>
    subst same
    rw [List.getElem?_set_self bound]
    rfl
  · next different => rw [List.getElem?_set_ne (Ne.symm different)]

/-- A request that has nothing to record before and after a step leaves all others as they are. -/
theorem pending_quiet (present : s.tasks[index]? = some task) (before : pendingPoint task = none)
    (after : pendingPoint ⟨source, stage⟩ = none) :
    pendingAt (s.put index source stage) = pendingAt s := by
  funext other
  rw [pending_put present other]
  split
  · next same => rw [same, pending_at present, before, after]
  · rfl

theorem pending_append (fresh : CursorTracking.Task) (nothing : pendingPoint fresh = none) :
    pendingAt { s with tasks := s.tasks ++ [fresh] } = pendingAt s := by
  funext other
  unfold pendingAt
  cases found : (s.tasks ++ [fresh])[other]? with
  | none =>
    have beyond : s.tasks[other]? = none := by
      rw [List.getElem?_eq_none_iff, List.length_append] at found
      exact List.getElem?_eq_none (by omega)
    rw [beyond]
  | some task =>
    rcases (append_entry s.tasks fresh other task).mp found with kept | ⟨rfl, rfl⟩
    · rw [kept]
    · rw [List.getElem?_eq_none (Nat.le_refl _)]
      exact nothing

/-- A step that neither moves the pointer nor records a point. -/
structure Aside (s t : State P) : Prop where
  moved : movedTo t.seat.delivered = movedTo s.seat.delivered
  cursor : t.cursor = s.cursor
  mover : t.mover = s.mover
  pending : pendingAt t = pendingAt s

theorem latest_aside (latest : Latest s) (aside : Aside s t) : Latest t := by
  unfold Latest
  rw [aside.moved, aside.cursor, aside.mover, aside.pending]
  exact latest

/-- The requests after one of them goes on. -/
theorem tracks_put {rect : Rect} (present : s.tasks[index]? = some task)
    (tracks : ∀ (other : ℕ) (entry : CursorTracking.Task), s.tasks[other]? = some entry →
      Tracks rect entry)
    (goesOn : Tracks rect ⟨source, stage⟩) (other : ℕ) (entry : CursorTracking.Task)
    (found : (s.put index source stage).tasks[other]? = some entry) : Tracks rect entry := by
  rcases (set_entry present other entry).mp found with ⟨_, rfl⟩ | ⟨_, kept⟩
  · exact goesOn
  · exact tracks other entry kept

/-- A request goes on without moving the pointer or recording a point. -/
theorem Known.goes_on (known : Known config s) (present : s.tasks[index]? = some task)
    (before : pendingPoint task = none) (after : pendingPoint ⟨source, stage⟩ = none)
    (goesOn : Tracks config.tiledRect ⟨source, stage⟩) : Known config (s.put index source stage) where
  tiled := known.tiled
  tracks := tracks_put present known.tracks goesOn
  latest := latest_aside known.latest ⟨rfl, rfl, rfl, pending_quiet present before after⟩

/-- What is known does not depend on the queues and the channel. -/
theorem Known.elsewhere (known : Known config s) (gates : Source → Gate ℕ) (channel : List ℕ) :
    Known config { s with gates := gates, channel := channel } :=
  ⟨known.tiled, known.tracks, known.latest⟩

theorem known_read (known : Known config s) {program : Handler ActionResult}
    (plain : Plain config.tiledRect program) :
    Known config { s with tasks := s.tasks ++ [⟨source, .spawned program⟩] } where
  tiled := known.tiled
  tracks := fun other entry found => by
    rcases (append_entry s.tasks _ other entry).mp found with kept | ⟨_, rfl⟩
    · exact known.tracks other entry kept
    · exact plain
  latest := latest_aside known.latest ⟨rfl, rfl, rfl, pending_append _ rfl⟩

/-- The windows that a snapshot lists cover the output. -/
theorem snapshot_tiled {seat : Seat P} (tiled : Tiled config seat.wm) :
    ∀ window ∈ seat.snapshot.windows, window.geometry = config.tiledRect := by
  intro window listed
  obtain ⟨record, present, rfl⟩ := List.mem_map.mp listed
  rw [← tiled.config]
  exact tiled.consistent.tiled record present

theorem input_target_tiled {seat : Seat P} (tiled : Tiled config seat.wm) {target : WindowId}
    {rect : Rect} (found : inputTarget seat.snapshot = some (target, rect)) :
    rect = config.tiledRect := by
  obtain ⟨wanted, _, window⟩ := Option.bind_eq_some_iff.mp found
  obtain ⟨info, listed, same⟩ := Option.map_eq_some_iff.mp window
  cases same
  exact snapshot_tiled tiled info (List.mem_of_find?_eq_some listed)

/-- A request that records its point, in turn. -/
theorem latest_recorded (latest : Latest s) (inTurn : RecordsInTurn s index) {point : Point}
    (present : s.tasks[index]? = some task) (points : pendingPoint task = some point)
    (after : pendingPoint ⟨source, stage⟩ = none) :
    Latest { s.put index source stage with cursor := some point } := by
  have pending : pendingAt s index = some point := (pending_at present).trans points
  have put := fun other =>
    (pending_put present other : pendingAt (s.put index source stage) other = _)
  rcases latest with ⟨mover, moved, owes, there⟩ | ⟨nothing, _⟩
  · by_cases same : mover = index
    · subst same
      refine Or.inr ⟨fun other => ?_, pending.symm.trans there⟩
      refine (put other).trans ?_
      split
      · exact after
      · next different =>
        by_cases bound : other < s.tasks.length
        · exact inTurn moved owes other bound different
        · rw [pendingAt, List.getElem?_eq_none (Nat.le_of_not_lt bound)]
          rfl
    · have kept : pendingAt (s.put index source stage) mover = pendingAt s mover :=
        (put mover).trans (if_neg same)
      exact Or.inl ⟨mover, moved, (congrArg Option.isSome kept).trans owes, kept.trans there⟩
  · rw [nothing index] at pending
    cases pending

/-- A request that is dropped before it recorded its point, in turn. -/
theorem latest_dropped (latest : Latest s) (inTurn : DroppedInTurn s index)
    (present : s.tasks[index]? = some task) (after : pendingPoint ⟨source, stage⟩ = none) :
    Latest (s.put index source stage) := by
  have put := fun other =>
    (pending_put present other : pendingAt (s.put index source stage) other = _)
  rcases latest with ⟨mover, moved, owes, there⟩ | ⟨nothing, there⟩
  · have different : mover ≠ index := by
      rintro rfl
      rw [inTurn moved] at owes
      cases owes
    have kept : pendingAt (s.put index source stage) mover = pendingAt s mover :=
      (put mover).trans (if_neg different)
    exact Or.inl ⟨mover, moved, (congrArg Option.isSome kept).trans owes, kept.trans there⟩
  · refine Or.inr ⟨fun other => (put other).trans ?_, there⟩
    split
    · exact after
    · exact nothing other

/-- The holder of a queue makes its next call. -/
theorem known_advance (known : Known config s) (inTurn : RecordsInTurn s index)
    {program : Handler ActionResult} (present : s.tasks[index]? = some ⟨source, .queued program⟩)
    (goes : advance s index source program = some t) : Known config t := by
  have records : Records config.tiledRect (fun _ => True) (expects program) program :=
    known.tracks index _ present
  cases program with
  | done result => cases goes
  | fail error => cases goes
  | call request next =>
    cases request with
    | queryState =>
      cases goes
      have asks : Tracks config.tiledRect ⟨source, .asking next⟩ := records.2
      exact (known.goes_on present rfl rfl asks).elsewhere _ _
    | send command =>
      cases goes
      have sends : Tracks config.tiledRect ⟨source, .sending command next⟩ :=
        fun reply => records.2 reply trivial
      exact (known.goes_on present rfl rfl sends).elsewhere _ _
    | sleep millis =>
      cases goes
      have rest := records.2 () trivial
      exact known.goes_on present rfl (expects_of_records rest) (tracks_queued source rest)
    | cursorGet =>
      cases goes
      have rest := records.2 s.cursor trivial
      exact known.goes_on present rfl (expects_of_records rest) (tracks_queued source rest)
    | cursorSet point =>
      cases goes
      have rest := records.2 () trivial
      exact ⟨known.tiled, tracks_put present known.tracks (tracks_queued source rest),
        latest_recorded known.latest inTurn present rfl (expects_of_records rest)⟩

/-! ### The compositor's side -/

/-- Serving a command of a request, which is to record the point when the pointer moved. -/
theorem known_served (known : Known config s) {command : RuntimeCommand}
    {next : Option (Except CoreError Unit) → Handler ActionResult}
    (present : s.tasks[index]? = some ⟨source, .sending command next⟩) :
    Known config ((s.serve input pointers index command).put index source
      (.queued (next (some (s.seat.serve input pointers command).2)))) := by
  have served : Served config input pointers s.seat command := serves known.tiled command
  have rest : Records config.tiledRect (fun _ => True)
      (owed config.tiledRect none (.send command) (some (s.seat.serve input pointers command).2))
      (next (some (s.seat.serve input pointers command).2)) := known.tracks index _ present _
  have owes := expects_of_records rest
  refine ⟨served.tiled, tracks_put present known.tracks (tracks_queued source rest), ?_⟩
  cases moves : places input pointers s.seat command with
  | true =>
    obtain ⟨there, moved⟩ := served.placed moves
    have pending : pendingAt ((s.serve input pointers index command).put index source
        (.queued (next (some (s.seat.serve input pointers command).2)))) index =
          movedTo (s.seat.serve input pointers command).1.delivered := by
      rw [pending_put (s := s.serve input pointers index command) present, if_pos rfl, there]
      exact owes
    refine Or.inl ⟨index, if_pos moves, ?_, pending⟩
    rw [pending]
    exact moved
  | false =>
    obtain ⟨there, nothing⟩ := served.kept moves
    have quiet : pendingAt ((s.serve input pointers index command).put index source
        (.queued (next (some (s.seat.serve input pointers command).2)))) = pendingAt s :=
      pending_quiet (s := s.serve input pointers index command) present rfl (owes.trans nothing)
    have unmoved : (s.serve input pointers index command).mover = s.mover :=
      if_neg (by rw [moves]; exact Bool.false_ne_true)
    exact latest_aside known.latest ⟨there, rfl, unmoved, quiet⟩

/-- Serving the command of a dropped request that does not move the pointer. -/
theorem known_stray (known : Known config s) {command : RuntimeCommand}
    (still : places input pointers s.seat command = false) :
    Known config (s.serve input pointers index command) := by
  have served : Served config input pointers s.seat command := serves known.tiled command
  have unmoved : (s.serve input pointers index command).mover = s.mover :=
    if_neg (by rw [still]; exact Bool.false_ne_true)
  exact ⟨served.tiled, known.tracks,
    latest_aside known.latest ⟨(served.kept still).1, rfl, unmoved, rfl⟩⟩

theorem known_serve (known : Known config s) (present : s.tasks[index]? = some task)
    (inTurn : straysOn input pointers s.seat task = false) :
    Known config (CursorTracking.serve input pointers s index task) := by
  obtain ⟨source, stage⟩ := task
  cases stage with
  | asking next =>
    have rest : Plain config.tiledRect (next (some s.seat.snapshot)) :=
      known.tracks index _ present _ fun snapshot same => by
        cases same
        exact snapshot_tiled known.tiled
    exact known.goes_on present rfl (expects_of_records rest) (tracks_queued source rest)
  | sending command next => exact known_served known present
  | abandoned command =>
    cases command with
    | none => exact known
    | some command => exact known_stray known inTurn
  | spawned | queued | answered => exact known

/-- A request whose reply is lost moved nothing that it knows of. -/
theorem known_refuse (known : Known config s) (present : s.tasks[index]? = some task) :
    Known config (CursorTracking.refuse s index task) := by
  obtain ⟨source, stage⟩ := task
  cases stage with
  | asking next =>
    have rest : Plain config.tiledRect (next none) := known.tracks index _ present none nofun
    exact known.goes_on present rfl (expects_of_records rest) (tracks_queued source rest)
  | sending command next =>
    have nothing : owed config.tiledRect none (.send command) none = none := by
      cases command <;> rfl
    have rest : Records config.tiledRect (fun _ => True)
        (owed config.tiledRect none (.send command) none) (next none) :=
      known.tracks index _ present none
    exact known.goes_on present rfl ((expects_of_records rest).trans nothing)
      (tracks_queued source rest)
  | abandoned | spawned | queued | answered => exact known

theorem known_cancel (known : Known config s) (inTurn : DroppedInTurn s index)
    (taken : step xkb input pointers s (.cancel index) = some t) : Known config t := by
  obtain ⟨⟨source, stage⟩, present, goes⟩ := Option.bind_eq_some_iff.mp taken
  cases stage with
  | spawned program =>
    cases goes
    exact known.goes_on present rfl rfl trivial
  | queued program =>
    cases goes
    have answered : Known config (s.put index source .answered) :=
      ⟨known.tiled, tracks_put present known.tracks trivial,
        latest_dropped known.latest inTurn present rfl⟩
    exact answered.elsewhere _ _
  | asking next =>
    cases goes
    have dropped : Known config (s.put index source (.abandoned none)) :=
      known.goes_on present rfl rfl trivial
    exact dropped.elsewhere _ _
  | sending command next =>
    cases goes
    have dropped : Known config (s.put index source (.abandoned (some command))) :=
      known.goes_on present rfl rfl trivial
    exact dropped.elsewhere _ _
  | abandoned command => cases goes
  | answered => cases goes

theorem known_finish (known : Known config s)
    (taken : step xkb input pointers s (.finish index) = some t) : Known config t := by
  obtain ⟨⟨source, stage⟩, present, goes⟩ := Option.bind_eq_some_iff.mp taken
  cases stage with
  | queued program =>
    cases program with
    | done result =>
      cases goes
      have answered : Known config (s.put index source .answered) :=
        known.goes_on present rfl rfl trivial
      exact answered.elsewhere _ _
    | fail error =>
      cases goes
      have answered : Known config (s.put index source .answered) :=
        known.goes_on present rfl rfl trivial
      exact answered.elsewhere _ _
    | call request next => cases goes
  | spawned | asking | sending | abandoned | answered => cases goes

theorem known_read_request (known : Known config s) {connection : ℕ} {request : InputRequest}
    (taken : step xkb input pointers s (.read connection request) = some t) : Known config t := by
  simp only [step] at taken
  split at taken
  · next program queues =>
    cases taken
    exact known_read known (plain_queued queues)
  · cases taken
    exact known

theorem known_read_viewer (known : Known config s) {viewed : ViewerInput}
    (taken : step xkb input pointers s (.readViewer viewed) = some t) : Known config t := by
  simp only [step] at taken
  split at taken
  · next target rect found =>
    have same := input_target_tiled known.tiled found
    subst same
    split at taken
    · next program applies =>
      cases taken
      exact known_read known (plain_apply_input applies)
    · cases taken
      exact known
  · cases taken
    exact known

theorem known_poll (known : Known config s)
    (taken : step xkb input pointers s (.poll index) = some t) : Known config t := by
  obtain ⟨⟨source, stage⟩, present, goes⟩ := Option.bind_eq_some_iff.mp taken
  cases stage with
  | spawned program =>
    cases goes
    have plain : Plain config.tiledRect program := known.tracks index _ present
    have queued : Known config (s.put index source (.queued program)) :=
      known.goes_on present rfl (expects_of_records plain) (tracks_queued source plain)
    exact queued.elsewhere _ _
  | queued | asking | sending | abandoned | answered => cases goes

/-- What clients and other requests do to the windows. -/
theorem known_outside (known : Known config s) {seat : Seat P} (tiled : Tiled config seat.wm)
    (unmoved : movedTo seat.delivered = movedTo s.seat.delivered) :
    Known config { s with seat := seat } :=
  ⟨tiled, known.tracks, latest_aside known.latest ⟨unmoved, rfl, rfl, rfl⟩⟩

/-- What one step in turn preserves. -/
theorem known_step (known : Known config s) {label : Label}
    (inTurn : InTurn input pointers s label) (taken : step xkb input pointers s label = some t) :
    Known config t := by
  cases label with
  | client request =>
    cases taken
    exact known_outside known (tiled_client known.tiled request) rfl
  | activate id =>
    cases taken
    have served : Served config input pointers s.seat (.activateWindow id) :=
      serves known.tiled (.activateWindow id)
    exact known_outside known served.tiled (served.kept rfl).1
  | read connection request => exact known_read_request known taken
  | readViewer viewed => exact known_read_viewer known taken
  | poll index => exact known_poll known taken
  | move index =>
    obtain ⟨⟨source, stage⟩, present, goes⟩ := Option.bind_eq_some_iff.mp taken
    cases stage with
    | queued program =>
      obtain ⟨_, goes⟩ := Option.ite_none_right_eq_some.mp goes
      exact known_advance known inTurn present goes
    | spawned | asking | sending | abandoned | answered => cases goes
  | serve =>
    simp only [step] at taken
    split at taken
    · next index rest queue =>
      obtain ⟨task, present, rfl⟩ := Option.map_eq_some_iff.mp taken
      have live : straysOn input pointers s.seat task = false :=
        inTurn index (by rw [queue]; rfl) task present
      exact known_serve (s := { s with channel := rest }) (known.elsewhere s.gates rest) present live
    · cases taken
  | refuse =>
    simp only [step] at taken
    split at taken
    · next index rest queue =>
      obtain ⟨task, present, rfl⟩ := Option.map_eq_some_iff.mp taken
      exact known_refuse (s := { s with channel := rest }) (known.elsewhere s.gates rest) present
    · cases taken
  | finish index => exact known_finish known taken
  | cancel index => exact known_cancel known inTurn taken

end Steps

theorem known_start (start : P) : Known config (State.new config start) where
  tiled := ⟨rfl, Wm.Consistency.Consistent.initial config⟩
  tracks := fun index task present => by cases present
  latest := Or.inr ⟨fun _ => rfl, rfl⟩

/-- While the points are recorded in turn and no move is in flight, the tracked cursor is where the
compositor's pointer was moved to last, for any number of connections and viewers. -/
theorem cursor_agrees (xkb : Xkb) (start : P) {s : State P}
    (reached : Reachable (machine xkb input pointers config start) (InTurn input pointers) s)
    (settled : ¬ MoveInFlight s) : s.cursor = movedTo s.seat.delivered := by
  have invariant : Inductive (machine xkb input pointers config start) (InTurn input pointers)
      (Known config) := ⟨known_start start, fun known inTurn taken => known_step known inTurn taken⟩
  rcases (invariant.holds reached).latest with ⟨index, _, owes, _⟩ | ⟨_, there⟩
  · obtain ⟨point, pending⟩ := Option.isSome_iff_exists.mp owes
    obtain ⟨task, present, points⟩ := Option.bind_eq_some_iff.mp pending
    exact absurd ⟨task, List.mem_of_getElem? present, Option.isSome_of_eq_some points⟩ settled
  · exact there

/-- An input injector without a keymap. -/
def pointerOnly : InputInjector := ⟨fun _ => none, none, none⟩

def cursorMachine : Machine (State ClickPointer) Label :=
  machine latinXkb pointerOnly clickPointers ⟨1280, 800⟩ .new

/-- A client maps a window. -/
def windowMapped : List Label := [.client (.newToplevel 1), .client (.commit 1 [] true {} .empty)]

/-- A move of a connection, up to the compositor's answer: the window's geometry is asked for
first. -/
def connectionMoves (index : ℕ) : List Label :=
  [.poll index, .move index, .serve, .move index, .serve]

/-- A move of a viewer, whose window is known when the request is read. -/
def viewerMoves (index : ℕ) : List Label := [.poll index, .move index, .serve]

/-- The request records its point and ends. -/
def records (index : ℕ) : List Label := [.move index, .finish index]

/-- A connection and a viewer move the pointer at once; the viewer's command is served first and its
point is recorded first. -/
def movedInTurn : State ClickPointer :=
  finalState cursorMachine (InTurn pointerOnly clickPointers)
    (windowMapped ++ [.read 0 (.pointerMove ⟨1⟩ (.pixels ⟨10, 20⟩)),
      .readViewer (.pointerMove (1 / 2) (1 / 4)), .poll 0, .move 0, .serve] ++ viewerMoves 1 ++
      [.move 0] ++ records 1 ++ [.serve] ++ records 0)
    (by decide +kernel)

theorem cursor_agrees_in_turn :
    movedInTurn.cursor = some ⟨10, 20⟩ ∧
      movedInTurn.cursor = movedTo movedInTurn.seat.delivered := by
  have reached : Reachable cursorMachine (InTurn pointerOnly clickPointers) movedInTurn :=
    final_state_reachable _ _ _ _
  exact ⟨by decide +kernel, cursor_agrees latinXkb ClickPointer.new reached (by decide +kernel)⟩

def isAnswered : Stage → Bool
  | .answered => true
  | _ => false

/-- Every request is answered and the compositor has nothing left to serve. -/
def Idle (s : State P) : Prop :=
  s.channel = [] ∧ ∀ task ∈ s.tasks, isAnswered task.stage = true

/-- The compositor serves the connection's move and then the viewer's; the viewer's point is
recorded before the connection's. -/
def movedAtOnce : State ClickPointer :=
  finalState cursorMachine anyStep
    (windowMapped ++ [.read 0 (.pointerMove ⟨1⟩ (.pixels ⟨10, 20⟩)),
      .readViewer (.pointerMove (1 / 2) (1 / 4))] ++ connectionMoves 0 ++ viewerMoves 1 ++
      records 1 ++ records 0)
    (by decide +kernel)

/-- The pointer stays where the viewer put it, and the tracked cursor where the connection did. -/
theorem cursor_outdated :
    Reachable cursorMachine anyStep movedAtOnce ∧ Idle movedAtOnce ∧ ¬ MoveInFlight movedAtOnce ∧
      movedAtOnce.cursor = some ⟨10, 20⟩ ∧
      movedTo movedAtOnce.seat.delivered = some ⟨640, 200⟩ :=
  ⟨final_state_reachable _ _ _ _, ⟨by decide +kernel, by decide +kernel⟩, by decide +kernel,
    by decide +kernel, by decide +kernel⟩

end ADesk.Server.CursorAgreement
