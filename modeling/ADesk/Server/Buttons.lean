/- ADesk/Server/Buttons
   digest: Clicks and drags whose commands are refused or overtaken by others, and when the button
   that they pressed is released in the end. -/

import ADesk.Server.Pointing

set_option autoImplicit false

namespace ADesk.Server.Buttons

open ADesk.Core.Geometry (Point)
open ADesk.Core.Event (Position)
open ADesk.Core.Ids (WindowId)
open ADesk.Compositor.Command
open ADesk.Compositor.Inject
open ADesk.Compositor.Keys
open ADesk.Foundation.Execution
open ADesk.Foundation.Scripts
open ADesk.Server.Input
open ADesk.Server.Pointing (noKeys pointingMachine)
open ADesk.Server.Serving (Desk)
open ADesk.Wm.Policy (window)

variable {P : Type} (input : InputInjector) (pointers : PointerHandle P) (button : Button)

/-! ## Requests among others -/

/-- The desk that a request works on. `pressed` is a history variable: the request pressed the
button, and nobody has released it since. -/
structure World (P : Type) where
  desk : Desk P
  running : Bool
  pressed : Bool

def World.start (desk : Desk P) : World P := ⟨desk, true, false⟩

/-- What happens between two calls of the request: clients and other sessions are served, another
session moves the tracked cursor, or the compositor stops, and its seat with it. -/
inductive Outside
  | served (request : Request)
  | moved (point : Point)
  | stopped

def World.outside (world : World P) : Outside → World P
  | .served request =>
    if world.running then
      let seat := world.desk.seat.handle input pointers request
      { world with
        desk := { world.desk with seat := seat }
        pressed := world.pressed && pointers.held seat.pointer button }
    else world
  | .moved point => { world with desk := { world.desk with cursor := some point } }
  | .stopped => { world with running := false, pressed := false }

/-- The command is a press of the button. -/
def presses : RuntimeCommand → Bool
  | .pointerButton pressed .pressed => pressed = button
  | _ => false

/-- A command of the request has been answered. -/
def World.sent (world : World P) (command : RuntimeCommand)
    (served : Seat P × Except CoreError Unit) : World P :=
  { world with
    desk := { world.desk with seat := served.1 }
    pressed :=
      (world.pressed || (presses button command && served.2.toOption.isSome)) &&
        pointers.held served.1.pointer button }

/-- The reply to a call and the world after it. A stopped compositor drops the replies. -/
def World.answer (world : World P) : (request : Call) → World P × Reply request
  | .queryState => (world, if world.running then some world.desk.seat.snapshot else none)
  | .send command =>
    if world.running then
      let served := world.desk.seat.serve input pointers command
      (world.sent pointers button command served, some served.2)
    else (world, none)
  | .sleep _ => (world, ())
  | .cursorGet => (world, world.desk.cursor)
  | .cursorSet point => ({ world with desk := { world.desk with cursor := some point } }, ())

/-- A world with what will happen before each of the next calls. -/
abbrev Course (P : Type) := World P × List (List Outside)

/-- The world in which the next call is made. -/
def Course.now (course : Course P) : World P :=
  (course.2.headD []).foldl (World.outside input pointers button) course.1

def turn (course : Course P) (request : Call) : Course P × Reply request :=
  let answered := (course.now input pointers button).answer input pointers button request
  ((answered.1, course.2.tail), answered.2)

/-- The world in which a request has ended. -/
def completed {α : Type} (desk : Desk P) (turns : List (List Outside)) (method : Handler α) :
    World P :=
  (Script.serve (turn input pointers button) (World.start desk, turns) method).1.1

/-- A button that the request pressed is still pressed at the seat. -/
def StillPressed (world : World P) : Prop :=
  world.pressed = true ∧ pointers.held world.desk.seat.pointer button = true

/-! ## Refusals -/

/-- The seat takes a pointer command: some window is focused or active and, for a motion, it has
its surface and its geometry. -/
def Accepts (seat : Seat P) : RuntimeCommand → Prop
  | .pointerMove _ =>
    ∃ id ∈ seat.target, (seat.surfaceOf id).isSome ∧ (window seat.wm.manager id).isSome
  | _ => seat.target.isSome

/-- A command that is sent while the button is down is taken. -/
def TakenWhileDown (course : Course P) (request : Call) : Prop :=
  (course.now input pointers button).pressed = true → ∀ command, request = .send command →
    Accepts (course.now input pointers button).desk.seat command

section Refusals

variable {input pointers}

theorem move_accepted (seat : Seat P) (position : Position) :
    (∃ served, seat.injectPointerMove pointers position = .ok served) ↔
      Accepts seat (.pointerMove position) := by
  unfold Seat.injectPointerMove Accepts Seat.resolvePosition
  cases seat.target with
  | none => simp
  | some id =>
    cases found : seat.surfaceOf id with
    | none => simp [found]
    | some surface => cases known : window seat.wm.manager id <;> simp [found, known]

theorem button_accepted (seat : Seat P) (pressed : Button) (state : ButtonState) :
    (∃ served, seat.injectPointerButton pointers pressed state = .ok served) ↔
      Accepts seat (.pointerButton pressed state) := by
  unfold Seat.injectPointerButton Accepts
  cases seat.target <;> simp

/-- The commands of clicks and drags. -/
def Points (button : Button) : RuntimeCommand → Prop
  | .pointerMove _ => True
  | .pointerButton pressed _ => pressed = button
  | _ => False

theorem performed_iff {button : Button} {seat : Seat P} {command : RuntimeCommand}
    (points : Points button command) :
    (∃ served, seat.perform input pointers command = .ok served) ↔ Accepts seat command := by
  cases command with
  | pointerMove position => exact move_accepted seat position
  | pointerButton pressed state => exact button_accepted seat pressed state
  | activateWindow id => exact points.elim
  | pointerAxis dx dy => exact points.elim
  | keyEvent key state => exact points.elim

theorem refused_of_not_accepted {button : Button} {seat : Seat P} {command : RuntimeCommand}
    (points : Points button command) (refused : ¬Accepts seat command) :
    ∃ error, seat.serve input pointers command = (seat, .error error) := by
  cases performed : seat.perform input pointers command with
  | ok served => exact absurd ((performed_iff points).mp ⟨served, performed⟩) refused
  | error error => exact ⟨_, Serving.serve_refused performed⟩

end Refusals

/-! ## What a request owes -/

/-- Where a request stands with its button: not pressed, down, or down when a command was
refused. -/
inductive Holding
  | idle
  | down
  | lost
  deriving DecidableEq

/-- After a command that is taken. -/
def Holding.taken (status : Holding) : RuntimeCommand → Holding
  | .pointerButton _ .pressed => .down
  | .pointerButton _ .released => .idle
  | _ => status

/-- After a command that is refused. -/
def Holding.refused : Holding → Holding
  | .idle => .idle
  | .down | .lost => .lost

def Holding.after (status : Holding) : (request : Call) → Reply request → Holding
  | .send command, some (.ok ()) => status.taken command
  | .send _, some (.error _) | .send _, none => status.refused
  | .queryState, _ | .sleep _, _ | .cursorGet, _ | .cursorSet _, _ => status

/-- Only the request's own button is pressed and released, and nothing is called any more once a
command was refused with the button down. -/
def Holding.admits (button : Button) (status : Holding) : Call → Prop
  | .send command => status ≠ .lost ∧ Points button command
  | .queryState => status = .idle
  | .sleep _ | .cursorGet | .cursorSet _ => status ≠ .lost

abbrev Owes {α : Type} (button : Button) (post : α → Holding → Prop) (status : Holding)
    (method : Handler α) : Prop :=
  Script.Obeys (Holding.admits button) (fun _ _ => True) Holding.after post (· ≠ .down) status
    method

/-! ## The obligations of the methods -/

section Methods

variable {button}

theorem owes_bind {α β : Type} {status middle : Holding} {post : β → Holding → Prop}
    {first : Handler α} {rest : α → Handler β}
    (starts : Owes button (fun _ => (· = middle)) status first)
    (goes_on : ∀ result, Owes button post middle (rest result)) :
    Owes button post status (first >>= rest) := by
  refine Script.obeys_bind starts fun result left reached => ?_
  rw [reached]
  exact goes_on result

theorem owes_send {windowId : Option WindowId} {command : RuntimeCommand} {status : Holding}
    (held : status ≠ .lost) (points : Points button command) :
    Owes button (fun _ => (· = status.taken command)) status (sendUnit windowId command) := by
  refine ⟨⟨held, points⟩, fun reply _ => ?_⟩
  have kept : status.refused ≠ .down := by cases status <;> decide
  rcases reply with _ | error | taken
  · exact kept
  · exact kept
  · rfl

theorem owes_move {windowId : WindowId} {position : Position} {rect : Core.Geometry.Rect}
    {status : Holding} (held : status ≠ .lost) :
    Owes button (fun _ => (· = status)) status (movePointer windowId position rect) :=
  owes_bind (owes_send held trivial) fun _ => ⟨held, fun _ _ => rfl⟩

theorem owes_state : Owes button (fun _ => (· = .idle)) .idle state := by
  refine ⟨rfl, fun reply _ => ?_⟩
  rcases reply with _ | snapshot
  · exact Holding.noConfusion
  · rfl

theorem owes_window_rect (windowId : WindowId) :
    Owes button (fun _ => (· = .idle)) .idle (windowRect windowId) := by
  refine owes_bind owes_state fun snapshot => ?_
  cases snapshot.window windowId with
  | none => exact Holding.noConfusion
  | some window => rfl

theorem owes_move_to (windowId : WindowId) (requested : Option Position) :
    Owes button (fun _ => (· = .idle)) .idle (moveTo windowId requested) := by
  have cursor : Owes button (fun _ => (· = .idle)) .idle cursorGet :=
    ⟨Holding.noConfusion, fun _ _ => rfl⟩
  exact owes_bind (owes_window_rect windowId) fun _ =>
    owes_bind cursor fun _ => owes_move Holding.noConfusion

theorem owes_sleep {millis : ℕ} {status : Holding} (held : status ≠ .lost) :
    Owes button (fun _ => (· = status)) status (sleep millis) := ⟨held, fun _ _ => rfl⟩

theorem owes_press {windowId : WindowId} {status : Holding} (held : status ≠ .lost) :
    Owes button (fun _ => (· = .down)) status (buttonEvent windowId button .pressed) :=
  owes_send held rfl

theorem owes_release {windowId : WindowId} {status : Holding} (held : status ≠ .lost) :
    Owes button (fun _ => (· = .idle)) status (buttonEvent windowId button .released) :=
  owes_send held rfl

theorem owes_click_times (windowId : WindowId) (count : ℕ) :
    Owes button (fun _ => (· = .idle)) .idle (clickTimes windowId button count) := by
  induction count with
  | zero => exact rfl
  | succ count ih =>
    exact owes_bind (owes_press Holding.noConfusion) fun _ =>
      owes_bind (owes_release Holding.noConfusion) fun _ => ih

theorem owes_click (windowId : WindowId) (position : Option Position) (count : ℕ) :
    Owes button (fun _ => (· = .idle)) .idle (click windowId position button count) :=
  owes_bind (owes_move_to windowId position) fun _ => owes_click_times windowId count

theorem owes_double_click (windowId : WindowId) (position : Option Position) :
    Owes button (fun _ => (· = .idle)) .idle (doubleClick windowId position button) :=
  owes_bind (owes_move_to windowId position) fun _ =>
    owes_bind (owes_click_times windowId 1) fun _ =>
      owes_bind (owes_sleep Holding.noConfusion) fun _ => owes_click_times windowId 1

theorem owes_hold {durationMs : ℕ} {status : Holding} (held : status ≠ .lost) :
    Owes button (fun _ => (· = status)) status (hold durationMs) := by
  unfold hold
  split
  · exact owes_sleep held
  · exact rfl

theorem owes_drag (windowId : WindowId) (start finish : Position) (durationMs : ℕ) :
    Owes button (fun _ => (· = .idle)) .idle (drag windowId start finish button durationMs) :=
  owes_bind (owes_window_rect windowId) fun _ =>
    owes_bind (owes_move Holding.noConfusion) fun _ =>
      owes_bind (owes_press Holding.noConfusion) fun _ =>
        owes_bind (owes_move Holding.noConfusion) fun _ =>
          owes_bind (owes_hold Holding.noConfusion) fun _ => owes_release Holding.noConfusion

theorem owes_done {method : Handler Unit}
    (owes : Owes button (fun _ => (· = .idle)) .idle method) :
    Owes button (fun _ => (· ≠ .down)) .idle (done method) :=
  owes_bind owes fun _ => Holding.noConfusion

end Methods

/-- The button of a click or a drag. -/
def clicked : InputRequest → Option Button
  | .click _ _ button _ | .doubleClick _ _ button | .drag _ _ _ button _ => some button
  | _ => none

theorem owes_clicked {button : Button} {xkb : Xkb} {request : InputRequest}
    {method : Handler ActionResult} (clicks : clicked request = some button)
    (runs : queued xkb request = .ok method) :
    Owes button (fun _ => (· ≠ .down)) .idle method := by
  cases request with
  | click windowId position button count =>
    cases clicks
    cases runs
    exact owes_done (owes_click windowId position count)
  | doubleClick windowId position button =>
    cases clicks
    cases runs
    exact owes_done (owes_double_click windowId position)
  | drag windowId start finish button durationMs =>
    cases clicks
    cases runs
    exact owes_done (owes_drag windowId start finish durationMs)
  | _ => cases clicks

/-! ## The seat keeps up -/

/-- A button that is still pressed by the request is held at the seat, and the request owes its
release. -/
def Follows (world : World P) (status : Holding) : Prop :=
  world.pressed = true → world.running = true ∧
    pointers.held world.desk.seat.pointer button = true ∧ status = .down

section Follows

variable {input pointers button}

theorem outside_follows {world : World P} {status : Holding} (happening : Outside)
    (follows : Follows pointers button world status) :
    Follows pointers button (world.outside input pointers button happening) status := by
  cases happening with
  | served request =>
    unfold World.outside
    dsimp only
    split
    next running =>
      intro pressed
      obtain ⟨before, held⟩ := Bool.and_eq_true_iff.mp pressed
      exact ⟨running, held, (follows before).2.2⟩
    next => exact follows
  | moved point => exact follows
  | stopped =>
    intro pressed
    cases pressed

theorem now_follows {course : Course P} {status : Holding}
    (follows : Follows pointers button course.1 status) :
    Follows pointers button (course.now input pointers button) status :=
  List.foldlRecOn (motive := fun world => Follows pointers button world status) _ _ follows
    fun _ kept happening _ => outside_follows happening kept

theorem released_held (documented : pointers.Documented) {seat served : Seat P}
    (performed : seat.injectPointerButton pointers button .released = .ok served) :
    pointers.held served.pointer button = false := by
  unfold Seat.injectPointerButton at performed
  split at performed
  · cases performed
  · cases performed
    show pointers.held (pointers.button _ button .released) button = false
    rw [documented.releaseHeld, Function.update_self]

/-- A press puts the button down and a release lifts it. -/
theorem sent_follows (documented : pointers.Documented) {world : World P} {status : Holding}
    {command : RuntimeCommand} {served : Seat P} (running : world.running = true)
    (follows : Follows pointers button world status) (points : Points button command)
    (performed : world.desk.seat.perform input pointers command = .ok served) :
    Follows pointers button (world.sent pointers button command (served, .ok ()))
      (status.taken command) := by
  intro pressed
  obtain ⟨before, held⟩ := Bool.and_eq_true_iff.mp pressed
  refine ⟨running, held, ?_⟩
  cases command with
  | pointerMove position =>
    exact (follows (by simpa [presses] using before)).2.2
  | pointerButton other state =>
    cases points
    cases state with
    | pressed => rfl
    | released =>
      exact absurd (held.symm.trans (released_held documented performed)) Bool.noConfusion
  | activateWindow id => exact points.elim
  | pointerAxis dx dy => exact points.elim
  | keyEvent key state => exact points.elim

/-- A command that is refused changes nothing. -/
theorem sent_refused {world : World P} {status : Holding} {command : RuntimeCommand}
    {error : CoreError} (follows : Follows pointers button world status) :
    world.sent pointers button command (world.desk.seat, .error error) = world := by
  have pressed : ((world.pressed || (presses button command && false)) &&
      pointers.held world.desk.seat.pointer button) = world.pressed := by
    rw [Bool.and_false, Bool.or_false]
    cases down : world.pressed with
    | false => rfl
    | true => rw [(follows down).2.1]; rfl
  show World.mk _ _ ((world.pressed || (presses button command && false)) && _) = world
  rw [pressed]

theorem answer_follows (documented : pointers.Documented) {world : World P} {status : Holding}
    {request : Call} (follows : Follows pointers button world status)
    (admitted : status.admits button request)
    (taken : world.pressed = true → ∀ command, request = .send command →
      Accepts world.desk.seat command) :
    Follows pointers button (world.answer input pointers button request).1
      (status.after request (world.answer input pointers button request).2) := by
  cases request with
  | queryState => exact follows
  | sleep millis => exact follows
  | cursorGet => exact follows
  | cursorSet point => exact follows
  | send command =>
    unfold World.answer
    dsimp only
    split
    next running =>
      cases performed : world.desk.seat.perform input pointers command with
      | ok served =>
        rw [Serving.serve_performed performed]
        exact sent_follows documented running follows admitted.2 performed
      | error error =>
        rw [Serving.serve_refused performed]
        show Follows pointers button (world.sent pointers button command (_, .error _))
          status.refused
        rw [sent_refused follows]
        intro pressed
        obtain ⟨served, accepted⟩ : ∃ served, world.desk.seat.perform input pointers command =
            .ok served := (performed_iff admitted.2).mpr (taken pressed command rfl)
        rw [performed] at accepted
        cases accepted
    next stopped =>
      intro pressed
      exact absurd (follows pressed).1 stopped

/-- A command that is refused while the button is down changes nothing, and loses the button. -/
theorem answer_lost {world : World P} {status : Holding} {request : Call}
    (follows : Follows pointers button world status) (admitted : status.admits button request)
    (down : world.pressed = true) {command : RuntimeCommand} (sends : request = .send command)
    (refused : ¬Accepts world.desk.seat command) :
    (world.answer input pointers button request).1 = world ∧
      status.after request (world.answer input pointers button request).2 = .lost := by
  subst sends
  obtain ⟨running, -, held⟩ := follows down
  obtain ⟨error, served⟩ : ∃ error, world.desk.seat.serve input pointers command =
      (world.desk.seat, .error error) := refused_of_not_accepted admitted.2 refused
  unfold World.answer
  dsimp only
  rw [if_pos running, served, held]
  exact ⟨sent_refused follows, rfl⟩

end Follows

/-! ## Buttons at the end -/

section Ends

variable {input pointers button}

theorem turn_follows (documented : pointers.Documented) (course : Course P) (status : Holding)
    (request : Call) (follows : Follows pointers button course.1 status)
    (admitted : status.admits button request)
    (taken : TakenWhileDown input pointers button course request) :
    Follows pointers button (turn input pointers button course request).1.1
      (status.after request (turn input pointers button course request).2) :=
  answer_follows documented (now_follows follows) admitted taken

/-- The call at which the button is lost. -/
theorem turn_lost (course : Course P) (status : Holding) (request : Call)
    (follows : Follows pointers button course.1 status) (admitted : status.admits button request)
    (refused : ¬TakenWhileDown input pointers button course request) :
    StillPressed pointers button (turn input pointers button course request).1.1 ∧
      status.after request (turn input pointers button course request).2 = .lost := by
  have follows_now : Follows pointers button (course.now input pointers button) status :=
    now_follows follows
  simp only [TakenWhileDown, not_forall] at refused
  obtain ⟨down, command, sends, not_accepted⟩ := refused
  obtain ⟨same, lost⟩ := answer_lost follows_now admitted down sends not_accepted
  refine ⟨?_, lost⟩
  show StillPressed pointers button
    ((course.now input pointers button).answer input pointers button request).1
  rw [same]
  exact ⟨down, (follows_now down).2.1⟩

end Ends

/-- However others act in between, the button that a click or a drag pressed is released in the end
exactly when the seat takes every command that the request sends while the button is down. -/
theorem buttons_released_iff (documented : pointers.Documented) (xkb : Xkb)
    (request : InputRequest) (clicks : clicked request = some button)
    (method : Handler ActionResult) (runs : queued xkb request = .ok method) (desk : Desk P)
    (turns : List (List Outside)) :
    ¬StillPressed pointers button (completed input pointers button desk turns method) ↔
      Script.Along (turn input pointers button) (TakenWhileDown input pointers button)
        (World.start desk, turns) method := by
  have owes := owes_clicked clicks runs
  have start : Follows pointers button (World.start desk) .idle := by
    intro pressed
    cases pressed
  have kept : ∀ (course : Course P) status request, Follows pointers button course.1 status →
      Holding.admits button status request → TakenWhileDown input pointers button course request →
      Follows pointers button (turn input pointers button course request).1.1
        (status.after request (turn input pointers button course request).2) :=
    turn_follows documented
  constructor
  · intro released
    by_contra refused
    have stops := fun course status request follows admitted unsuited =>
      (@turn_lost P input pointers button course status request follows admitted unsuited).2
    have last : ∀ status request, status = Holding.lost → ¬status.admits button request := by
      rintro status request rfl admitted
      cases request with
      | queryState => cases admitted
      | send command => exact admitted.1 rfl
      | sleep millis => exact admitted rfl
      | cursorGet => exact admitted rfl
      | cursorSet point => exact admitted rfl
    obtain ⟨before, status, call, follows, admitted, unsuited, final⟩ :=
      Script.obeys_stops (fun _ _ => trivial) kept stops last owes start refused
    apply released
    unfold completed
    rw [final]
    exact (turn_lost before status call follows admitted unsuited).1
  · rintro along ⟨pressed, -⟩
    obtain ⟨status, follows, settled⟩ :=
      Script.obeys_along (fun _ _ => trivial) kept owes start along
    exact settled (follows pressed).2.2

/-- A client has mapped one window. -/
def oneWindowSeat : Seat ClickPointer :=
  finalState pointingMachine anyStep
    [.client (.newToplevel 1), .client (.commit 1 [] true {} .empty)] (by decide +kernel)

/-- Nobody else does anything during a click, whose release is taken like its press. -/
theorem buttons_released_click :
    Script.Along (turn noKeys clickPointers .left) (TakenWhileDown noKeys clickPointers .left)
      (World.start ⟨oneWindowSeat, none⟩, []) (done (click ⟨1⟩ none .left 3)) := by
  refine (@buttons_released_iff ClickPointer noKeys clickPointers .left click_pointers_documented
    latinXkb (.click ⟨1⟩ none .left 3) rfl _ rfl ⟨oneWindowSeat, none⟩ []).mp ?_
  rintro ⟨pressed, -⟩
  revert pressed
  decide +kernel

/-- The window vanishes before the sixth call of a click, which is the release. -/
theorem vanished_window_keeps :
    Reachable pointingMachine anyStep oneWindowSeat ∧
      StillPressed clickPointers .left
        (completed noKeys clickPointers .left ⟨oneWindowSeat, none⟩
          [[], [], [], [], [], [.served (.client (.toplevelDestroyed 1))]]
          (done (click ⟨1⟩ none .left 1))) := by
  refine ⟨final_state_reachable _ _ _ _, ?_, ?_⟩
  · decide +kernel
  · decide +kernel

end ADesk.Server.Buttons
