/- ADesk/Server/Pointing
   digest: Which window gets the pointer events of a request. -/

import ADesk.Server.Serving

set_option autoImplicit false

namespace ADesk.Server.Pointing

open ADesk.Core.Geometry (Point Rect)
open ADesk.Core.Event (Position)
open ADesk.Core.Ids (WindowId)
open ADesk.Compositor.Bridge
open ADesk.Compositor.Command
open ADesk.Compositor.Inject
open ADesk.Compositor.Keys
open ADesk.Foundation.Execution
open ADesk.Foundation.Scripts
open ADesk.Server.Input
open ADesk.Server.Serving
open ADesk.Wm.Policy (WindowRecord window)

/-! ## Requests and receivers -/

/-- The window that a pointer request names. -/
def pointerWindow : InputRequest → Option WindowId
  | .pointerMove windowId .. | .click windowId .. | .doubleClick windowId ..
  | .mouseDown windowId .. | .mouseUp windowId .. | .scroll windowId ..
  | .drag windowId .. => some windowId
  | .keypress .. | .keyDown .. | .keyUp .. | .typeText .. => none

/-- A surface of a window: its toplevel or one of its popups. -/
def BelongsTo (wm : WmBridge) (id : WindowId) (surface : Surface) : Prop :=
  wm.roots id = some surface ∨
    ∃ popup ∈ wm.surfaces.popups, popup.surface = surface ∧ popup.windowId = id

instance (wm : WmBridge) (id : WindowId) (surface : Surface) :
    Decidable (BelongsTo wm id surface) :=
  inferInstanceAs (Decidable (_ ∨ ∃ popup ∈ wm.surfaces.popups, _))

/-- The receiver of a pointer event. -/
def receiver : Delivery → Option (Option Surface)
  | .key .. => none
  | .motion receiver _ | .button receiver .. | .axis receiver .. => some receiver

/-- The event is no pointer event, or a surface of the window gets it. -/
def Reaches (wm : WmBridge) (id : WindowId) (delivery : Delivery) : Prop :=
  ∀ got, receiver delivery = some got → ∃ surface, got = some surface ∧ BelongsTo wm id surface

variable {P : Type}

/-- What the run of a method has delivered. -/
def newDeliveries (before after : Desk P) : List Delivery :=
  after.seat.delivered.drop before.seat.delivered.length

/-- The surface that a motion names: the toplevel of the active window. -/
def aim (seat : Seat P) : Option Surface :=
  seat.target.bind fun id =>
    if (window seat.wm.manager id).isSome then seat.surfaceOf id else none

/-- The request presses its button again after a release that leaves no button held. -/
def PressesAgain (held : Button → Bool) : InputRequest → Prop
  | .click _ _ button count => 2 ≤ count ∧ ∀ other, other ≠ button → held other = false
  | .doubleClick _ _ button => ∀ other, other ≠ button → held other = false
  | _ => False

/-- The window gets the pointer: it is the active one while no button is held; a held button pins
the pointer to one of its surfaces, and where the request lets the pointer go, the window is
active as well. -/
def PointedAt (pointers : PointerHandle P) (seat : Seat P) (id : WindowId)
    (request : InputRequest) : Prop :=
  ∀ active, aim seat = some active →
    match pointers.grab seat.pointer with
    | none => BelongsTo seat.wm id active
    | some pinned =>
      (∃ surface, pinned = some surface ∧ BelongsTo seat.wm id surface) ∧
        (PressesAgain (pointers.held seat.pointer) request → BelongsTo seat.wm id active)

/-! ## The commands of a request -/

def clickCommands (button : Button) : ℕ → List RuntimeCommand
  | 0 => []
  | count + 1 =>
    .pointerButton button .pressed :: .pointerButton button .released :: clickCommands button count

/-- The commands that a pointer request sends when none of them fails. -/
def commandsOf (rect : Rect) (cursor : Option Point) : InputRequest → List RuntimeCommand
  | .pointerMove _ position => [.pointerMove position]
  | .click _ position button count =>
    .pointerMove (resolvePointerPosition position rect cursor) :: clickCommands button count
  | .doubleClick _ position button =>
    .pointerMove (resolvePointerPosition position rect cursor) :: clickCommands button 2
  | .mouseDown _ position button =>
    [.pointerMove (resolvePointerPosition position rect cursor), .pointerButton button .pressed]
  | .mouseUp _ position button =>
    [.pointerMove (resolvePointerPosition position rect cursor), .pointerButton button .released]
  | .scroll _ position dx dy =>
    [.pointerMove (resolvePointerPosition position rect cursor), .pointerAxis dx dy]
  | .drag _ start finish button _ =>
    [.pointerMove start, .pointerButton button .pressed, .pointerMove finish,
      .pointerButton button .released]
  | .keypress .. | .keyDown .. | .keyUp .. | .typeText .. => []

def isPointer : RuntimeCommand → Bool
  | .pointerMove .. | .pointerButton .. | .pointerAxis .. => true
  | .activateWindow .. | .keyEvent .. => false

/-- The seat after a list of commands. -/
def performAll (input : InputInjector) (pointers : PointerHandle P) (seat : Seat P)
    (commands : List RuntimeCommand) : Seat P :=
  commands.foldl (fun seat command => (seat.serve input pointers command).1) seat

section Commands

variable {input : InputInjector} {pointers : PointerHandle P} {seat : Seat P}

theorem aim_spec {active : Surface} (aimed : aim seat = some active) :
    ∃ id record, seat.target = some id ∧ window seat.wm.manager id = some record ∧
      seat.surfaceOf id = some active := by
  obtain ⟨id, target, found⟩ := Option.bind_eq_some_iff.mp aimed
  split at found
  · next known =>
    obtain ⟨record, recorded⟩ := Option.isSome_iff_exists.mp known
    exact ⟨id, record, target, recorded, found⟩
  · cases found

/-- A motion with an aim. -/
theorem perform_move {active : Surface} (aimed : aim seat = some active) (position : Position) :
    ∃ point, seat.perform input pointers (.pointerMove position) =
      .ok ({ seat with pointer := pointers.motion seat.pointer (some active) point }.deliver
        [.motion (pointers.focus (pointers.motion seat.pointer (some active) point)) point]) := by
  obtain ⟨id, record, target, known, surface⟩ := aim_spec aimed
  change ∃ point, seat.injectPointerMove pointers position = _
  unfold Seat.injectPointerMove Seat.resolvePosition
  rw [target]
  simp only
  rw [surface]
  simp only
  rw [known]
  exact ⟨_, rfl⟩

/-- Without an aim a motion is refused. -/
theorem perform_move_refused (missing : aim seat = none) (position : Position) :
    ∃ error, seat.perform input pointers (.pointerMove position) = .error error := by
  change ∃ error, seat.injectPointerMove pointers position = _
  unfold Seat.injectPointerMove Seat.resolvePosition
  unfold aim at missing
  cases target : seat.target with
  | none => exact ⟨_, rfl⟩
  | some id =>
    rw [target, Option.bind_some] at missing
    simp only
    cases surface : seat.surfaceOf id with
    | none => exact ⟨_, rfl⟩
    | some root =>
      cases known : window seat.wm.manager id with
      | none => exact ⟨_, rfl⟩
      | some record =>
        rw [known, surface] at missing
        cases missing

theorem perform_button {active : Surface} (aimed : aim seat = some active) (button : Button)
    (state : ButtonState) :
    seat.perform input pointers (.pointerButton button state) =
      .ok ({ seat with pointer := pointers.button seat.pointer button state }.deliver
        [.button (pointers.focus seat.pointer) button state]) := by
  obtain ⟨id, _, target, _, _⟩ := aim_spec aimed
  change seat.injectPointerButton pointers button state = _
  unfold Seat.injectPointerButton
  rw [target]

theorem perform_axis {active : Surface} (aimed : aim seat = some active) (dx dy : ℚ) :
    seat.perform input pointers (.pointerAxis dx dy) =
      .ok ({ seat with pointer := pointers.axis seat.pointer dx dy }.deliver
        [.axis (pointers.focus seat.pointer) dx dy]) := by
  obtain ⟨id, _, target, _, _⟩ := aim_spec aimed
  change seat.injectPointerAxis pointers dx dy = _
  unfold Seat.injectPointerAxis
  rw [target]

/-- With an aim, no pointer command fails, and none moves a window. -/
theorem serve_pointer (input : InputInjector) (pointers : PointerHandle P) {active : Surface}
    (aimed : aim seat = some active) {command : RuntimeCommand}
    (isPointer' : isPointer command = true) :
    ∃ served, seat.perform input pointers command = .ok served ∧
      served.compositor = seat.compositor := by
  cases command with
  | pointerMove position =>
    obtain ⟨point, performed⟩ := perform_move aimed position
    exact ⟨_, performed, rfl⟩
  | pointerButton button state => exact ⟨_, perform_button aimed button state, rfl⟩
  | pointerAxis dx dy => exact ⟨_, perform_axis aimed dx dy, rfl⟩
  | activateWindow | keyEvent => cases isPointer'

theorem perform_all_append (first rest : List RuntimeCommand) :
    performAll input pointers seat (first ++ rest) =
      performAll input pointers (performAll input pointers seat first) rest :=
  List.foldl_append

theorem perform_all_one {command : RuntimeCommand} {served : Seat P}
    (performed : seat.perform input pointers command = .ok served) :
    performAll input pointers seat [command] = served := by
  change (seat.serve input pointers command).1 = served
  rw [serve_performed performed]

theorem perform_all_compositor {active : Surface} (aimed : aim seat = some active)
    {commands : List RuntimeCommand} (pointer : ∀ command ∈ commands, isPointer command = true) :
    (performAll input pointers seat commands).compositor = seat.compositor := by
  induction commands generalizing seat with
  | nil => rfl
  | cons command rest ih =>
    obtain ⟨served, performed, same⟩ :=
      serve_pointer input pointers aimed (pointer command List.mem_cons_self)
    have onward : aim served = some active := by
      rw [← aimed]
      unfold aim Seat.target Seat.surfaceOf Seat.wm
      rw [same]
    change (performAll input pointers (seat.serve input pointers command).1 rest).compositor = _
    rw [serve_performed performed,
      ih onward fun other member => pointer other (List.mem_cons_of_mem command member), same]

theorem perform_all_aim (input : InputInjector) (pointers : PointerHandle P) {active : Surface}
    (aimed : aim seat = some active) {commands : List RuntimeCommand}
    (pointer : ∀ command ∈ commands, isPointer command = true) :
    aim (performAll input pointers seat commands) = some active := by
  rw [← aimed]
  unfold aim Seat.target Seat.surfaceOf Seat.wm
  rw [perform_all_compositor aimed pointer]

end Commands

/-! ## The run of a request -/

/-- The method succeeds and sends the commands. -/
def Performs {α : Type} (input : InputInjector) (pointers : PointerHandle P) (desk : Desk P)
    (method : Handler α) (commands : List RuntimeCommand) : Prop :=
  ∃ cursor result, run input pointers desk method =
    (⟨performAll input pointers desk.seat commands, cursor⟩, .ok result)

section Performs

variable {α β : Type} {input : InputInjector} {pointers : PointerHandle P} {desk : Desk P}

theorem performs_bind {first : Handler α} {rest : α → Handler β}
    {early late : List RuntimeCommand} (begins : Performs input pointers desk first early)
    (ends : ∀ cursor result, Performs input pointers
      ⟨performAll input pointers desk.seat early, cursor⟩ (rest result) late) :
    Performs input pointers desk (first >>= rest) (early ++ late) := by
  obtain ⟨cursor, result, ran⟩ := begins
  obtain ⟨after, final, others⟩ := ends cursor result
  refine ⟨after, final, ?_⟩
  rw [run_bind ran, others, perform_all_append]

theorem performs_pure (result : α) : Performs input pointers desk (pure result) [] :=
  ⟨desk.cursor, result, rfl⟩

theorem performs_sleep (millis : ℕ) : Performs input pointers desk (sleep millis) [] :=
  ⟨desk.cursor, (), rfl⟩

theorem performs_send {active : Surface} (aimed : aim desk.seat = some active)
    (windowId : Option WindowId) {command : RuntimeCommand} (pointer : isPointer command = true) :
    Performs input pointers desk (sendUnit windowId command) [command] := by
  obtain ⟨served, performed, _⟩ := serve_pointer input pointers aimed pointer
  exact ⟨desk.cursor, (), by rw [run_send performed, perform_all_one performed]⟩

theorem performs_move_pointer {active : Surface} (aimed : aim desk.seat = some active)
    (windowId : WindowId) (position : Position) (rect : Rect) :
    Performs input pointers desk (movePointer windowId position rect) [.pointerMove position] :=
  performs_bind (performs_send aimed (some windowId) rfl) fun _ _ => ⟨_, (), rfl⟩

theorem performs_move_to {active : Surface} (aimed : aim desk.seat = some active)
    {windowId : WindowId} {record : WindowRecord}
    (known : window desk.seat.wm.manager windowId = some record) (requested : Option Position) :
    Performs input pointers desk (moveTo windowId requested)
      [.pointerMove (resolvePointerPosition requested record.geometry desk.cursor)] := by
  obtain ⟨cursor, result, moved⟩ := performs_move_pointer aimed windowId
    (resolvePointerPosition requested record.geometry desk.cursor) record.geometry
  refine ⟨cursor, result, ?_⟩
  unfold moveTo
  rw [run_bind (run_window_rect known)]
  exact moved

theorem performs_button {active : Surface} (aimed : aim desk.seat = some active)
    (windowId : WindowId) (button : Button) (state : ButtonState) :
    Performs input pointers desk (buttonEvent windowId button state)
      [.pointerButton button state] :=
  performs_send aimed (some windowId) rfl

theorem click_commands_pointer (button : Button) (count : ℕ) :
    ∀ command ∈ clickCommands button count, isPointer command = true := by
  induction count with
  | zero =>
    intro command member
    cases member
  | succ count ih =>
    intro command member
    rcases List.mem_cons.mp member with rfl | member
    · rfl
    · rcases List.mem_cons.mp member with rfl | member
      · rfl
      · exact ih command member

theorem one_pointer {command : RuntimeCommand} (pointer : isPointer command = true) :
    ∀ other ∈ [command], isPointer other = true := by
  intro other member
  rw [List.mem_singleton.mp member]
  exact pointer

/-- A method that starts with pointer commands goes on from a seat with the same aim. -/
theorem performs_after {active : Surface} (aimed : aim desk.seat = some active)
    {first : Handler α} {rest : α → Handler β} {early late : List RuntimeCommand}
    (pointer : ∀ command ∈ early, isPointer command = true)
    (begins : Performs input pointers desk first early)
    (ends : ∀ result (after : Desk P), aim after.seat = some active →
      Performs input pointers after (rest result) late) :
    Performs input pointers desk (first >>= rest) (early ++ late) :=
  performs_bind begins fun _ result => ends result _ (perform_all_aim input pointers aimed pointer)

/-- A method that starts with one pointer command. -/
theorem performs_then {active : Surface} (aimed : aim desk.seat = some active)
    {first : Handler α} {rest : α → Handler β} {command : RuntimeCommand}
    {late : List RuntimeCommand} (pointer : isPointer command = true)
    (begins : Performs input pointers desk first [command])
    (ends : ∀ result (after : Desk P), aim after.seat = some active →
      Performs input pointers after (rest result) late) :
    Performs input pointers desk (first >>= rest) (command :: late) :=
  performs_after aimed (one_pointer pointer) begins ends

theorem performs_click_times {active : Surface} (aimed : aim desk.seat = some active)
    (windowId : WindowId) (button : Button) (count : ℕ) :
    Performs input pointers desk (clickTimes windowId button count)
      (clickCommands button count) := by
  induction count generalizing desk with
  | zero => exact performs_pure ()
  | succ count ih =>
    refine performs_then aimed rfl (performs_button aimed windowId button .pressed) ?_
    intro _ after pressed
    refine performs_then pressed rfl (performs_button pressed windowId button .released) ?_
    intro _ after released
    exact ih released

theorem performs_done {method : Handler Unit} {commands : List RuntimeCommand}
    (performs : Performs input pointers desk method commands) :
    Performs input pointers desk (done method) commands := by
  rw [← List.append_nil commands]
  exact performs_bind performs fun _ _ => performs_pure []

theorem performs_hold (durationMs : ℕ) : Performs input pointers desk (hold durationMs) [] := by
  unfold hold
  split
  · exact performs_sleep durationMs
  · exact performs_pure ()

theorem performs_drag {active : Surface} (aimed : aim desk.seat = some active)
    (windowId : WindowId) (start finish : Position) (button : Button) (durationMs : ℕ)
    (rect : Rect) :
    Performs input pointers desk
      (movePointer windowId start rect >>= fun _ => buttonEvent windowId button .pressed >>= fun _ =>
        movePointer windowId finish rect >>= fun _ => hold durationMs >>= fun _ =>
          buttonEvent windowId button .released)
      [.pointerMove start, .pointerButton button .pressed, .pointerMove finish,
        .pointerButton button .released] := by
  refine performs_then aimed rfl (performs_move_pointer aimed windowId start rect) ?_
  intro _ after started
  refine performs_then started rfl (performs_button started windowId button .pressed) ?_
  intro _ after pressed
  refine performs_then pressed rfl (performs_move_pointer pressed windowId finish rect) ?_
  intro _ after finished
  refine performs_after finished (List.forall_mem_nil _) (performs_hold durationMs) ?_
  intro _ after waited
  exact performs_button waited windowId button .released

/-- A pointer request whose window is known sends all its commands. -/
theorem performs_request (input : InputInjector) (pointers : PointerHandle P) {desk : Desk P}
    {xkb : Xkb} {active : Surface} (aimed : aim desk.seat = some active)
    {request : InputRequest} {windowId : WindowId} (named : pointerWindow request = some windowId)
    {record : WindowRecord} (known : window desk.seat.wm.manager windowId = some record)
    {task : Handler ActionResult} (ok : queued xkb request = .ok task) :
    Performs input pointers desk task (commandsOf record.geometry desk.cursor request) := by
  cases request with
  | pointerMove id position =>
    cases named
    cases ok
    refine performs_done ?_
    obtain ⟨cursor, result, moved⟩ :=
      performs_move_pointer aimed windowId position record.geometry
    exact ⟨cursor, result, (run_bind (run_window_rect known)).trans moved⟩
  | click id position button count =>
    cases named
    cases ok
    refine performs_done (performs_then aimed rfl (performs_move_to aimed known position) ?_)
    intro _ after moved
    exact performs_click_times moved windowId button count
  | doubleClick id position button =>
    cases named
    cases ok
    refine performs_done (performs_then aimed rfl (performs_move_to aimed known position) ?_)
    intro _ after moved
    refine performs_after moved (click_commands_pointer button 1)
      (performs_click_times moved windowId button 1) ?_
    intro _ after clicked
    refine performs_after clicked (List.forall_mem_nil _) (performs_sleep doubleClickGapMs) ?_
    intro _ after waited
    exact performs_click_times waited windowId button 1
  | mouseDown id position button =>
    cases named
    cases ok
    refine performs_done (performs_then aimed rfl (performs_move_to aimed known position) ?_)
    intro _ after moved
    exact performs_button moved windowId button .pressed
  | mouseUp id position button =>
    cases named
    cases ok
    refine performs_done (performs_then aimed rfl (performs_move_to aimed known position) ?_)
    intro _ after moved
    exact performs_button moved windowId button .released
  | scroll id position dx dy =>
    cases named
    cases ok
    refine performs_done (performs_then aimed rfl (performs_move_to aimed known position) ?_)
    intro _ after moved
    exact performs_send moved (some windowId) rfl
  | drag id start finish button durationMs =>
    cases named
    cases ok
    refine performs_done ?_
    obtain ⟨cursor, result, ran⟩ := performs_drag aimed windowId start finish button durationMs
      record.geometry
    exact ⟨cursor, result, (run_bind (run_window_rect known)).trans ran⟩
  | keypress | keyDown | keyUp | typeText => cases named

/-- The method fails and leaves the desk as it was. -/
def Fails {α : Type} (input : InputInjector) (pointers : PointerHandle P) (desk : Desk P)
    (method : Handler α) : Prop :=
  ∃ error, run input pointers desk method = (desk, .error error)

theorem fails_bind {first : Handler α} (fails : Fails input pointers desk first)
    (rest : α → Handler β) : Fails input pointers desk (first >>= rest) :=
  fails.imp fun _ failed => run_bind_error failed

theorem fails_move_pointer (missing : aim desk.seat = none) (windowId : WindowId)
    (position : Position) (rect : Rect) :
    Fails input pointers desk (movePointer windowId position rect) := by
  obtain ⟨error, refused⟩ := perform_move_refused missing position
  exact fails_bind ⟨_, run_send_error refused⟩ _

theorem fails_move_to (missing : aim desk.seat = none) {windowId : WindowId}
    {record : WindowRecord} (known : window desk.seat.wm.manager windowId = some record)
    (requested : Option Position) : Fails input pointers desk (moveTo windowId requested) := by
  obtain ⟨error, failed⟩ := fails_move_pointer missing windowId
    (resolvePointerPosition requested record.geometry desk.cursor) record.geometry
  exact ⟨error, (run_bind (run_window_rect known)).trans failed⟩

/-- Without an aim the first motion fails, and nothing is delivered. -/
theorem fails_request (input : InputInjector) (pointers : PointerHandle P) {desk : Desk P}
    {xkb : Xkb} (missing : aim desk.seat = none) {request : InputRequest}
    {windowId : WindowId} (named : pointerWindow request = some windowId) {record : WindowRecord}
    (known : window desk.seat.wm.manager windowId = some record) {task : Handler ActionResult}
    (ok : queued xkb request = .ok task) : Fails input pointers desk task := by
  cases request with
  | pointerMove id position =>
    cases named
    cases ok
    refine fails_bind ?_ _
    obtain ⟨error, failed⟩ := fails_move_pointer missing windowId position record.geometry
    exact ⟨error, (run_bind (run_window_rect known)).trans failed⟩
  | click id position button count =>
    cases named
    cases ok
    exact fails_bind (fails_bind (fails_move_to missing known position) _) _
  | doubleClick id position button =>
    cases named
    cases ok
    exact fails_bind (fails_bind (fails_move_to missing known position) _) _
  | mouseDown id position button =>
    cases named
    cases ok
    exact fails_bind (fails_bind (fails_move_to missing known position) _) _
  | mouseUp id position button =>
    cases named
    cases ok
    exact fails_bind (fails_bind (fails_move_to missing known position) _) _
  | scroll id position dx dy =>
    cases named
    cases ok
    exact fails_bind (fails_bind (fails_move_to missing known position) _) _
  | drag id start finish button durationMs =>
    cases named
    cases ok
    refine fails_bind ?_ _
    obtain ⟨error, failed⟩ := fails_move_pointer missing windowId start record.geometry
    exact ⟨error, (run_bind (run_window_rect known)).trans (run_bind_error failed)⟩
  | keypress | keyDown | keyUp | typeText => cases named

end Performs

/-! ## Who gets the events -/

/-- The receivers of pointer commands while the active window has the given toplevel. -/
inductive Tracks (pointers : PointerHandle P) (active : Surface) :
    P → List RuntimeCommand → List (Option Surface) → Prop
  | nil (p : P) : Tracks pointers active p [] []
  | move (p : P) (position : Position) (point : Point) {rest : List RuntimeCommand}
      {receivers : List (Option Surface)}
      (others : Tracks pointers active (pointers.motion p (some active) point) rest receivers) :
      Tracks pointers active p (.pointerMove position :: rest)
        (pointers.focus (pointers.motion p (some active) point) :: receivers)
  | button (p : P) (button : Button) (state : ButtonState) {rest : List RuntimeCommand}
      {receivers : List (Option Surface)}
      (others : Tracks pointers active (pointers.button p button state) rest receivers) :
      Tracks pointers active p (.pointerButton button state :: rest)
        (pointers.focus p :: receivers)
  | axis (p : P) (dx dy : ℚ) {rest : List RuntimeCommand} {receivers : List (Option Surface)}
      (others : Tracks pointers active (pointers.axis p dx dy) rest receivers) :
      Tracks pointers active p (.pointerAxis dx dy :: rest) (pointers.focus p :: receivers)

section Tracks

variable {input : InputInjector} {pointers : PointerHandle P} {active : Surface} {p : P}
  {commands : List RuntimeCommand} {receivers : List (Option Surface)}

/-- The seat delivers to these receivers. -/
theorem performed_tracks (input : InputInjector) (pointers : PointerHandle P) {seat : Seat P}
    (aimed : aim seat = some active)
    (pointer : ∀ command ∈ commands, isPointer command = true) :
    ∃ receivers added, Tracks pointers active seat.pointer commands receivers ∧
      (performAll input pointers seat commands).delivered = seat.delivered ++ added ∧
      added.map receiver = receivers.map some := by
  induction commands generalizing seat with
  | nil => exact ⟨[], [], .nil _, (List.append_nil _).symm, rfl⟩
  | cons command rest ih =>
    have others : ∀ other ∈ rest, isPointer other = true :=
      fun other member => pointer other (List.mem_cons_of_mem command member)
    have first : isPointer command = true := pointer command List.mem_cons_self
    have onward := perform_all_aim input pointers aimed (one_pointer first)
    obtain ⟨receivers, added, tracks, delivered, got⟩ := ih onward others
    change ∃ receivers added, _ ∧ (performAll input pointers
      (performAll input pointers seat [command]) rest).delivered = _ ∧ _
    rw [delivered]
    cases command with
    | pointerMove position =>
      obtain ⟨point, performed⟩ := perform_move aimed position
      rw [perform_all_one performed] at tracks ⊢
      exact ⟨_, _, .move seat.pointer position point tracks, List.append_assoc .., by
        rw [List.map_append, got]; rfl⟩
    | pointerButton button state =>
      rw [perform_all_one (perform_button aimed button state)] at tracks ⊢
      exact ⟨_, _, .button seat.pointer button state tracks, List.append_assoc .., by
        rw [List.map_append, got]; rfl⟩
    | pointerAxis dx dy =>
      rw [perform_all_one (perform_axis aimed dx dy)] at tracks ⊢
      exact ⟨_, _, .axis seat.pointer dx dy tracks, List.append_assoc .., by
        rw [List.map_append, got]; rfl⟩
    | activateWindow | keyEvent => cases first

/-- The pointer is on one of two surfaces, the second of which is that of the active window. -/
structure Settled (pointers : PointerHandle P) (active : Surface) (first : Option Surface) (p : P) :
    Prop where
  pending : pointers.pending p = some active
  focus : pointers.focus p = first ∨ pointers.focus p = some active
  grab : pointers.grab p = none ∨ pointers.grab p = some first ∨
    pointers.grab p = some (some active)

theorem settled_motion (documented : pointers.Documented) (active : Surface) (p : P)
    (point : Point) :
    Settled pointers active ((pointers.grab p).getD (some active))
      (pointers.motion p (some active) point) where
  pending := documented.motionPending ..
  focus := .inl (documented.motionFocus ..)
  grab := by
    rw [documented.motionGrab]
    cases pointers.grab p with
    | none => exact .inl rfl
    | some pinned => exact .inr (.inl rfl)

theorem Settled.moved (documented : pointers.Documented) {first : Option Surface}
    (settled : Settled pointers active first p) (point : Point) :
    Settled pointers active first (pointers.motion p (some active) point) where
  pending := documented.motionPending ..
  focus := by
    rw [documented.motionFocus]
    rcases settled.grab with grab | grab | grab
    · exact .inr (by rw [grab]; rfl)
    · exact .inl (by rw [grab]; rfl)
    · exact .inr (by rw [grab]; rfl)
  grab := by
    rw [documented.motionGrab]
    exact settled.grab

theorem Settled.pressed (documented : pointers.Documented) {first : Option Surface}
    (settled : Settled pointers active first p) (button : Button) :
    Settled pointers active first (pointers.button p button .pressed) where
  pending := by
    rw [documented.buttonPending]
    exact settled.pending
  focus := by
    rw [documented.pressFocus]
    exact settled.focus
  grab := by
    rw [documented.pressGrab]
    rcases settled.grab with grab | grab | grab
    · rw [grab]
      rcases settled.focus with focus | focus
      · exact .inr (.inl (by rw [Option.getD_none, focus]))
      · exact .inr (.inr (by rw [Option.getD_none, focus]))
    · exact .inr (.inl (by rw [grab]; rfl))
    · exact .inr (.inr (by rw [grab]; rfl))

theorem Settled.released (documented : pointers.Documented) {first : Option Surface}
    (settled : Settled pointers active first p) (button : Button) :
    Settled pointers active first (pointers.button p button .released) := by
  have pending : pointers.pending (pointers.button p button .released) = some active := by
    rw [documented.buttonPending]
    exact settled.pending
  by_cases kept : pointers.grab p = none ∨
      ¬ pointers.Idle (pointers.button p button .released)
  · obtain ⟨grab, focus⟩ := documented.releaseKept p button kept
    exact ⟨pending, by rw [focus]; exact settled.focus, by rw [grab]; exact settled.grab⟩
  · rw [not_or, not_not] at kept
    obtain ⟨grab, focus⟩ := documented.releaseLast p button kept.1 kept.2
    exact ⟨pending, .inr (by rw [focus, settled.pending]), .inl grab⟩

theorem Settled.scrolled (documented : pointers.Documented) {first : Option Surface}
    (settled : Settled pointers active first p) (dx dy : ℚ) :
    Settled pointers active first (pointers.axis p dx dy) where
  pending := by
    rw [documented.axisPending]
    exact settled.pending
  focus := by
    rw [documented.axisFocus]
    exact settled.focus
  grab := by
    rw [documented.axisGrab]
    exact settled.grab

theorem Tracks.settled (documented : pointers.Documented) {first : Option Surface}
    (tracks : Tracks pointers active p commands receivers)
    (settled : Settled pointers active first p) :
    ∀ got ∈ receivers, got = first ∨ got = some active := by
  induction tracks with
  | nil p =>
    intro got member
    cases member
  | move p position point others ih =>
    intro got member
    have moved := settled.moved documented point
    rcases List.mem_cons.mp member with rfl | later
    · exact moved.focus
    · exact ih moved got later
  | button p button state others ih =>
    intro got member
    rcases List.mem_cons.mp member with rfl | later
    · exact settled.focus
    · cases state with
      | pressed => exact ih (settled.pressed documented button) got later
      | released => exact ih (settled.released documented button) got later
  | axis p dx dy others ih =>
    intro got member
    rcases List.mem_cons.mp member with rfl | later
    · exact settled.focus
    · exact ih (settled.scrolled documented dx dy) got later

/-- A held button keeps the pointer. -/
structure Pinned (pointers : PointerHandle P) (pinned : Option Surface) (p : P) : Prop where
  grab : pointers.grab p = some pinned
  focus : pointers.focus p = pinned

theorem Pinned.moved (documented : pointers.Documented) {pinned : Option Surface}
    (held : pointers.grab p = some pinned) (target : Option Surface) (point : Point) :
    Pinned pointers pinned (pointers.motion p target point) where
  grab := by
    rw [documented.motionGrab]
    exact held
  focus := by
    rw [documented.motionFocus, held]
    rfl

theorem Pinned.pressed (documented : pointers.Documented) {pinned : Option Surface}
    (held : Pinned pointers pinned p) (button : Button) :
    Pinned pointers pinned (pointers.button p button .pressed) where
  grab := by
    rw [documented.pressGrab, held.grab]
    rfl
  focus := by
    rw [documented.pressFocus]
    exact held.focus

theorem Pinned.scrolled (documented : pointers.Documented) {pinned : Option Surface}
    (held : Pinned pointers pinned p) (dx dy : ℚ) :
    Pinned pointers pinned (pointers.axis p dx dy) where
  grab := by
    rw [documented.axisGrab]
    exact held.grab
  focus := by
    rw [documented.axisFocus]
    exact held.focus

def isRelease : RuntimeCommand → Bool
  | .pointerButton _ .released => true
  | _ => false

theorem Tracks.nonempty (tracks : Tracks pointers active p commands receivers)
    {got : Option Surface} (member : got ∈ receivers) : commands ≠ [] := by
  rintro rfl
  cases tracks
  cases member

theorem late_rest {command : RuntimeCommand} {rest : List RuntimeCommand} (more : rest ≠ [])
    (late : ∀ other ∈ (command :: rest).dropLast, isRelease other = false) :
    isRelease command = false ∧ ∀ other ∈ rest.dropLast, isRelease other = false := by
  rw [List.dropLast_cons_of_ne_nil more] at late
  exact ⟨late command List.mem_cons_self,
    fun other inside => late other (List.mem_cons_of_mem command inside)⟩

/-- Commands that release at most at their end stay with the surface that is pinned. -/
theorem Tracks.pinned (documented : pointers.Documented) {pinned : Option Surface}
    (tracks : Tracks pointers active p commands receivers) (held : Pinned pointers pinned p)
    (late : ∀ command ∈ commands.dropLast, isRelease command = false) :
    ∀ got ∈ receivers, got = pinned := by
  induction tracks with
  | nil p =>
    intro got member
    cases member
  | move p position point others ih =>
    intro got member
    have moved := Pinned.moved documented held.grab (some active) point
    rcases List.mem_cons.mp member with rfl | later
    · exact moved.focus
    · exact ih moved (late_rest (others.nonempty later) late).2 got later
  | button p button state others ih =>
    intro got member
    rcases List.mem_cons.mp member with rfl | later
    · exact held.focus
    · obtain ⟨early, rest⟩ := late_rest (others.nonempty later) late
      cases state with
      | pressed => exact ih (held.pressed documented button) rest got later
      | released => cases early
  | axis p dx dy others ih =>
    intro got member
    rcases List.mem_cons.mp member with rfl | later
    · exact held.focus
    · exact ih (held.scrolled documented dx dy) (late_rest (others.nonempty later) late).2 got
        later

def buttonOf : RuntimeCommand → Option Button
  | .pointerButton button _ => some button
  | _ => none

/-- Commands of one button stay with the pinned surface while another button is held. -/
theorem Tracks.held (documented : pointers.Documented) {pinned : Option Surface}
    (tracks : Tracks pointers active p commands receivers) (kept : Pinned pointers pinned p)
    {button other : Button} (differs : other ≠ button) (held : pointers.held p other = true)
    (own : ∀ command ∈ commands, ∀ used, buttonOf command = some used → used = button) :
    ∀ got ∈ receivers, got = pinned := by
  induction tracks with
  | nil p =>
    intro got member
    cases member
  | move p position point others ih =>
    intro got member
    have moved := Pinned.moved documented kept.grab (some active) point
    rcases List.mem_cons.mp member with rfl | later
    · exact moved.focus
    · exact ih moved (by rw [documented.motionHeld]; exact held)
        (fun command inside => own command (List.mem_cons_of_mem _ inside)) got later
  | button p used state others ih =>
    intro got member
    have same : used = button := own _ List.mem_cons_self used rfl
    subst same
    rcases List.mem_cons.mp member with rfl | later
    · exact kept.focus
    · have rest : ∀ command ∈ _, ∀ button, buttonOf command = some button → button = used :=
        fun command inside => own command (List.mem_cons_of_mem _ inside)
      cases state with
      | pressed =>
        refine ih (kept.pressed documented used) ?_ rest got later
        rw [documented.pressHeld, Function.update_of_ne differs]
        exact held
      | released =>
        have still : pointers.held (pointers.button p used .released) other = true := by
          rw [documented.releaseHeld, Function.update_of_ne differs]
          exact held
        have busy : ¬ pointers.Idle (pointers.button p used .released) := by
          intro idle
          rw [idle other] at still
          cases still
        obtain ⟨grab, focus⟩ := documented.releaseKept p used (.inr busy)
        exact ih ⟨by rw [grab]; exact kept.grab, by rw [focus]; exact kept.focus⟩ still rest got
          later
  | axis p dx dy others ih =>
    intro got member
    rcases List.mem_cons.mp member with rfl | later
    · exact kept.focus
    · exact ih (kept.scrolled documented dx dy) (by rw [documented.axisHeld]; exact held)
        (fun command inside => own command (List.mem_cons_of_mem _ inside)) got later

/-- A click that frees the pointer and presses again presses on the active window. -/
theorem Tracks.again (documented : pointers.Documented) {pinned : Option Surface}
    (grab : pointers.grab p = some pinned) {button : Button}
    (sole : ∀ other, other ≠ button → pointers.held p other = false) {position : Position}
    {rest : List RuntimeCommand}
    (tracks : Tracks pointers active p (.pointerMove position :: .pointerButton button .pressed ::
      .pointerButton button .released :: .pointerButton button .pressed :: rest) receivers) :
    some active ∈ receivers := by
  obtain - | ⟨_, _, point, moved⟩ := tracks
  have kept := Pinned.moved documented grab (some active) point
  have pressed := kept.pressed documented button
  have idle : pointers.Idle (pointers.button (pointers.button
      (pointers.motion p (some active) point) button .pressed) button .released) := by
    intro other
    rw [documented.releaseHeld, documented.pressHeld, documented.motionHeld]
    by_cases same : other = button
    · rw [same, Function.update_self]
    · rw [Function.update_of_ne same, Function.update_of_ne same]
      exact sole other same
  have grabbed : pointers.grab (pointers.button
      (pointers.motion p (some active) point) button .pressed) ≠ none := by
    rw [pressed.grab]
    exact Option.some_ne_none pinned
  obtain ⟨_, focus⟩ := documented.releaseLast _ button grabbed idle
  rw [documented.buttonPending, documented.motionPending] at focus
  obtain - | - | ⟨_, _, _, press⟩ := moved
  obtain - | - | ⟨_, _, _, release⟩ := press
  obtain - | - | ⟨_, _, _, _⟩ := release
  rw [focus]
  simp

end Tracks

/-! ## Which requests let the pointer go -/

/-- A request that presses again after it freed the pointer. -/
def Again (held : Button → Bool) (tail : List RuntimeCommand) : Prop :=
  ∃ button rest, tail = .pointerButton button .pressed :: .pointerButton button .released ::
    .pointerButton button .pressed :: rest ∧ ∀ other, other ≠ button → held other = false

/-- A request that releases at its end only, or while another button is held. -/
def Stays (held : Button → Bool) (commands : List RuntimeCommand) : Prop :=
  (∀ command ∈ commands.dropLast, isRelease command = false) ∨
    ∃ button other, other ≠ button ∧ held other = true ∧
      ∀ command ∈ commands, ∀ used, buttonOf command = some used → used = button

theorem click_commands_own (button : Button) (count : ℕ) :
    ∀ command ∈ clickCommands button count, ∀ used, buttonOf command = some used →
      used = button := by
  induction count with
  | zero =>
    intro command member
    cases member
  | succ count ih =>
    intro command member used named
    rcases List.mem_cons.mp member with rfl | member
    · exact (Option.some.inj named).symm
    · rcases List.mem_cons.mp member with rfl | member
      · exact (Option.some.inj named).symm
      · exact ih command member used named

/-- Several clicks: the pointer is let go between them, or another button keeps it. -/
theorem clicks_again_or_stay (held : Button → Bool) (position : Position) (button : Button)
    (count : ℕ) :
    (∀ other, other ≠ button → held other = false) ∧
        Again held (clickCommands button (count + 2)) ∨
      ¬ (∀ other, other ≠ button → held other = false) ∧
        Stays held (.pointerMove position :: clickCommands button (count + 2)) := by
  by_cases sole : ∀ other, other ≠ button → held other = false
  · exact .inl ⟨sole, button, _, rfl, sole⟩
  · refine .inr ⟨sole, .inr ?_⟩
    obtain ⟨other, some'⟩ := not_forall.mp sole
    obtain ⟨differs, busy⟩ := Classical.not_imp.mp some'
    refine ⟨button, other, differs, Bool.eq_true_of_not_eq_false busy, ?_⟩
    intro command member used named
    rcases List.mem_cons.mp member with rfl | later
    · cases named
    · exact click_commands_own button (count + 2) command later used named

/-- Every pointer request begins with a motion, and then presses again or stays. -/
theorem commands_shape {request : InputRequest} {windowId : WindowId}
    (named : pointerWindow request = some windowId) (rect : Rect) (cursor : Option Point)
    (held : Button → Bool) :
    ∃ position tail, commandsOf rect cursor request = .pointerMove position :: tail ∧
      (PressesAgain held request ∧ Again held tail ∨
        ¬ PressesAgain held request ∧ Stays held (.pointerMove position :: tail)) := by
  cases request with
  | click id position button count =>
    refine ⟨_, _, rfl, ?_⟩
    match count with
    | 0 => exact .inr ⟨(fun again => by cases again.1), .inl (by simp [clickCommands])⟩
    | 1 =>
      refine .inr ⟨(fun again => absurd again.1 (by decide)), .inl ?_⟩
      simp [clickCommands, isRelease]
    | count + 2 =>
      rcases clicks_again_or_stay held _ button count with ⟨sole, again⟩ | ⟨busy, stays⟩
      · exact .inl ⟨⟨Nat.le_add_left 2 count, sole⟩, again⟩
      · exact .inr ⟨(fun again => busy again.2), stays⟩
  | doubleClick id position button =>
    refine ⟨_, _, rfl, ?_⟩
    rcases clicks_again_or_stay held _ button 0 with ⟨sole, again⟩ | ⟨busy, stays⟩
    · exact .inl ⟨sole, again⟩
    · exact .inr ⟨busy, stays⟩
  | pointerMove | mouseDown | mouseUp | scroll | drag =>
    exact ⟨_, _, rfl, .inr ⟨id, .inl (by simp [isRelease])⟩⟩
  | keypress | keyDown | keyUp | typeText => cases named

/-- The receivers of a request all meet a condition exactly when the first of them does and, where
the request lets a pinned pointer go, the surface of the active window. -/
theorem receivers_iff {pointers : PointerHandle P} (documented : pointers.Documented)
    (good : Option Surface → Prop) {active : Surface} {p : P} {request : InputRequest}
    {windowId : WindowId} (named : pointerWindow request = some windowId) {rect : Rect}
    {cursor : Option Point} {receivers : List (Option Surface)}
    (tracks : Tracks pointers active p (commandsOf rect cursor request) receivers) :
    (∀ got ∈ receivers, good got) ↔
      match pointers.grab p with
      | none => good (some active)
      | some pinned => good pinned ∧ (PressesAgain (pointers.held p) request → good (some active)) := by
  obtain ⟨position, tail, shape, cases'⟩ := commands_shape named rect cursor (pointers.held p)
  rw [shape] at tracks
  have whole := tracks
  obtain - | ⟨_, _, point, others⟩ := tracks
  have first := documented.motionFocus p (some active) point
  have settled := others.settled documented (settled_motion documented active p point)
  cases grab : pointers.grab p with
  | none =>
    rw [grab, Option.getD_none] at first settled
    constructor
    · intro all
      rw [← first]
      exact all _ List.mem_cons_self
    · intro holds got member
      rcases List.mem_cons.mp member with rfl | later
      · rw [first]
        exact holds
      · rcases settled got later with rfl | rfl <;> exact holds
  | some pinned =>
    rw [grab, Option.getD_some] at first settled
    constructor
    · intro all
      refine ⟨?_, fun again => ?_⟩
      · rw [← first]
        exact all _ List.mem_cons_self
      · rcases cases' with ⟨_, button, rest, rfl, sole⟩ | ⟨never, _⟩
        · exact all _ (whole.again documented grab sole)
        · exact absurd again never
    · rintro ⟨holds, also⟩ got member
      rcases cases' with ⟨again, _⟩ | ⟨_, stays⟩
      · rcases List.mem_cons.mp member with rfl | later
        · rw [first]
          exact holds
        · rcases settled got later with rfl | rfl
          · exact holds
          · exact also again
      · have kept := Pinned.moved documented grab (some active) point
        have all : got = pinned := by
          rcases List.mem_cons.mp member with rfl | later
          · exact kept.focus
          · rcases stays with late | ⟨button, other, differs, held, own⟩
            · exact others.pinned documented kept
                (late_rest (others.nonempty later) late).2 got later
            · refine others.held documented kept differs ?_
                (fun command inside => own command (List.mem_cons_of_mem _ inside)) got later
              rw [documented.motionHeld]
              exact held
        rw [all]
        exact holds

/-! ## Pointer requests -/

theorem commands_of_pointer (rect : Rect) (cursor : Option Point) (request : InputRequest) :
    ∀ command ∈ commandsOf rect cursor request, isPointer command = true := by
  cases request with
  | click id position button count =>
    intro command member
    rcases List.mem_cons.mp member with rfl | later
    · rfl
    · exact click_commands_pointer button count command later
  | doubleClick id position button =>
    intro command member
    rcases List.mem_cons.mp member with rfl | later
    · rfl
    · exact click_commands_pointer button 2 command later
  | pointerMove | mouseDown | mouseUp | scroll | drag => simp [commandsOf, isPointer]
  | keypress | keyDown | keyUp | typeText =>
    intro command member
    cases member

/-- Every pointer event that a request for a window causes is delivered to a surface of the
window exactly when the window gets the pointer. -/
theorem pointer_request_reaches {P : Type} {pointers : PointerHandle P}
    (documented : pointers.Documented) (input : InputInjector) {xkb : Xkb} {desk : Desk P}
    {request : InputRequest} {windowId : WindowId} (named : pointerWindow request = some windowId)
    (known : (window desk.seat.wm.manager windowId).isSome) {task : Handler ActionResult}
    (ok : queued xkb request = .ok task) :
    (∀ delivery ∈ newDeliveries desk (run input pointers desk task).1,
        Reaches desk.seat.wm windowId delivery) ↔
      PointedAt pointers desk.seat windowId request := by
  obtain ⟨record, recorded⟩ := Option.isSome_iff_exists.mp known
  unfold PointedAt
  cases aimed : aim desk.seat with
  | none =>
    obtain ⟨error, failed⟩ :=
      fails_request input pointers aimed named recorded ok
    rw [failed]
    simp [newDeliveries]
  | some active =>
    obtain ⟨cursor, result, ran⟩ :=
      performs_request input pointers aimed named recorded ok
    obtain ⟨receivers, added, tracks, delivered, got⟩ := performed_tracks input pointers aimed
      (commands_of_pointer record.geometry desk.cursor request)
    have new : newDeliveries desk (run input pointers desk task).1 = added := by
      rw [ran]
      change (performAll input pointers desk.seat _).delivered.drop _ = added
      rw [delivered, List.drop_left]
    have listed : (∀ delivery ∈ added, Reaches desk.seat.wm windowId delivery) ↔
        ∀ addressee ∈ receivers, ∃ surface, addressee = some surface ∧
          BelongsTo desk.seat.wm windowId surface := by
      constructor
      · intro all addressee member
        have inside : some addressee ∈ added.map receiver := by
          rw [got]
          exact List.mem_map_of_mem member
        obtain ⟨delivery, delivered', found⟩ := List.mem_map.mp inside
        exact all delivery delivered' addressee found
      · intro all delivery member addressee found
        have inside : some addressee ∈ receivers.map some := by
          rw [← got, ← found]
          exact List.mem_map_of_mem member
        obtain ⟨same, member', equal⟩ := List.mem_map.mp inside
        cases equal
        exact all _ member'
    rw [new, listed, receivers_iff documented _ named tracks]
    simp

/-- An injector whose keymap has no key. -/
def noKeys : InputInjector := ⟨fun _ => none, none, none⟩

def pointingMachine : Machine (Seat ClickPointer) Request :=
  seatMachine noKeys clickPointers ⟨1280, 800⟩ .new

/-- Clients have mapped two windows; the second is active. -/
def twoWindowsSeat : Seat ClickPointer :=
  finalState pointingMachine anyStep
    [.client (.newToplevel 1), .client (.commit 1 [] true {} .empty), .client (.newToplevel 2),
      .client (.commit 2 [] true {} .empty)] (by decide +kernel)

/-- What a click delivers there. -/
def clickDeliveries (windowId : WindowId) (count : ℕ) : List Delivery :=
  newDeliveries ⟨twoWindowsSeat, none⟩
    (run noKeys clickPointers ⟨twoWindowsSeat, none⟩ (done (click windowId none .left count))).1

theorem pointer_request_reaches_active :
    (clickDeliveries ⟨2⟩ 2).length = 5 ∧
      ∀ delivery ∈ clickDeliveries ⟨2⟩ 2, Reaches twoWindowsSeat.wm ⟨2⟩ delivery := by
  have pointed : PointedAt clickPointers twoWindowsSeat ⟨2⟩ (.click ⟨2⟩ none .left 2) := by
    intro active aimed
    have second : aim twoWindowsSeat = some 2 := by decide +kernel
    have free : clickPointers.grab twoWindowsSeat.pointer = none := by decide +kernel
    rw [free]
    cases second.symm.trans aimed
    decide +kernel
  exact ⟨by decide +kernel, (@pointer_request_reaches ClickPointer clickPointers
    click_pointers_documented noKeys latinXkb ⟨twoWindowsSeat, none⟩ (.click ⟨2⟩ none .left 2) ⟨2⟩ rfl
    (by decide +kernel) _ rfl).mpr pointed⟩

/-- A click on the mapped but inactive window 1 goes to window 2. -/
theorem inactive_window_missed :
    Reachable pointingMachine anyStep twoWindowsSeat ∧
      (window twoWindowsSeat.wm.manager ⟨1⟩).isSome ∧
      ¬ ∀ delivery ∈ clickDeliveries ⟨1⟩ 1, Reaches twoWindowsSeat.wm ⟨1⟩ delivery := by
  refine ⟨final_state_reachable _ _ _ _, by decide +kernel, fun all => ?_⟩
  have moved := all (.motion (some 2) ⟨640, 400⟩) (by decide +kernel)
  obtain ⟨surface, same, belongs⟩ := moved (some 2) rfl
  cases same
  exact absurd belongs (by decide +kernel)

end ADesk.Server.Pointing
