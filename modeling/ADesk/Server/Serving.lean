/- ADesk/Server/Serving
   digest: Input methods served by the seat, one call after the other. -/

import ADesk.Compositor.Inject
import ADesk.Server.Input

set_option autoImplicit false

namespace ADesk.Server.Serving

open ADesk.Core.Geometry (Point)
open ADesk.Core.Ids (WindowId)
open ADesk.Compositor.Command
open ADesk.Compositor.Inject
open ADesk.Compositor.Keys
open ADesk.Foundation.Scripts
open ADesk.Server.Input
open ADesk.Wm.Policy (WindowRecord window)

/-- The seat with the cursor that the server tracks beside it. -/
structure Desk (P : Type) where
  seat : Seat P
  cursor : Option Point

variable {P : Type} {α β : Type}

/-- The reply to a call and the desk after it. -/
def answer (input : InputInjector) (pointers : PointerHandle P) (desk : Desk P) :
    (request : Call) → Desk P × Reply request
  | .queryState => (desk, some desk.seat.snapshot)
  | .send command =>
    let served := desk.seat.serve input pointers command
    ({ desk with seat := served.1 }, some served.2)
  | .sleep _ => (desk, ())
  | .cursorGet => (desk, desk.cursor)
  | .cursorSet point => ({ desk with cursor := some point }, ())

/-- Runs an input method with nothing in between. -/
def run (input : InputInjector) (pointers : PointerHandle P) (desk : Desk P) (method : Handler α) :
    Desk P × Except ServerError α :=
  Script.serve (answer input pointers) desk method

variable {input : InputInjector} {pointers : PointerHandle P} {desk : Desk P}

theorem run_bind {after : Desk P} {first : Handler α} {rest : α → Handler β} {result : α}
    (ran : run input pointers desk first = (after, .ok result)) :
    run input pointers desk (first >>= rest) = run input pointers after (rest result) := by
  unfold run at ran ⊢
  rw [Script.serve_bind, ran]

theorem run_bind_error {after : Desk P} {first : Handler α} {rest : α → Handler β}
    {error : ServerError} (ran : run input pointers desk first = (after, .error error)) :
    run input pointers desk (first >>= rest) = (after, .error error) := by
  unfold run at ran ⊢
  rw [Script.serve_bind, ran]

/-- A command that is served, and how the method goes on with its reply. -/
theorem run_call {command : RuntimeCommand} {after : Seat P} {reply : Except CoreError Unit}
    (served : desk.seat.serve input pointers command = (after, reply))
    (next : Option (Except CoreError Unit) → Handler α) :
    run input pointers desk (.call (.send command) next) =
      run input pointers { desk with seat := after } (next (some reply)) := by
  have desk_after : (answer input pointers desk (.send command)).1 =
      { desk with seat := after } := by
    change ({ desk with seat := (desk.seat.serve input pointers command).1 } : Desk P) = _
    rw [served]
  have replied : (answer input pointers desk (.send command)).2 = some reply := by
    change some (desk.seat.serve input pointers command).2 = _
    rw [served]
  unfold run
  rw [Script.serve_call, desk_after, replied]

theorem serve_performed {seat served : Seat P} {command : RuntimeCommand}
    (performed : seat.perform input pointers command = .ok served) :
    seat.serve input pointers command = (served, .ok ()) := by
  rw [Seat.serve, performed]

theorem serve_refused {seat : Seat P} {command : RuntimeCommand} {error : CompositorError}
    (refused : seat.perform input pointers command = .error error) :
    seat.serve input pointers command = (seat, .error error.toCore) := by
  rw [Seat.serve, refused]

theorem run_send {windowId : Option WindowId} {command : RuntimeCommand} {served : Seat P}
    (performed : desk.seat.perform input pointers command = .ok served) :
    run input pointers desk (sendUnit windowId command) =
      ({ desk with seat := served }, .ok ()) :=
  run_call (serve_performed performed) _

theorem run_send_error {windowId : Option WindowId} {command : RuntimeCommand}
    {error : CompositorError}
    (refused : desk.seat.perform input pointers command = .error error) :
    run input pointers desk (sendUnit windowId command) =
      (desk, .error (commandError windowId error.toCore)) :=
  run_call (serve_refused refused) _

theorem snapshot_window (seat : Seat P) (windowId : WindowId) :
    seat.snapshot.window windowId =
      (window seat.wm.manager windowId).map fun record => ⟨record.id, record.geometry⟩ := by
  change (seat.wm.manager.records.map _).find? _ = _
  rw [List.find?_map]
  rfl

theorem run_window_rect {windowId : WindowId} {record : WindowRecord}
    (known : window desk.seat.wm.manager windowId = some record) :
    run input pointers desk (windowRect windowId) = (desk, .ok record.geometry) := by
  have found := snapshot_window desk.seat windowId
  rw [known] at found
  have answered : run input pointers desk state = (desk, .ok desk.seat.snapshot) := rfl
  unfold windowRect
  rw [run_bind answered, found]
  rfl

end ADesk.Server.Serving
