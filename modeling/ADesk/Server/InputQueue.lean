/- ADesk/Server/InputQueue
   digest: Request tasks of any number of connections, each connection with its own input gate. -/

import ADesk.Foundation.Execution
import ADesk.Foundation.FifoGate
import ADesk.Server.Input

set_option autoImplicit false

namespace ADesk.Server.InputQueue

open ADesk.Core.Geometry (Point)
open ADesk.Compositor.Command
open ADesk.Compositor.Keys (Xkb)
open ADesk.Foundation.Execution
open ADesk.Foundation.FifoGate
open ADesk.Foundation.Scripts
open ADesk.Server.Input

/-! ## The machine -/

/-- Where the task of one request stands. `begun` tells whether it has issued a command. -/
inductive TaskPhase
  | unread
  | spawned (request : InputRequest)
  | queued (begun : Bool) (task : Handler ActionResult)
  | answered

/-- A connection: how many input requests were read, their tasks in read order and the gate. -/
structure Connection where
  read : ℕ
  tasks : ℕ → TaskPhase
  gate : Gate ℕ

def Connection.new : Connection := ⟨0, fun _ => .unread, Gate.empty⟩

/-- A command as the compositor serves it; a reply that carries no error counts as done. -/
inductive ServedCommand
  | queryState
  | command (command : RuntimeCommand) (done : Bool)
  deriving DecidableEq

/-- One command in the order of the compositor's channel, with the request it belongs to. -/
structure Served where
  connection : ℕ
  request : ℕ
  command : ServedCommand
  deriving DecidableEq

def Served.owner (served : Served) : ℕ × ℕ := (served.connection, served.request)

structure State where
  accepted : ℕ
  connections : ℕ → Connection
  cursor : Option Point
  log : List Served

def State.new : State := ⟨0, fun _ => Connection.new, none, []⟩

/-- The reply to the pending call of a task. -/
inductive Answer
  | snapshot (reply : Option StateSnapshot)
  | outcome (reply : Option (Except CoreError Unit))
  | passed

inductive Label
  | accept
  | read (connection : ℕ) (request : InputRequest)
  | poll (connection request : ℕ)
  | advance (connection request : ℕ) (answer : Answer)
  | finish (connection request : ℕ)
  | cancel (connection request : ℕ)

def State.update (s : State) (connection : ℕ) (changed : Connection) : State :=
  { s with connections := Function.update s.connections connection changed }

def Connection.setTask (connection : Connection) (request : ℕ) (phase : TaskPhase) : Connection :=
  { connection with tasks := Function.update connection.tasks request phase }

@[simp] theorem set_task_self (connection : Connection) (request : ℕ) (phase : TaskPhase) :
    (connection.setTask request phase).tasks request = phase :=
  Function.update_self ..

theorem set_task_other (connection : Connection) {request other : ℕ} (differs : other ≠ request)
    (phase : TaskPhase) :
    (connection.setTask request phase).tasks other = connection.tasks other :=
  Function.update_of_ne differs ..

/-- The reply is `Ok(())`. -/
def accepted (reply : Option (Except CoreError Unit)) : Bool :=
  match reply with
  | some (.ok ()) => true
  | _ => false

/-- The pending call of a task served: the cursor and the commands issued, and how the task goes
on. -/
def answerCall (cursor : Option Point) (request : Call) (next : Reply request → Handler ActionResult)
    (answer : Answer) : Option (Option Point × Option ServedCommand × Handler ActionResult) :=
  match request, next, answer with
  | .queryState, next, .snapshot reply => some (cursor, some .queryState, next reply)
  | .send command, next, .outcome reply =>
    some (cursor, some (.command command (accepted reply)), next reply)
  | .sleep _, next, .passed => some (cursor, none, next ())
  | .cursorGet, next, .passed => some (cursor, none, next cursor)
  | .cursorSet point, next, .passed => some (some point, none, next ())
  | _, _, _ => none

/-- The holder of the gate of a connection makes its next call. -/
def advance (s : State) (connection request : ℕ) (answer : Answer) : Option State :=
  let owner := s.connections connection
  if owner.gate.holder = some request then
    match owner.tasks request with
    | .queued begun (.call pending next) =>
      match answerCall s.cursor pending next answer with
      | some (cursor, issued, rest) =>
        some
          { s.update connection (owner.setTask request (.queued (begun || issued.isSome) rest)) with
            cursor := cursor
            log := s.log ++ issued.toList.map (Served.mk connection request) }
      | none => none
    | _ => none
  else none

def step (xkb : Xkb) (s : State) : Label → Option State
  | .accept => some { s with accepted := s.accepted + 1 }
  | .read connection request =>
    let owner := s.connections connection
    if connection < s.accepted then
      some (s.update connection
        { owner.setTask owner.read (.spawned request) with read := owner.read + 1 })
    else none
  | .poll connection request =>
    -- the first poll runs the handler up to the gate, where it starts to wait
    let owner := s.connections connection
    match owner.tasks request with
    | .spawned input =>
      match queued xkb input with
      | .ok task =>
        some (s.update connection
          { owner.setTask request (.queued false task) with gate := owner.gate.enter request })
      | .error _ => some (s.update connection (owner.setTask request .answered))
    | _ => none
  | .advance connection request answer => advance s connection request answer
  | .finish connection request =>
    -- the guard is dropped with the future it guards
    let owner := s.connections connection
    if owner.gate.holder = some request then
      match owner.tasks request with
      | .queued _ (.done _) | .queued _ (.fail _) =>
        some (s.update connection
          { owner.setTask request .answered with gate := owner.gate.leave request })
      | _ => none
    else none
  | .cancel connection request =>
    -- shutdown drops the future of the request wherever it stands
    let owner := s.connections connection
    match owner.tasks request with
    | .spawned _ => some (s.update connection (owner.setTask request .answered))
    | .queued .. =>
      some (s.update connection
        { owner.setTask request .answered with gate := owner.gate.leave request })
    | _ => none

/-- The read loops and request tasks of a server. -/
def queueMachine (xkb : Xkb) : Machine State Label := ⟨State.new, step xkb⟩

/-! ## What one step can do -/

/-- The gate of the request has been entered, or the request needs it no more. -/
def TaskPhase.polled : TaskPhase → Bool
  | .unread | .spawned _ => false
  | .queued .. | .answered => true

/-- How a step changes one connection, the request it moves and the commands it issues. -/
inductive Move (xkb : Xkb) (s : State) (connection : ℕ) (owner : Connection) :
    Label → Connection → ℕ → List ServedCommand → Prop
  | read (request : InputRequest) (known : connection < s.accepted) :
      Move xkb s connection owner (.read connection request)
        { owner.setTask owner.read (.spawned request) with read := owner.read + 1 } owner.read []
  | entered (index : ℕ) (request : InputRequest) (task : Handler ActionResult)
      (spawned : owner.tasks index = .spawned request) (ok : queued xkb request = .ok task) :
      Move xkb s connection owner (.poll connection index)
        { owner.setTask index (.queued false task) with gate := owner.gate.enter index } index []
  | refused (label : Label) (index : ℕ) (request : InputRequest)
      (spawned : owner.tasks index = .spawned request) :
      Move xkb s connection owner label (owner.setTask index .answered) index []
  | advanced (index : ℕ) (begun : Bool) (pending : Call)
      (next : Reply pending → Handler ActionResult) (answer : Answer) (cursor : Option Point)
      (issued : Option ServedCommand) (rest : Handler ActionResult)
      (holds : owner.gate.holder = some index)
      (running : owner.tasks index = .queued begun (.call pending next))
      (answered : answerCall s.cursor pending next answer = some (cursor, issued, rest)) :
      Move xkb s connection owner (.advance connection index answer)
        (owner.setTask index (.queued (begun || issued.isSome) rest)) index issued.toList
  | left (label : Label) (index : ℕ) (begun : Bool) (task : Handler ActionResult)
      (queued : owner.tasks index = .queued begun task) :
      Move xkb s connection owner label
        { owner.setTask index .answered with gate := owner.gate.leave index } index []

/-- Every step accepts a connection or moves one connection. -/
theorem step_cases {xkb : Xkb} {s t : State} {label : Label} (taken : step xkb s label = some t) :
    t = { s with accepted := s.accepted + 1 } ∨
      ∃ connection changed index issued,
        Move xkb s connection (s.connections connection) label changed index issued ∧
        t.accepted = s.accepted ∧
        t.connections = Function.update s.connections connection changed ∧
        t.log = s.log ++ issued.map (Served.mk connection index) := by
  cases label with
  | accept =>
    cases taken
    exact .inl rfl
  | read connection request =>
    simp only [step] at taken
    split at taken
    · next known =>
      cases taken
      exact .inr ⟨connection, _, _, [], .read request known, rfl, rfl, (List.append_nil _).symm⟩
    · cases taken
  | poll connection index =>
    simp only [step] at taken
    split at taken
    · next request spawned =>
      split at taken
      · next task ok =>
        cases taken
        exact .inr ⟨connection, _, index, [], .entered index request task spawned ok, rfl, rfl,
          (List.append_nil _).symm⟩
      · cases taken
        exact .inr ⟨connection, _, index, [], .refused _ index request spawned, rfl, rfl,
          (List.append_nil _).symm⟩
    · cases taken
  | advance connection index answer =>
    simp only [step, advance] at taken
    split at taken
    · next holds =>
      split at taken
      · next begun pending next running =>
        split at taken
        · next cursor issued rest answered =>
          cases taken
          exact .inr ⟨connection, _, index, issued.toList,
            .advanced index begun pending next answer cursor issued rest holds running answered,
            rfl, rfl, rfl⟩
        · cases taken
      · cases taken
    · cases taken
  | finish connection index =>
    simp only [step] at taken
    split at taken
    · split at taken
      · next begun result running =>
        cases taken
        exact .inr ⟨connection, _, index, [], .left _ index begun _ running, rfl, rfl,
          (List.append_nil _).symm⟩
      · next begun error running =>
        cases taken
        exact .inr ⟨connection, _, index, [], .left _ index begun _ running, rfl, rfl,
          (List.append_nil _).symm⟩
      · cases taken
    · cases taken
  | cancel connection index =>
    simp only [step] at taken
    split at taken
    · next request spawned =>
      cases taken
      exact .inr ⟨connection, _, index, [], .refused _ index request spawned, rfl, rfl,
        (List.append_nil _).symm⟩
    · next begun task running =>
      cases taken
      exact .inr ⟨connection, _, index, [], .left _ index begun task running, rfl, rfl,
        (List.append_nil _).symm⟩
    · cases taken

/-- A step leaves every other task, every other gate and the requests not yet read alone. -/
theorem move_others {xkb : Xkb} {s t : State} {label : Label} {moved index : ℕ}
    {changed : Connection} {issued : List ServedCommand}
    (move : Move xkb s moved (s.connections moved) label changed index issued)
    (connections : t.connections = Function.update s.connections moved changed)
    {connection other : ℕ} (differs : (connection, other) ≠ (moved, index)) :
    (t.connections connection).tasks other = (s.connections connection).tasks other := by
  rw [connections]
  by_cases same : connection = moved
  · subst same
    have different : other ≠ index := fun equal => differs (by rw [equal])
    rw [Function.update_self]
    cases move with
    | read => exact set_task_other _ different _
    | entered => exact set_task_other _ different _
    | refused => exact set_task_other _ different _
    | advanced => exact set_task_other _ different _
    | left => exact set_task_other _ different _
  · rw [Function.update_of_ne same]

/-- Requests beyond those read have no task. -/
def Fresh (s : State) : Prop :=
  ∀ connection index, (s.connections connection).read ≤ index →
    (s.connections connection).tasks index = .unread

theorem move_fresh {xkb : Xkb} {s t : State} {label : Label} {moved index : ℕ}
    {changed : Connection} {issued : List ServedCommand} (fresh : Fresh s)
    (move : Move xkb s moved (s.connections moved) label changed index issued)
    (connections : t.connections = Function.update s.connections moved changed) : Fresh t := by
  have read : (s.connections moved).read ≤ changed.read ∧
      (changed.read ≤ index → (s.connections moved).read ≤ index ∧
        (s.connections moved).tasks index ≠ .unread) := by
    cases move with
    | read => exact ⟨Nat.le_succ _, fun beyond => absurd beyond (Nat.not_succ_le_self _)⟩
    | entered _ _ _ spawned =>
      exact ⟨Nat.le_refl _, fun beyond => ⟨beyond, by rw [spawned]; simp⟩⟩
    | refused _ _ _ spawned =>
      exact ⟨Nat.le_refl _, fun beyond => ⟨beyond, by rw [spawned]; simp⟩⟩
    | advanced _ _ _ _ _ _ _ _ _ running =>
      exact ⟨Nat.le_refl _, fun beyond => ⟨beyond, by rw [running]; simp⟩⟩
    | left _ _ _ _ running =>
      exact ⟨Nat.le_refl _, fun beyond => ⟨beyond, by rw [running]; simp⟩⟩
  intro connection other beyond
  by_cases same : (connection, other) = (moved, index)
  · cases same
    rw [connections, Function.update_self] at beyond
    obtain ⟨before, known⟩ := read.2 beyond
    exact absurd (fresh moved index before) known
  · rw [move_others move connections same]
    refine fresh connection other (Nat.le_trans ?_ beyond)
    by_cases here : connection = moved
    · subst here
      rw [connections, Function.update_self]
      exact read.1
    · rw [connections, Function.update_of_ne here]

theorem fresh_of_reachable {xkb : Xkb} {allowed : State → Label → Prop} {s : State}
    (reached : Reachable (queueMachine xkb) allowed s) : Fresh s := by
  refine Inductive.holds (P := Fresh) ⟨fun _ _ _ => rfl, ?_⟩ reached
  intro before after label fresh _ taken
  rcases step_cases taken with rfl | ⟨_, _, _, _, move, _, connections, _⟩
  · exact fresh
  · exact move_fresh fresh move connections

end ADesk.Server.InputQueue
