/- ADesk/Server/Exclusion
   digest: When the commands of input requests of different connections do not interleave. -/

import ADesk.Server.InputQueue
import Mathlib.Data.List.Pairwise

set_option autoImplicit false

namespace ADesk.Server.Exclusion

open ADesk.Core.Event (Position)
open ADesk.Core.Ids (WindowId)
open ADesk.Compositor.Command
open ADesk.Compositor.Keys (Xkb)
open ADesk.Foundation.Execution
open ADesk.Foundation.FifoGate
open ADesk.Foundation.LogCut (split_append)
open ADesk.Foundation.Scripts
open ADesk.Server.Input
open ADesk.Server.InputQueue

/-! ## Pointer methods move before they press -/

/-- A pointer motion that the compositor accepted. -/
def isMove (served : Served) : Bool :=
  match served.command with
  | .command (.pointerMove _) done => done
  | _ => false

def isButton (served : Served) : Bool :=
  match served.command with
  | .command (.pointerButton ..) _ => true
  | _ => false

/-- Buttons are admitted once the method itself has moved the pointer. -/
def admits (aimed : Bool) : Call → Prop
  | .send (.pointerButton ..) => aimed = true
  | _ => True

def afterCall (aimed : Bool) : (call : Call) → Reply call → Bool
  | .send (.pointerMove _), reply => aimed || accepted reply
  | _, _ => aimed

/-- The program presses buttons only after a move of its own, and ends as `Q` says. -/
abbrev Aims {α : Type} (Q : Bool → Prop) (aimed : Bool) (script : Handler α) : Prop :=
  Script.Conforms admits afterCall (fun _ after => Q after) aimed script

section Aims

variable {α : Type} {Q : Bool → Prop} {aimed : Bool}

theorem aims_state (kept : Q aimed) : Aims Q aimed state := by
  refine ⟨trivial, fun reply => ?_⟩
  cases reply with
  | none => exact trivial
  | some snapshot => exact kept

theorem aims_send (windowId : Option WindowId) {command : RuntimeCommand}
    (admitted : admits aimed (.send command))
    (done : Q (afterCall aimed (.send command) (some (.ok ())))) :
    Aims Q aimed (sendUnit windowId command) := by
  refine ⟨admitted, fun reply => ?_⟩
  match reply with
  | none => exact trivial
  | some (.error error) => exact trivial
  | some (.ok ()) => exact done

theorem aims_sequence {β : Type} {R : Bool → Prop} {script : Handler α}
    {rest : α → Handler β} (first : Aims R aimed script)
    (then_ : ∀ result after, R after → Aims Q after (rest result)) :
    Aims Q aimed (script >>= rest) :=
  Script.conforms_bind first then_

theorem aims_window_rect (windowId : WindowId) (kept : Q aimed) :
    Aims Q aimed (windowRect windowId) := by
  refine aims_sequence (aims_state (Q := fun after => after = aimed) rfl) ?_
  rintro snapshot after rfl
  cases snapshot.window windowId with
  | none => exact trivial
  | some window => exact kept

theorem aims_move_pointer (windowId : WindowId) (position : Position)
    (rect : Core.Geometry.Rect) :
    Aims (fun after => after = true) aimed (movePointer windowId position rect) := by
  refine aims_sequence (aims_send (Q := fun after => after = true) _ trivial ?_) ?_
  · exact Bool.or_true aimed
  · rintro _ after rfl
    exact ⟨trivial, fun _ => rfl⟩

theorem aims_move_to (windowId : WindowId) (requested : Option Position) :
    Aims (fun after => after = true) aimed (moveTo windowId requested) := by
  refine aims_sequence (aims_window_rect (Q := fun _ => True) windowId trivial) ?_
  intro rect after _
  exact ⟨trivial, fun cursor => aims_move_pointer ..⟩

theorem aims_button (windowId : WindowId) (button : Button) (state : ButtonState) :
    Aims (fun after => after = true) true (buttonEvent windowId button state) :=
  aims_send _ rfl rfl

theorem aims_click_times (windowId : WindowId) (button : Button) (count : ℕ) :
    Aims (fun after => after = true) true (clickTimes windowId button count) := by
  induction count with
  | zero => exact rfl
  | succ count ih =>
    refine aims_sequence (aims_button windowId button .pressed) ?_
    rintro _ after rfl
    refine aims_sequence (aims_button windowId button .released) ?_
    rintro _ after rfl
    exact ih

theorem aims_sleep (millis : ℕ) (kept : Q aimed) : Aims Q aimed (sleep millis) :=
  ⟨trivial, fun _ => kept⟩

theorem aims_hold (durationMs : ℕ) :
    Aims (fun after => after = true) true (hold durationMs) := by
  unfold hold
  split
  · exact aims_sleep durationMs rfl
  · exact rfl

theorem aims_activate (windowId : Option WindowId) :
    Aims (fun _ => True) aimed (activateIfNeeded windowId) := by
  cases windowId with
  | none => exact trivial
  | some windowId =>
    refine aims_sequence (aims_state (Q := fun _ => True) trivial) fun snapshot after _ => ?_
    cases snapshot.window windowId with
    | none => exact trivial
    | some window =>
      simp only
      split
      · exact trivial
      · exact aims_send _ trivial trivial

theorem aims_key_action (windowId : Option WindowId) (key : Compositor.Keys.KeyCode)
    (state : Compositor.Keys.KeyState) :
    Aims (fun _ => True) aimed (keyAction windowId key state) :=
  aims_sequence (aims_activate windowId) fun _ _ _ => aims_send _ trivial trivial

theorem aims_type_character (xkb : Xkb) (character : Char) :
    Aims (fun _ => True) aimed (typeCharacter xkb character) := by
  unfold typeCharacter
  split
  · exact trivial
  · refine ⟨trivial, fun reply => ?_⟩
    match reply with
    | none => exact trivial
    | some (.ok ()) => exact trivial
    | some (.error error) =>
      simp only
      split <;> exact trivial

theorem aims_type_characters (xkb : Xkb) (text : List Char) :
    Aims (fun _ => True) aimed (typeCharacters xkb text) := by
  induction text generalizing aimed with
  | nil => exact trivial
  | cons character rest ih =>
    refine aims_sequence (aims_type_character xkb character) fun typed after _ => ?_
    exact aims_sequence ih fun _ _ _ => trivial

end Aims

/-- Every method presses buttons only after it has moved the pointer itself. -/
theorem queued_aims {xkb : Xkb} {request : InputRequest} {task : Handler ActionResult}
    (ok : queued xkb request = .ok task) : Aims (fun _ => True) false task := by
  have ended : ∀ {script : Handler Unit} {Q : Bool → Prop}, Aims Q false script →
      Aims (fun _ => True) false (done script) :=
    fun aims => aims_sequence aims fun _ _ _ => trivial
  cases request with
  | pointerMove windowId position =>
    cases ok
    exact ended (aims_sequence (aims_window_rect (Q := fun _ => True) windowId trivial)
      fun _ _ _ => aims_move_pointer ..)
  | click windowId position button count =>
    cases ok
    refine ended (Q := fun after => after = true)
      (aims_sequence (aims_move_to windowId position) ?_)
    rintro _ after rfl
    exact aims_click_times ..
  | doubleClick windowId position button =>
    cases ok
    refine ended (Q := fun after => after = true)
      (aims_sequence (aims_move_to windowId position) ?_)
    rintro _ after rfl
    refine aims_sequence (aims_click_times windowId button 1) ?_
    rintro _ after rfl
    refine aims_sequence (aims_sleep (Q := fun after => after = true) _ rfl) ?_
    rintro _ after rfl
    exact aims_click_times ..
  | mouseDown windowId position button =>
    cases ok
    refine ended (Q := fun after => after = true)
      (aims_sequence (aims_move_to windowId position) ?_)
    rintro _ after rfl
    exact aims_button ..
  | mouseUp windowId position button =>
    cases ok
    refine ended (Q := fun after => after = true)
      (aims_sequence (aims_move_to windowId position) ?_)
    rintro _ after rfl
    exact aims_button ..
  | scroll windowId position dx dy =>
    cases ok
    exact ended (Q := fun _ => True) (aims_sequence (aims_move_to windowId position)
      fun _ _ _ => aims_send _ trivial trivial)
  | drag windowId start finish button durationMs =>
    cases ok
    refine ended (Q := fun after => after = true)
      (aims_sequence (aims_window_rect (Q := fun _ => True) windowId trivial) ?_)
    intro rect after _
    refine aims_sequence (aims_move_pointer windowId start rect) ?_
    rintro _ after rfl
    refine aims_sequence (aims_button windowId button .pressed) ?_
    rintro _ after rfl
    refine aims_sequence (aims_move_pointer windowId finish rect) ?_
    rintro _ after rfl
    refine aims_sequence (aims_hold durationMs) ?_
    rintro _ after rfl
    exact aims_button ..
  | keypress keys windowId =>
    simp only [queued] at ok
    cases parsed : Compositor.Keys.parseChord xkb keys.keys with
    | error error =>
      rw [parsed] at ok
      cases ok
    | ok key =>
      rw [parsed] at ok
      cases ok
      exact ended (aims_key_action ..)
  | keyDown key windowId =>
    simp only [queued] at ok
    cases parsed : Compositor.Keys.parseKey xkb key with
    | error error =>
      rw [parsed] at ok
      cases ok
    | ok key =>
      rw [parsed] at ok
      cases ok
      exact ended (aims_key_action ..)
  | keyUp key windowId =>
    simp only [queued] at ok
    cases parsed : Compositor.Keys.parseKey xkb key with
    | error error =>
      rw [parsed] at ok
      cases ok
    | ok key =>
      rw [parsed] at ok
      cases ok
      exact ended (aims_key_action ..)
  | typeText text windowId =>
    cases ok
    exact aims_sequence (aims_activate windowId) fun _ _ _ => aims_type_characters xkb text

/-! ## All connections: one request at a time -/

/-- The last motion of the pointer. -/
def lastMove (log : List Served) : Option Served := log.reverse.find? isMove

theorem last_move_append (log : List Served) (served : Served) :
    lastMove (log ++ [served]) = if isMove served then some served else lastMove log := by
  rw [lastMove, List.reverse_append, List.reverse_singleton, List.singleton_append,
    List.find?_cons]
  cases isMove served <;> rfl

theorem last_move_mem {log : List Served} {move : Served} (found : lastMove log = some move) :
    move ∈ log :=
  List.mem_reverse.mp (List.mem_of_find?_eq_some found)

/-- The pointer is where the request moved it. -/
def aimed (owner : ℕ × ℕ) (log : List Served) : Bool :=
  decide ((lastMove log).map Served.owner = some owner)

theorem aimed_of_absent {owner : ℕ × ℕ} {log : List Served}
    (absent : ∀ served ∈ log, served.owner ≠ owner) : aimed owner log = false := by
  refine decide_eq_false fun same => ?_
  obtain ⟨move, found, named⟩ := Option.map_eq_some_iff.mp same
  exact absent move (last_move_mem found) named

theorem aimed_append (log : List Served) (served : Served) :
    aimed served.owner (log ++ [served]) = (aimed served.owner log || isMove served) := by
  rw [aimed, last_move_append]
  cases isMove served with
  | true =>
    rw [Bool.or_true]
    exact decide_eq_true rfl
  | false =>
    rw [Bool.or_false]
    rfl

/-- The request has issued a command and its gated part has not ended. -/
def TaskPhase.begun : TaskPhase → Bool
  | .queued begun _ => begun
  | .unread | .spawned _ | .answered => false

/-- The holder of the gate is between its commands. -/
def busy (connection : Connection) : Bool :=
  connection.gate.holder.any fun index => TaskPhase.begun (connection.tasks index)

/-- A request issues its first command only while no other connection is between the commands of
a request. -/
def OneAtATime (s : InputQueue.State) : Label → Prop
  | .advance connection index _ =>
    TaskPhase.begun ((s.connections connection).tasks index) = false →
      ∀ other < s.accepted, other ≠ connection → busy (s.connections other) = false
  | _ => True

instance (s : InputQueue.State) : ∀ label, Decidable (OneAtATime s label)
  | .advance .. => inferInstanceAs (Decidable (_ → ∀ other < _, _))
  | .accept | .read .. | .poll .. | .finish .. | .cancel .. => inferInstanceAs (Decidable True)

/-- Every button event comes at the position that its own request moved the pointer to. -/
def ButtonsAimed (log : List Served) : Prop :=
  ∀ before button after, log = before ++ button :: after → isButton button = true →
    ∃ move, lastMove before = some move ∧ move.owner = button.owner

theorem buttons_append {log : List Served} (buttons : ButtonsAimed log) {served : Served}
    (new : isButton served = true → aimed served.owner log = true) :
    ButtonsAimed (log ++ [served]) := by
  intro before button after split pressed
  rcases split_append split with ⟨_, old, rfl⟩ | ⟨kept, _, old⟩
  · rw [← old]
    exact Option.map_eq_some_iff.mp (of_decide_eq_true (new pressed))
  · exact buttons before button kept old pressed

structure Serialized (s : InputQueue.State) : Prop where
  idle : ∀ connection, s.accepted ≤ connection → s.connections connection = Connection.new
  holding : ∀ connection index, TaskPhase.begun ((s.connections connection).tasks index) = true →
    (s.connections connection).gate.holder = some index
  alone : ∀ one other, busy (s.connections one) = true → busy (s.connections other) = true →
    one = other
  owned : ∀ served ∈ s.log,
    TaskPhase.begun ((s.connections served.connection).tasks served.request) = true ∨
      (s.connections served.connection).tasks served.request = .answered
  current : ∀ connection index,
    TaskPhase.begun ((s.connections connection).tasks index) = true →
      Current Served.owner (connection, index) s.log
  aims : ∀ connection index begun task,
    (s.connections connection).tasks index = .queued begun task →
      Aims (fun _ => True) (aimed (connection, index) s.log) task
  blocks : Contiguous Served.owner s.log
  buttons : ButtonsAimed s.log

namespace Serialized

variable {xkb : Xkb} {s t : InputQueue.State} {label : Label} {moved index : ℕ}
  {changed : Connection} {issued : List ServedCommand}

theorem busy_iff (serialized : Serialized s) (connection : ℕ) :
    busy (s.connections connection) = true ↔
      ∃ index, TaskPhase.begun ((s.connections connection).tasks index) = true := by
  rw [busy, Option.any_eq_true]
  constructor
  · rintro ⟨index, _, begun⟩
    exact ⟨index, begun⟩
  · rintro ⟨index, begun⟩
    exact ⟨index, serialized.holding connection index begun, begun⟩

theorem move_known (serialized : Serialized s)
    (move : Move xkb s moved (s.connections moved) label changed index issued) :
    moved < s.accepted := by
  by_contra beyond
  have new := serialized.idle moved (Nat.le_of_not_lt beyond)
  cases move with
  | read _ known => exact beyond known
  | entered _ _ _ spawned =>
    rw [new] at spawned
    cases spawned
  | refused _ _ _ spawned =>
    rw [new] at spawned
    cases spawned
  | advanced _ _ _ _ _ _ _ _ _ running =>
    rw [new] at running
    cases running
  | left _ _ _ _ running =>
    rw [new] at running
    cases running

/-- A request that has begun holds its gate, and so does the one that moves: while one request
is between its commands, no other connection's request begins. -/
theorem sole_begun (serialized : Serialized s) (known : moved < s.accepted)
    (holds : (s.connections moved).gate.holder = some index)
    (allowed : TaskPhase.begun ((s.connections moved).tasks index) = false →
      ∀ other < s.accepted, other ≠ moved → busy (s.connections other) = false)
    {connection other : ℕ}
    (begun : TaskPhase.begun ((s.connections connection).tasks other) = true) :
    (connection, other) = (moved, index) := by
  have here : connection = moved := by
    by_contra elsewhere
    have occupied := (serialized.busy_iff connection).mpr ⟨other, begun⟩
    cases own : TaskPhase.begun ((s.connections moved).tasks index) with
    | true =>
      exact elsewhere (serialized.alone connection moved occupied
        ((serialized.busy_iff moved).mpr ⟨index, own⟩))
    | false =>
      have reached : connection < s.accepted := by
        by_contra beyond
        rw [serialized.idle connection (Nat.le_of_not_lt beyond)] at begun
        cases begun
      rw [allowed own connection reached elsewhere] at occupied
      cases occupied
  subst here
  have held := serialized.holding connection other begun
  rw [holds] at held
  rw [Option.some.inj held]

theorem absent_of_unbegun (serialized : Serialized s) {connection other : ℕ}
    (waiting : TaskPhase.begun ((s.connections connection).tasks other) = false)
    (unanswered : (s.connections connection).tasks other ≠ .answered) :
    ∀ served ∈ s.log, served.owner ≠ (connection, other) := by
  rintro served member same
  cases same
  rcases serialized.owned served member with begun | answered
  · rw [waiting] at begun
    cases begun
  · exact unanswered answered

/-- What the moved request was and becomes. -/
theorem moved_phase (fresh : Fresh s)
    (move : Move xkb s moved (s.connections moved) label changed index issued) :
    (s.connections moved).tasks index ≠ .answered ∧
      (TaskPhase.begun ((s.connections moved).tasks index) = true →
        TaskPhase.begun (changed.tasks index) = true ∨ changed.tasks index = .answered) := by
  cases move with
  | read =>
    rw [fresh moved _ (Nat.le_refl _)]
    exact ⟨TaskPhase.noConfusion, fun begun => absurd begun Bool.false_ne_true⟩
  | entered _ _ _ spawned =>
    rw [spawned]
    exact ⟨TaskPhase.noConfusion, fun begun => absurd begun Bool.false_ne_true⟩
  | refused _ _ _ spawned =>
    rw [spawned]
    exact ⟨TaskPhase.noConfusion, fun begun => absurd begun Bool.false_ne_true⟩
  | advanced _ begun _ _ _ _ issued rest _ running =>
    rw [running]
    refine ⟨TaskPhase.noConfusion, fun started => .inl ?_⟩
    rw [set_task_self]
    change (begun || issued.isSome) = true
    rw [show begun = true from started, Bool.true_or]
  | left _ _ _ _ running =>
    rw [running]
    exact ⟨TaskPhase.noConfusion, fun _ => .inr (set_task_self ..)⟩

/-- Only a request that issues a command begins. -/
theorem moved_begun
    (move : Move xkb s moved (s.connections moved) label changed index issued)
    (begun : TaskPhase.begun (changed.tasks index) = true) :
    (s.connections moved).gate.holder = some index ∧
      changed.gate = (s.connections moved).gate ∧
      (TaskPhase.begun ((s.connections moved).tasks index) = true ∨ issued ≠ []) := by
  cases move with
  | read | refused | left =>
    rw [set_task_self] at begun
    cases begun
  | entered =>
    rw [set_task_self] at begun
    cases begun
  | advanced _ started _ _ _ _ issued _ holds running =>
    rw [set_task_self] at begun
    refine ⟨holds, rfl, ?_⟩
    rw [running]
    cases issued with
    | none => exact .inl ((Bool.or_false started).symm.trans begun)
    | some command => exact .inr (List.cons_ne_nil _ _)

/-- The holder keeps the gate while another request of its connection moves. -/
theorem move_keeps_holder
    (move : Move xkb s moved (s.connections moved) label changed index issued) {other : ℕ}
    (differs : other ≠ index) (holds : (s.connections moved).gate.holder = some other) :
    changed.gate.holder = some other := by
  cases move with
  | read | refused | advanced => exact holds
  | entered => exact Gate.enter_holder holds index
  | left => exact Gate.leave_holder holds differs.symm

theorem begun_before
    (move : Move xkb s moved (s.connections moved) label changed index issued)
    (connections : t.connections = Function.update s.connections moved changed)
    {connection other : ℕ}
    (begun : TaskPhase.begun ((t.connections connection).tasks other) = true) :
    TaskPhase.begun ((s.connections connection).tasks other) = true ∨
      (connection, other) = (moved, index) ∧ issued ≠ [] := by
  by_cases same : (connection, other) = (moved, index)
  · cases same
    rw [connections, Function.update_self] at begun
    rcases (moved_begun move begun).2.2 with before | issuing
    · exact .inl before
    · exact .inr ⟨rfl, issuing⟩
  · rw [move_others move connections same] at begun
    exact .inl begun

theorem step_holding (serialized : Serialized s)
    (move : Move xkb s moved (s.connections moved) label changed index issued)
    (connections : t.connections = Function.update s.connections moved changed)
    (connection other : ℕ)
    (begun : TaskPhase.begun ((t.connections connection).tasks other) = true) :
    (t.connections connection).gate.holder = some other := by
  by_cases same : (connection, other) = (moved, index)
  · cases same
    rw [connections, Function.update_self] at begun ⊢
    obtain ⟨holds, gate, _⟩ := moved_begun move begun
    rw [gate]
    exact holds
  · rw [move_others move connections same] at begun
    have holds := serialized.holding connection other begun
    rw [connections]
    by_cases here : connection = moved
    · subst here
      rw [Function.update_self]
      exact move_keeps_holder move (fun equal => same (by rw [equal])) holds
    · rw [Function.update_of_ne here]
      exact holds

/-- Begun requests stay begun until they are answered. -/
theorem step_owned (serialized : Serialized s) (fresh : Fresh s)
    (move : Move xkb s moved (s.connections moved) label changed index issued)
    (connections : t.connections = Function.update s.connections moved changed)
    (served : Served) (member : served ∈ s.log) :
    TaskPhase.begun ((t.connections served.connection).tasks served.request) = true ∨
      (t.connections served.connection).tasks served.request = .answered := by
  have before := serialized.owned served member
  by_cases same : (served.connection, served.request) = (moved, index)
  · obtain ⟨here, there⟩ := Prod.ext_iff.mp same
    simp only at here there
    obtain ⟨unanswered, onward⟩ := moved_phase fresh move
    rw [here, there] at before ⊢
    rw [connections, Function.update_self]
    rcases before with begun | answered
    · exact onward begun
    · exact absurd answered unanswered
  · rw [move_others move connections same]
    exact before

end Serialized

/-- A call that is answered goes on with a reply; a command is a motion or a button exactly when
the call is. -/
theorem answer_call_spec {cursor moved : Option Core.Geometry.Point} {pending : Call}
    {next : Reply pending → Handler ActionResult} {answer : Answer}
    {issued : Option ServedCommand} {rest : Handler ActionResult}
    (answered : answerCall cursor pending next answer = some (moved, issued, rest))
    (before : Bool) :
    ∃ reply, rest = next reply ∧
      (issued = none → afterCall before pending reply = before) ∧
      ∀ served : Served, issued = some served.command →
        afterCall before pending reply = (before || isMove served) ∧
          (admits before pending → isButton served = true → before = true) := by
  cases pending with
  | queryState =>
    cases answer with
    | snapshot reply =>
      cases answered
      refine ⟨reply, rfl, fun _ => rfl, ?_⟩
      rintro ⟨_, _, command⟩ same
      cases same
      exact ⟨(Bool.or_false before).symm, fun _ button => nomatch button⟩
    | outcome | passed => cases answered
  | send command =>
    cases answer with
    | outcome reply =>
      cases answered
      refine ⟨reply, rfl, (fun absent => nomatch absent), ?_⟩
      rintro ⟨_, _, command⟩ same
      cases same
      cases command with
      | pointerMove position => exact ⟨rfl, fun _ button => nomatch button⟩
      | pointerButton button state =>
        exact ⟨(Bool.or_false before).symm, fun admitted _ => admitted⟩
      | activateWindow | pointerAxis | keyEvent =>
        exact ⟨(Bool.or_false before).symm, fun _ button => nomatch button⟩
    | snapshot | passed => cases answered
  | sleep =>
    cases answer with
    | passed =>
      cases answered
      exact ⟨(), rfl, fun _ => rfl, fun _ same => nomatch same⟩
    | snapshot | outcome => cases answered
  | cursorGet =>
    cases answer with
    | passed =>
      cases answered
      exact ⟨cursor, rfl, fun _ => rfl, fun _ same => nomatch same⟩
    | snapshot | outcome => cases answered
  | cursorSet =>
    cases answer with
    | passed =>
      cases answered
      exact ⟨(), rfl, fun _ => rfl, fun _ same => nomatch same⟩
    | snapshot | outcome => cases answered

namespace Serialized

variable {xkb : Xkb} {s t : InputQueue.State} {label : Label} {moved index : ℕ}
  {changed : Connection} {issued : List ServedCommand}

/-- The task of the moved request still presses only where it has moved to. -/
theorem moved_aims (serialized : Serialized s)
    (move : Move xkb s moved (s.connections moved) label changed index issued)
    (log : t.log = s.log ++ issued.map (Served.mk moved index)) {begun : Bool}
    {task : Handler ActionResult} (queued : changed.tasks index = .queued begun task) :
    Aims (fun _ => True) (aimed (moved, index) t.log) task := by
  cases move with
  | read | refused | left =>
    rw [set_task_self] at queued
    cases queued
  | entered _ _ _ spawned ok =>
    rw [set_task_self] at queued
    cases queued
    have absent : ∀ served ∈ s.log, served.owner ≠ (moved, index) :=
      serialized.absent_of_unbegun (by rw [spawned]; rfl)
        (by rw [spawned]; exact TaskPhase.noConfusion)
    rw [log, List.map_nil, List.append_nil, aimed_of_absent absent]
    exact queued_aims ok
  | advanced _ started pending next answer cursor command rest _ running answered =>
    rw [set_task_self] at queued
    cases queued
    obtain ⟨_, onward⟩ := serialized.aims moved index started _ running
    obtain ⟨reply, rfl, quiet, effect⟩ := answer_call_spec answered (aimed (moved, index) s.log)
    have kept := onward reply
    cases command with
    | none =>
      rw [log, Option.toList_none, List.map_nil, List.append_nil, ← quiet rfl]
      exact kept
    | some command =>
      have after : aimed (moved, index) (s.log ++ [⟨moved, index, command⟩]) =
          (aimed (moved, index) s.log || isMove ⟨moved, index, command⟩) :=
        aimed_append s.log ⟨moved, index, command⟩
      rw [log, Option.toList_some, List.map_singleton, after, ← (effect _ rfl).1]
      exact kept

/-- What a step keeps when the request that moves issues no command. -/
theorem step_quiet (serialized : Serialized s) (fresh : Fresh s)
    (move : Move xkb s moved (s.connections moved) label changed index [])
    (accepted : t.accepted = s.accepted)
    (connections : t.connections = Function.update s.connections moved changed)
    (log : t.log = s.log) : Serialized t := by
  have known := serialized.move_known move
  have began : ∀ connection other,
      TaskPhase.begun ((t.connections connection).tasks other) = true →
        TaskPhase.begun ((s.connections connection).tasks other) = true := by
    intro connection other begun
    rcases begun_before move connections begun with before | ⟨_, issuing⟩
    · exact before
    · exact absurd rfl issuing
  have holding := serialized.step_holding move connections
  have occupied : ∀ connection, busy (t.connections connection) = true →
      busy (s.connections connection) = true := by
    intro connection busy
    obtain ⟨other, _, begun⟩ := (Option.any_eq_true _ _).mp busy
    exact (serialized.busy_iff connection).mpr ⟨other, began connection other begun⟩
  refine ⟨?_, holding, ?_, ?_, ?_, ?_, ?_, ?_⟩
  · intro connection beyond
    rw [accepted] at beyond
    rw [connections, Function.update_of_ne (Nat.ne_of_gt (Nat.lt_of_lt_of_le known beyond))]
    exact serialized.idle connection beyond
  · exact fun one other first second =>
      serialized.alone one other (occupied one first) (occupied other second)
  · rw [log]
    exact serialized.step_owned fresh move connections
  · rw [log]
    exact fun connection other begun =>
      serialized.current connection other (began connection other begun)
  · intro connection other begun task queued
    by_cases same : (connection, other) = (moved, index)
    · cases same
      rw [connections, Function.update_self] at queued
      exact serialized.moved_aims move (log.trans (List.append_nil _).symm) queued
    · rw [move_others move connections same] at queued
      rw [log]
      exact serialized.aims connection other begun task queued
  · rw [log]
    exact serialized.blocks
  · rw [log]
    exact serialized.buttons

/-- The request that issues a command holds its gate, is the only one between its commands, and
presses a button only where it has moved to. -/
theorem issuing_move (serialized : Serialized s)
    (move : Move xkb s moved (s.connections moved) label changed index issued)
    (allowed : OneAtATime s label) {command : ServedCommand} (member : command ∈ issued) :
    issued = [command] ∧
      (∀ connection other, TaskPhase.begun ((s.connections connection).tasks other) = true →
        (connection, other) = (moved, index)) ∧
      (isButton ⟨moved, index, command⟩ = true → aimed (moved, index) s.log = true) := by
  have known := serialized.move_known move
  cases move with
  | read | entered | refused | left => cases member
  | advanced _ started pending next answer cursor commands rest holds running answered =>
    have same : commands = some command := Option.mem_toList.mp member
    subst same
    refine ⟨rfl, fun connection other => serialized.sole_begun known holds allowed, ?_⟩
    intro pressed
    obtain ⟨admitted, _⟩ := serialized.aims moved index started _ running
    obtain ⟨_, _, _, effect⟩ := answer_call_spec answered (aimed (moved, index) s.log)
    exact (effect _ rfl).2 admitted pressed

/-- What a step keeps when the request that moves issues a command. -/
theorem step_issuing (serialized : Serialized s) (fresh : Fresh s)
    (move : Move xkb s moved (s.connections moved) label changed index issued)
    (allowed : OneAtATime s label) {command : ServedCommand} (member : command ∈ issued)
    (accepted : t.accepted = s.accepted)
    (connections : t.connections = Function.update s.connections moved changed)
    (log : t.log = s.log ++ issued.map (Served.mk moved index)) : Serialized t := by
  have known := serialized.move_known move
  obtain ⟨single, sole, aimedFirst⟩ := serialized.issuing_move move allowed member
  have began : ∀ connection other,
      TaskPhase.begun ((t.connections connection).tasks other) = true →
        (connection, other) = (moved, index) := by
    intro connection other begun
    rcases begun_before move connections begun with before | ⟨same, _⟩
    · exact sole connection other before
    · exact same
  have appended : t.log = s.log ++ [⟨moved, index, command⟩] := by
    rw [log, single]
    rfl
  -- the log of the moved request ends the log, or is empty
  have current : Current Served.owner (moved, index) s.log := by
    cases own : TaskPhase.begun ((s.connections moved).tasks index) with
    | true => exact serialized.current moved index own
    | false =>
      exact current_of_absent
        (serialized.absent_of_unbegun own (moved_phase fresh move).1)
  have issuer : TaskPhase.begun ((t.connections moved).tasks index) = true := by
    rw [connections, Function.update_self]
    cases move with
    | read | entered | refused | left => cases member
    | advanced _ started _ _ _ _ commands =>
      rw [set_task_self]
      change (started || commands.isSome) = true
      rw [Option.mem_toList.mp member]
      exact Bool.or_true started
  refine ⟨?_, serialized.step_holding move connections, ?_, ?_, ?_, ?_, ?_, ?_⟩
  · intro connection beyond
    rw [accepted] at beyond
    rw [connections, Function.update_of_ne (Nat.ne_of_gt (Nat.lt_of_lt_of_le known beyond))]
    exact serialized.idle connection beyond
  · intro one other first second
    obtain ⟨index₁, _, begun₁⟩ := (Option.any_eq_true _ _).mp first
    obtain ⟨index₂, _, begun₂⟩ := (Option.any_eq_true _ _).mp second
    have here : one = moved := (Prod.ext_iff.mp (began one index₁ begun₁)).1
    have there : other = moved := (Prod.ext_iff.mp (began other index₂ begun₂)).1
    exact here.trans there.symm
  · intro served inside
    rw [appended, List.mem_append, List.mem_singleton] at inside
    rcases inside with old | rfl
    · exact serialized.step_owned fresh move connections served old
    · exact .inl issuer
  · intro connection other begun
    cases began connection other begun
    rw [appended]
    exact current.append rfl
  · intro connection other begun task queued
    by_cases same : (connection, other) = (moved, index)
    · cases same
      rw [connections, Function.update_self] at queued
      exact serialized.moved_aims move log queued
    · -- the task has issued nothing yet, and it has not moved
      have before := queued
      rw [move_others move connections same] at before
      have waits : TaskPhase.begun ((s.connections connection).tasks other) = false := by
        by_contra begun
        exact same (sole connection other (Bool.eq_true_of_not_eq_false begun))
      have absent := serialized.absent_of_unbegun waits
        (by rw [before]; exact TaskPhase.noConfusion)
      have later : ∀ served ∈ t.log, served.owner ≠ (connection, other) := by
        intro served inside
        rw [appended, List.mem_append, List.mem_singleton] at inside
        rcases inside with old | rfl
        · exact absent served old
        · exact fun equal => same equal.symm
      have aims := serialized.aims connection other begun task before
      rw [aimed_of_absent absent] at aims
      rw [aimed_of_absent later]
      exact aims
  · rw [appended]
    exact contiguous_append serialized.blocks current
  · rw [appended]
    exact buttons_append serialized.buttons aimedFirst

end Serialized

theorem serialized_new : Serialized InputQueue.State.new where
  idle _ _ := rfl
  holding _ _ begun := absurd begun Bool.false_ne_true
  alone _ _ busy := absurd busy Bool.false_ne_true
  owned _ member := absurd member List.not_mem_nil
  current _ _ begun := absurd begun Bool.false_ne_true
  aims _ _ _ _ queued := nomatch queued
  blocks := contiguous_nil _
  buttons before button after split := by
    have lengths := congrArg List.length split
    simp [InputQueue.State.new] at lengths

theorem serialized_of_reachable {xkb : Xkb} {s : InputQueue.State}
    (reached : Reachable (queueMachine xkb) OneAtATime s) : Serialized s := by
  refine invariant_relative (P := Serialized) fresh_of_reachable serialized_new ?_ reached
  intro before after label fresh _ serialized allowed taken
  rcases step_cases taken with
    rfl | ⟨moved, changed, index, issued, move, accepted, connections, log⟩
  · exact ⟨fun connection beyond => serialized.idle connection (Nat.le_of_succ_le beyond),
      serialized.holding, serialized.alone, serialized.owned, serialized.current, serialized.aims,
      serialized.blocks, serialized.buttons⟩
  · cases issued with
    | nil =>
      have same : after.log = before.log := log.trans (List.append_nil _)
      exact serialized.step_quiet fresh move accepted connections same
    | cons command rest =>
      exact serialized.step_issuing fresh move allowed List.mem_cons_self accepted connections log

/-- When a request starts to issue commands only while no other connection is between the
commands of a request, the compositor serves every request's commands in one block, and every
button event comes where its own request moved the pointer to. -/
theorem input_serialized {xkb : Xkb} {s : InputQueue.State}
    (reached : Reachable (queueMachine xkb) OneAtATime s) :
    Contiguous Served.owner s.log ∧ ButtonsAimed s.log :=
  ⟨(serialized_of_reachable reached).blocks, (serialized_of_reachable reached).buttons⟩

/-- What the compositor answers to a state query: two tiles. -/
def twoWindows : StateSnapshot :=
  ⟨[⟨⟨1⟩, ⟨0, 0, 100, 100⟩⟩, ⟨⟨2⟩, ⟨100, 0, 100, 100⟩⟩], some ⟨1⟩, some ⟨1⟩⟩

/-- A connection clicks; its request is polled and moves the pointer. -/
def clickStarts (connection : ℕ) (windowId : WindowId) : List Label :=
  [.read connection (.click windowId none .left 1), .poll connection 0,
    .advance connection 0 (.snapshot (some twoWindows)), .advance connection 0 .passed,
    .advance connection 0 (.outcome (some (.ok ()))), .advance connection 0 .passed]

/-- The click presses and releases the button. -/
def clickEnds (connection : ℕ) : List Label :=
  [.advance connection 0 (.outcome (some (.ok ()))),
    .advance connection 0 (.outcome (some (.ok ()))), .finish connection 0]

/-- Two clicks of two connections, one after the other. -/
def clicksInTurn : InputQueue.State :=
  finalState (queueMachine Compositor.Keys.latinXkb) OneAtATime
    ([.accept, .accept] ++ clickStarts 0 ⟨1⟩ ++ clickEnds 0 ++ clickStarts 1 ⟨2⟩ ++ clickEnds 1)
    (by decide +kernel)

theorem input_serialized_in_turn :
    clicksInTurn.log.length = 8 ∧ Contiguous Served.owner clicksInTurn.log ∧
      ButtonsAimed clicksInTurn.log :=
  ⟨by decide +kernel, input_serialized (final_state_reachable _ _ _ _)⟩

/-- The second connection moves the pointer between the motion and the button of the first. -/
def clicksAtOnce : InputQueue.State :=
  finalState (queueMachine Compositor.Keys.latinXkb) anyStep
    ([.accept, .accept] ++ clickStarts 0 ⟨1⟩ ++ clickStarts 1 ⟨2⟩ ++ clickEnds 0)
    (by decide +kernel)

/-- The button of window 1 is pressed where the request for window 2 moved the pointer to. -/
theorem clicks_interleave :
    Reachable (queueMachine Compositor.Keys.latinXkb) anyStep clicksAtOnce ∧
      ¬ Contiguous Served.owner clicksAtOnce.log ∧ ¬ ButtonsAimed clicksAtOnce.log := by
  have log : clicksAtOnce.log = [⟨0, 0, .queryState⟩,
      ⟨0, 0, .command (.pointerMove (.normalized (1 / 2) (1 / 2))) true⟩, ⟨1, 0, .queryState⟩,
      ⟨1, 0, .command (.pointerMove (.normalized (1 / 2) (1 / 2))) true⟩,
      ⟨0, 0, .command (.pointerButton .left .pressed) true⟩,
      ⟨0, 0, .command (.pointerButton .left .released) true⟩] := by decide +kernel
  refine ⟨final_state_reachable _ _ _ _, fun blocks => ?_, fun buttons => ?_⟩
  · rw [log] at blocks
    have owners := blocks [_] [_, _] [_] _ _ rfl rfl _ List.mem_cons_self
    exact absurd owners (by decide)
  · rw [log] at buttons
    obtain ⟨move, found, owner⟩ := buttons [_, _, _, _] _ [_] rfl rfl
    cases found
    exact absurd owner (by decide)

end ADesk.Server.Exclusion
