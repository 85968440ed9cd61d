/- ADesk/Viewer/Session
   digest: Viewer sessions, the change signal they share and the pump that feeds it, one await a
   step. -/

import ADesk.Core.Event
import ADesk.Foundation.Broadcast
import ADesk.Foundation.Execution
import ADesk.Foundation.NotifyOne

set_option autoImplicit false

namespace ADesk.Viewer.Session

open ADesk.Core.Event (RuntimeEvent)
open ADesk.Foundation.Broadcast
open ADesk.Foundation.Execution (Machine)
open ADesk.Foundation.NotifyOne

/-- Whether an event changes what a viewer would see. -/
def isDesktopChange : RuntimeEvent → Bool
  | .surfaceCommit .. | .windowActivated .. | .windowCreated .. | .windowDestroyed ..
  | .titleChanged .. => true
  | _ => false

/-- Where a session stands in its select loop. `paced` tells the pacing arm from the change arm;
the position of a frame is the number of events sent before it was rendered, and there is none
when rendering failed. -/
inductive Phase
  | selecting
  | parked
  | deciding
  | rendering (paced : Bool)
  | writing (paced : Bool) (frame : Option ℕ)
  | handling
  | closed
  deriving DecidableEq

/-- One attached viewer. The last two fields are history variables: the number of events sent
when the session attached, and the position of the newest frame it streamed. -/
structure Attached where
  minIntervalMs : ℕ
  lastSent : Option ℕ
  pending : Bool
  phase : Phase
  attachedAt : ℕ
  shown : ℕ
  deriving DecidableEq

def Attached.attach (minIntervalMs attachedAt : ℕ) : Attached :=
  ⟨minIntervalMs, none, false, .selecting, attachedAt, 0⟩

/-- The pacing interval in nanoseconds. -/
def Attached.interval (viewer : Attached) : ℕ := viewer.minIntervalMs * 1000000

/-- The interval since the last pushed frame is over. -/
def Attached.due (viewer : Attached) (now : ℕ) : Bool :=
  viewer.lastSent.all fun last => decide (last + viewer.interval ≤ now)

/-- The sessions in the order they attached, the signal they share and the change pump, which
owes a notification between receiving a change and reporting it. -/
structure State where
  channel : Channel RuntimeEvent
  cursor : Cursor
  owes : Bool
  signal : Signal ℕ
  sessions : List Attached
  now : ℕ

/-- The pump subscribes before the first event. -/
def State.new (slots : ℕ) : State := ⟨Channel.new slots, ⟨0⟩, false, Signal.new, [], 0⟩

/-- The next move of a session: its first poll of the signal, its wakeup, the pacing deadline,
another arm of the select (a message or a reply) and the end of that arm's body, and the steps
of `push_frame`. A session can end at any await. -/
inductive Act
  | poll | wake | decide | pace | other | handled | render | fail | write | close
  deriving DecidableEq

inductive Label
  | tick (nanos : ℕ)
  | emit (event : RuntimeEvent)
  | pumpRecv
  | pumpNotify
  | attach (minIntervalMs : ℕ)
  | session (id : ℕ) (act : Act)
  deriving DecidableEq

/-- The signal when the wait of a session is dropped, if it has one. -/
def dropWait (signal : Signal ℕ) (id : ℕ) (viewer : Attached) : Signal ℕ :=
  if viewer.phase = .parked then signal.cancel id else signal

/-- The session is in its select, with the wait for a change registered or not. -/
def Attached.inSelect (viewer : Attached) : Bool :=
  viewer.phase = .selecting || viewer.phase = .parked

def advance (s : State) (id : ℕ) (viewer : Attached) : Act → Option (Signal ℕ × Attached)
  | .poll =>
    if viewer.phase = .selecting then
      let polled := s.signal.poll id
      some (polled.1, { viewer with phase := if polled.2 then .deciding else .parked })
    else none
  | .wake =>
    if viewer.phase = .parked ∧ id ∈ s.signal.woken then
      some (s.signal.complete id, { viewer with phase := .deciding })
    else none
  | .decide =>
    if viewer.phase = .deciding then
      if viewer.interval = 0 || viewer.due s.now then
        some (s.signal, { viewer with phase := .rendering false })
      else some (s.signal, { viewer with pending := true, phase := .selecting })
    else none
  | .pace =>
    if viewer.inSelect && viewer.pending && viewer.due s.now then
      some (dropWait s.signal id viewer, { viewer with pending := false, phase := .rendering true })
    else none
  | .other =>
    if viewer.inSelect then
      some (dropWait s.signal id viewer, { viewer with phase := .handling })
    else none
  | .handled =>
    if viewer.phase = .handling then some (s.signal, { viewer with phase := .selecting }) else none
  | .render =>
    match viewer.phase with
    | .rendering paced =>
      some (s.signal, { viewer with phase := .writing paced (some s.channel.sent.length) })
    | _ => none
  | .fail =>
    match viewer.phase with
    | .rendering paced => some (s.signal, { viewer with phase := .writing paced none })
    | _ => none
  | .write =>
    match viewer.phase with
    | .writing paced frame =>
      some (s.signal,
        { viewer with
          lastSent := some s.now
          pending := paced && viewer.pending
          shown := max viewer.shown (frame.getD 0)
          phase := .selecting })
    | _ => none
  | .close =>
    if viewer.phase = .closed then none
    else some (dropWait s.signal id viewer, { viewer with phase := .closed })

/-- What an action does to the signal and to its session. -/
inductive Moved (s : State) (id : ℕ) (viewer : Attached) : Act → Signal ℕ → Attached → Prop
  | took (selecting : viewer.phase = .selecting) (stored : s.signal.permit = true) :
    Moved s id viewer .poll (s.signal.poll id).1 { viewer with phase := .deciding }
  | parked (selecting : viewer.phase = .selecting) (absent : s.signal.permit = false) :
    Moved s id viewer .poll (s.signal.poll id).1 { viewer with phase := .parked }
  | woken (waits : viewer.phase = .parked) (member : id ∈ s.signal.woken) :
    Moved s id viewer .wake (s.signal.complete id) { viewer with phase := .deciding }
  | pushed (deciding : viewer.phase = .deciding) :
    Moved s id viewer .decide s.signal { viewer with phase := .rendering false }
  | postponed (deciding : viewer.phase = .deciding) :
    Moved s id viewer .decide s.signal { viewer with pending := true, phase := .selecting }
  | flushed (selects : viewer.inSelect = true) (pending : viewer.pending = true) :
    Moved s id viewer .pace (dropWait s.signal id viewer)
      { viewer with pending := false, phase := .rendering true }
  | left (selects : viewer.inSelect = true) :
    Moved s id viewer .other (dropWait s.signal id viewer) { viewer with phase := .handling }
  | handled (handling : viewer.phase = .handling) :
    Moved s id viewer .handled s.signal { viewer with phase := .selecting }
  | rendered {paced : Bool} (rendering : viewer.phase = .rendering paced) :
    Moved s id viewer .render s.signal
      { viewer with phase := .writing paced (some s.channel.sent.length) }
  | failed {paced : Bool} (rendering : viewer.phase = .rendering paced) :
    Moved s id viewer .fail s.signal { viewer with phase := .writing paced none }
  | written {paced : Bool} {frame : Option ℕ} (writing : viewer.phase = .writing paced frame) :
    Moved s id viewer .write s.signal
      { viewer with
        lastSent := some s.now
        pending := paced && viewer.pending
        shown := max viewer.shown (frame.getD 0)
        phase := .selecting }
  | closed (live : viewer.phase ≠ .closed) :
    Moved s id viewer .close (dropWait s.signal id viewer) { viewer with phase := .closed }

theorem moved_of_advance {s : State} {id : ℕ} {viewer : Attached} {act : Act}
    {moved : Signal ℕ × Attached} (taken : advance s id viewer act = some moved) :
    Moved s id viewer act moved.1 moved.2 := by
  cases act with
  | poll =>
    obtain ⟨selecting, same⟩ := Option.ite_none_right_eq_some.mp taken
    cases same
    cases permit : s.signal.permit with
    | true =>
      rw [(Signal.poll_taken permit id).1]
      exact .took selecting permit
    | false =>
      rw [(Signal.poll_registered permit id).1]
      exact .parked selecting permit
  | wake =>
    obtain ⟨waits, same⟩ := Option.ite_none_right_eq_some.mp taken
    cases same
    exact .woken waits.1 waits.2
  | decide =>
    obtain ⟨deciding, chosen⟩ := Option.ite_none_right_eq_some.mp taken
    split at chosen <;> cases chosen
    · exact .pushed deciding
    · exact .postponed deciding
  | pace =>
    obtain ⟨ready, same⟩ := Option.ite_none_right_eq_some.mp taken
    cases same
    rw [Bool.and_eq_true, Bool.and_eq_true] at ready
    exact .flushed ready.1.1 ready.1.2
  | other =>
    obtain ⟨selects, same⟩ := Option.ite_none_right_eq_some.mp taken
    cases same
    exact .left selects
  | handled =>
    obtain ⟨handling, same⟩ := Option.ite_none_right_eq_some.mp taken
    cases same
    exact .handled handling
  | render =>
    simp only [advance] at taken
    split at taken <;> cases taken
    exact .rendered (by assumption)
  | fail =>
    simp only [advance] at taken
    split at taken <;> cases taken
    exact .failed (by assumption)
  | write =>
    simp only [advance] at taken
    split at taken <;> cases taken
    exact .written (by assumption)
  | close =>
    obtain ⟨live, same⟩ := Option.ite_none_left_eq_some.mp taken
    cases same
    exact .closed live

/-- The pump takes the next event, or learns that it missed some. -/
def pumpRecv (s : State) : Option State :=
  if s.owes then none
  else
    match s.channel.recv s.cursor with
    | (.lagged _, cursor) => some { s with cursor := cursor, owes := true }
    | (.value event, cursor) => some { s with cursor := cursor, owes := isDesktopChange event }
    | (.empty, _) => none

def step (s : State) : Label → Option State
  | .tick nanos => some { s with now := s.now + nanos }
  | .emit event => some { s with channel := s.channel.send event }
  | .pumpRecv => pumpRecv s
  | .pumpNotify => if s.owes then some { s with owes := false, signal := s.signal.notify } else none
  | .attach minIntervalMs =>
    some { s with
      sessions := s.sessions ++ [Attached.attach minIntervalMs s.channel.sent.length] }
  | .session id act =>
    (s.sessions[id]?).bind fun viewer =>
      (advance s id viewer act).map fun moved =>
        { s with signal := moved.1, sessions := s.sessions.set id moved.2 }

/-- A session's step changes the signal and that session. -/
theorem session_step {s t : State} {id : ℕ} {act : Act} (taken : step s (.session id act) = some t) :
    ∃ viewer signal after, s.sessions[id]? = some viewer ∧ Moved s id viewer act signal after ∧
      t = { s with signal := signal, sessions := s.sessions.set id after } := by
  obtain ⟨viewer, present, rest⟩ := Option.bind_eq_some_iff.mp taken
  obtain ⟨moved, advanced, rfl⟩ := Option.map_eq_some_iff.mp rest
  exact ⟨viewer, moved.1, moved.2, present, moved_of_advance advanced, rfl⟩

/-- Any number of viewer sessions on one runtime. -/
def machine (slots : ℕ) : Machine State Label := ⟨State.new slots, step⟩

end ADesk.Viewer.Session
