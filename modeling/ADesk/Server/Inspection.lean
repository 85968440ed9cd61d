/- ADesk/Server/Inspection
   digest: Inspection refreshes over one shared cache, what the callers paint from it, and when a
   snapshot is one state of the compositor and a picture the caller's own. -/

import Mathlib.Data.List.Basic
import ADesk.Compositor.State
import ADesk.Core.Position
import ADesk.Foundation.Entries
import ADesk.Foundation.Execution
import ADesk.Observer.Actions

set_option autoImplicit false

namespace ADesk.Server.Inspection

open ADesk.Compositor.State (CompositorState StateSnapshot ClientRequest Command)
open ADesk.Core.Event (RuntimeEvent)
open ADesk.Core.Geometry
open ADesk.Core.Ids (ActionId WindowId)
open ADesk.Foundation.Entries (set_entry)
open ADesk.Foundation.Execution
open ADesk.Observer.Actions (ActionKind ActionRecord)
open ADesk.Observer.State (WindowTemporalState)
open ADesk.Wm.Policy (WindowRecord)

universe u v w

/-! ## Snapshots -/

structure ImageBuffer where
  width : ℕ
  height : ℕ
  data : List UInt8
  deriving DecidableEq

def ImageBuffer.rect (image : ImageBuffer) : Rect := ⟨0, 0, image.width, image.height⟩

/-- A recorded action as the overlays draw it. -/
structure ActionMarker where
  actionId : ActionId
  kind : ActionKind
  position : Option Point
  ageMs : ℕ
  deriving DecidableEq

structure CommitInfo where
  commitSeq : ℕ
  ageMs : ℕ
  deriving DecidableEq

/-- Everything the inspector needs to paint one full-output frame. -/
structure InspectionSnapshot where
  frame : ImageBuffer
  windows : List WindowRecord
  active : Option WindowId
  cursor : Option Point
  actions : List ActionMarker
  damage : List Rect
  commit : Option CommitInfo
  seq : ℕ
  tsMs : ℕ
  deriving DecidableEq

/-- What the clock, the observer, the action registry and the pointer report at one moment. -/
structure Surroundings where
  nowMs : ℕ
  observed : List WindowTemporalState := []
  records : List ActionRecord := []
  cursor : Option Point := none
  deriving DecidableEq

def damageToOutput (damage : Region) (geometry : Option Rect) : List Rect :=
  damage.simplified.map fun rect =>
    { rect with
      x := rect.x + (geometry.elim 0 Rect.x)
      y := rect.y + (geometry.elim 0 Rect.y) }

/-- The known geometry of a window. -/
def windowGeometry (observed : List WindowTemporalState) (windowId : WindowId) : Option Rect :=
  (observed.find? fun window => window.windowId = windowId).bind WindowTemporalState.geometry

/-- The window of the most recent counted commit, the later one of two. -/
def latestCommit (observed : List WindowTemporalState) : Option WindowTemporalState :=
  (observed.filter fun window => 0 < window.lastCommitAt).foldl (fun latest window =>
    match latest with
    | some best => if best.lastCommitAt ≤ window.lastCommitAt then some window else some best
    | none => some window) none

def actionMarker (record : ActionRecord) (geometry : Option Rect) (nowMs : ℕ) : ActionMarker where
  actionId := record.id
  kind := record.kind
  position :=
    match record.position, geometry with
    | some position, some geometry =>
      let relative := Core.Position.resolve position ⟨0, 0, geometry.w, geometry.h⟩
      some ⟨clampI32 (geometry.x + relative.x), clampI32 (geometry.y + relative.y)⟩
    | _, _ => none
  ageMs := nowMs - record.tsMs

/-- The snapshot that `refresh` builds of the frame, the window state and its surroundings. -/
def assemble (frame : ImageBuffer) (state : StateSnapshot) (around : Surroundings) :
    InspectionSnapshot where
  frame := frame
  windows := state.windows
  active := state.activeWindowId
  cursor := around.cursor
  actions := around.records.map fun record =>
    actionMarker record (record.windowId.bind (windowGeometry around.observed)) around.nowMs
  damage := (latestCommit around.observed).elim [] fun window =>
    damageToOutput window.lastDamage window.geometry
  commit := (latestCommit around.observed).map fun window =>
    ⟨window.lastCommitSeq, around.nowMs - window.lastCommitAt⟩
  seq := state.seq
  tsMs := around.nowMs

/-- The event pump folds one event into the cached snapshot. -/
def updateInspection (around : Surroundings) (event : RuntimeEvent)
    (snapshot : InspectionSnapshot) : InspectionSnapshot :=
  match event with
  | .surfaceCommit seq tsMs windowId commitSeq damage =>
    if damage.isEmpty then snapshot
    else
      { snapshot with
        damage := damageToOutput damage (windowGeometry around.observed windowId)
        commit := some ⟨commitSeq, around.nowMs - tsMs⟩
        seq := seq
        tsMs := around.nowMs }
  | .windowActivated seq _ windowId _ =>
    { snapshot with active := some windowId, seq := seq, tsMs := around.nowMs }
  | .windowDestroyed seq _ windowId =>
    { snapshot with
      windows := snapshot.windows.filter fun window => window.id ≠ windowId
      active := if snapshot.active = some windowId then none else snapshot.active
      seq := seq
      tsMs := around.nowMs }
  | _ => snapshot

/-- The pump adopts the window state it queried after a lag. -/
def adopt (answer : StateSnapshot) (nowMs : ℕ) (snapshot : InspectionSnapshot) :
    InspectionSnapshot :=
  { snapshot with
    windows := answer.windows
    active := answer.activeWindowId
    seq := answer.seq
    tsMs := nowMs }

/-! ## Overlays -/

inductive OverlayKind
  | windowIds | appIds | focus | damage | surfaceBounds | cursor | actions | commitTiming
  deriving DecidableEq

/-- The order of composition, bottom to top. -/
def canonicalOrder : List OverlayKind :=
  [.damage, .surfaceBounds, .windowIds, .appIds, .focus, .cursor, .actions, .commitTiming]

def normalize (overlays : List OverlayKind) : List OverlayKind :=
  canonicalOrder.filter fun kind => kind ∈ overlays

/-- What the painters draw on and from. -/
structure InspectionInput where
  frame : ImageBuffer
  windows : List WindowRecord
  active : Option WindowId
  cursor : Option Point
  actions : List ActionMarker
  damage : List Rect
  commit : Option CommitInfo
  deriving DecidableEq

/-- Only the state that the requested overlays need. -/
def inspectionInput (overlays : List OverlayKind) (snapshot : InspectionSnapshot) :
    InspectionInput where
  frame := snapshot.frame
  windows :=
    if .surfaceBounds ∈ overlays ∨ .windowIds ∈ overlays ∨ .appIds ∈ overlays ∨ .focus ∈ overlays
    then snapshot.windows else []
  active := if .focus ∈ overlays then snapshot.active else none
  cursor := if .cursor ∈ overlays then snapshot.cursor else none
  actions := if .actions ∈ overlays then snapshot.actions else []
  damage := if .damage ∈ overlays then snapshot.damage else []
  commit := if .commitTiming ∈ overlays then snapshot.commit else none

structure InspectionRequest where
  region : Option Rect := none
  maxDimension : Option ℕ := none
  deriving DecidableEq

/-- The part of the output that a composed frame shows; its size is what the scale refers to. -/
def composedSource (frame : Rect) (region : Option Rect) : ℕ × ℕ :=
  let shown := (region.bind frame.intersect).getD frame
  (shown.w, shown.h)

/-- What the inspector is handed, and what its answer is labelled with: the source of the scale
and, in a stream, the number and the time of the frame. -/
structure Picture where
  input : InspectionInput
  request : InspectionRequest
  source : ℕ × ℕ
  stamp : Option (ℕ × ℕ)
  deriving DecidableEq

structure ViewerFrame where
  seq : ℕ
  tsMs : ℕ
  image : ImageBuffer
  cursor : Option Point
  activeWindowId : Option WindowId
  deriving DecidableEq

/-! ## Refreshes -/

/-- The compositor thread as it answers commands; `operate` is anything else that happens to it. -/
structure Compositor (C : Type u) (Op : Type v) (ε : Type w) where
  operate : C → Op → C
  renderOutput : C → Except ε ImageBuffer
  queryState : C → StateSnapshot
  reserveSeq : C → C × ℕ

/-- Who refreshes: `inspect_capture`, a frame of an inspect stream, a viewer frame, or the capture
task of a recording. -/
inductive Job
  | capture (overlays : List OverlayKind) (request : InspectionRequest)
  | stream (overlays : List OverlayKind)
  | viewer
  | recording
  deriving DecidableEq

/-- The overlays of an inspector. -/
def Job.overlays : Job → List OverlayKind
  | .capture overlays _ | .stream overlays => normalize overlays
  | .viewer | .recording => []

/-- Whether the job reads the cache back after its refresh. -/
def Job.paints : Job → Bool
  | .capture .. | .stream _ => true
  | .viewer | .recording => false

/-- The states of the compositor in which the frame was composed and the windows were read. -/
structure Origin (C : Type u) where
  composed : C
  queried : C

inductive Failure (ε : Type w)
  | render (error : ε)
  | unprimed

/-- Where a job stands. -/
inductive Stage (C : Type u) (ε : Type w)
  | starting
  | rendered (frame : ImageBuffer) (composed : C)
  | queried (frame : ImageBuffer) (origin : Origin C) (state : StateSnapshot)
  | assembled (snapshot : InspectionSnapshot) (origin : Origin C)
  | returned (snapshot : InspectionSnapshot) (origin : Origin C)
  | reserved (snapshot : InspectionSnapshot) (origin : Origin C) (seq : ℕ)
  | painted (snapshot : InspectionSnapshot) (origin : Origin C) (picture : Picture)
  | framed (snapshot : InspectionSnapshot) (origin : Origin C) (frame : ViewerFrame)
  | failed (failure : Failure ε)

structure Task (C : Type u) (ε : Type w) where
  job : Job
  stage : Stage C ε

/-- The refresh has returned with a snapshot. -/
def Stage.result {C : Type u} {ε : Type w} :
    Stage C ε → Option (InspectionSnapshot × Origin C)
  | .returned snapshot origin | .reserved snapshot origin _ | .painted snapshot origin _
  | .framed snapshot origin _ => some (snapshot, origin)
  | .starting | .rendered .. | .queried .. | .assembled .. | .failed _ => none

/-- The refresh is between its two commands. -/
def Stage.split {C : Type u} {ε : Type w} : Stage C ε → Bool
  | .rendered .. => true
  | _ => false

/-- The task has its snapshot in the cache and is still to read it back. -/
def Task.awaits {C : Type u} {ε : Type w} (task : Task C ε) : Bool :=
  task.job.paints &&
    match task.stage with
    | .returned .. | .reserved .. => true
    | _ => false

structure State (C : Type u) (ε : Type w) where
  compositor : C
  cache : Option InspectionSnapshot := none
  tasks : List (Task C ε) := []

/-- A job begins or takes its next step, something happens in the compositor, or the event pump
updates the cache. -/
inductive Action (Op : Type v)
  | begin (job : Job)
  | advance (index : ℕ) (around : Surroundings)
  | operate (op : Op)
  | fold (event : RuntimeEvent) (around : Surroundings)
  | resync (answer : StateSnapshot) (nowMs : ℕ)

section Steps

variable {C : Type u} {Op : Type v} {ε : Type w}

/-- The inspector reads the cache back. -/
def paint (cache : Option InspectionSnapshot) (overlays : List OverlayKind)
    (request : InspectionRequest) (snapshot : InspectionSnapshot) (origin : Origin C)
    (stamp : Option (ℕ × ℕ)) : Stage C ε :=
  match cache with
  | none => .failed .unprimed
  | some cached =>
    .painted snapshot origin
      { input := inspectionInput (normalize overlays) cached
        request := request
        source := composedSource snapshot.frame.rect request.region
        stamp := stamp }

/-- The next step of a job: the compositor, the cache and the stage after it. -/
def Task.next (M : Compositor C Op ε) (compositor : C) (cache : Option InspectionSnapshot)
    (around : Surroundings) (task : Task C ε) :
    Option (C × Option InspectionSnapshot × Stage C ε) :=
  match task.stage with
  | .starting =>
    match M.renderOutput compositor with
    | .ok frame => some (compositor, cache, .rendered frame compositor)
    | .error error => some (compositor, cache, .failed (.render error))
  | .rendered frame composed =>
    some (compositor, cache, .queried frame ⟨composed, compositor⟩ (M.queryState compositor))
  | .queried frame origin state =>
    some (compositor, cache, .assembled (assemble frame state around) origin)
  | .assembled snapshot origin => some (compositor, some snapshot, .returned snapshot origin)
  | .returned snapshot origin =>
    match task.job with
    | .capture overlays request =>
      some (compositor, cache, paint cache overlays request snapshot origin none)
    | .stream _ | .viewer =>
      let (compositor, seq) := M.reserveSeq compositor
      some (compositor, cache, .reserved snapshot origin seq)
    | .recording => none
  | .reserved snapshot origin seq =>
    match task.job with
    | .stream overlays =>
      some (compositor, cache,
        paint cache overlays {} snapshot origin (some (seq, snapshot.tsMs)))
    | .viewer =>
      some (compositor, cache,
        .framed snapshot origin
          { seq := seq
            tsMs := around.nowMs
            image := snapshot.frame
            cursor := around.cursor
            activeWindowId := snapshot.active })
    | .capture .. | .recording => none
  | .painted .. | .framed .. | .failed _ => none

def State.step (M : Compositor C Op ε) (state : State C ε) : Action Op → Option (State C ε)
  | .begin job => some { state with tasks := state.tasks ++ [⟨job, .starting⟩] }
  | .advance index around =>
    match state.tasks[index]? with
    | none => none
    | some task =>
      (task.next M state.compositor state.cache around).map fun (compositor, cache, stage) =>
        { compositor, cache, tasks := state.tasks.set index { task with stage } }
  | .operate op => some { state with compositor := M.operate state.compositor op }
  | .fold event around =>
    some { state with cache := state.cache.map (updateInspection around event) }
  | .resync answer nowMs => some { state with cache := state.cache.map (adopt answer nowMs) }

/-- All connections and viewers over one compositor and one cache. -/
def server (M : Compositor C Op ε) (start : C) : Machine (State C ε) (Action Op) where
  init := { compositor := start }
  step := State.step M

/-! ## Cuts -/

/-- What a snapshot is labelled with. -/
def labels (state : StateSnapshot) : List WindowRecord × Option WindowId × ℕ :=
  (state.windows, state.activeWindowId, state.seq)

def Agree (M : Compositor C Op ε) (left right : C) : Prop :=
  labels (M.queryState left) = labels (M.queryState right)

instance (M : Compositor C Op ε) (left right : C) : Decidable (Agree M left right) :=
  inferInstanceAs (Decidable (_ = _))

/-- The windows, the active window and the number are those of the state in which the frame was
composed. -/
structure Cut (M : Compositor C Op ε) (snapshot : InspectionSnapshot) (composed : C) : Prop where
  frame : M.renderOutput composed = .ok snapshot.frame
  state : (snapshot.windows, snapshot.active, snapshot.seq) = labels (M.queryState composed)

/-- The picture of a task is painted from its own snapshot, and a viewer's frame names the window
that was active when the frame was composed. -/
def Labelled (M : Compositor C Op ε) (task : Task C ε) : Prop :=
  match task.stage with
  | .painted snapshot _ picture =>
    picture.input = inspectionInput task.job.overlays snapshot ∧
      picture.source = composedSource snapshot.frame.rect picture.request.region
  | .framed snapshot origin frame =>
    frame.image = snapshot.frame ∧
      frame.activeWindowId = (M.queryState origin.composed).activeWindowId
  | _ => True

/-- No refresh between its two commands sees a change of the windows, the active window or the
number. -/
def State.Steady (M : Compositor C Op ε) (state : State C ε) (next : C) : Prop :=
  state.tasks.any (fun task => task.stage.split) = true → Agree M next state.compositor

/-- The cache stays as it is while a task is still to read its snapshot back. -/
def State.Keeps (state : State C ε) (cache : Option InspectionSnapshot) : Prop :=
  state.tasks.any Task.awaits = true → cache = state.cache

/-- The step disturbs no refresh and no reading. -/
def Undisturbed (M : Compositor C Op ε) (state : State C ε) : Action Op → Prop
  | .begin _ => True
  | .advance index _ =>
    match state.tasks[index]? with
    | none => True
    | some task =>
      match task.stage with
      | .assembled snapshot _ => state.Keeps (some snapshot)
      | .returned .. =>
        match task.job with
        | .stream _ | .viewer => state.Steady M (M.reserveSeq state.compositor).1
        | .capture .. | .recording => True
      | _ => True
  | .operate op => state.Steady M (M.operate state.compositor op)
  | .fold event around => state.Keeps (state.cache.map (updateInspection around event))
  | .resync answer nowMs => state.Keeps (state.cache.map (adopt answer nowMs))

instance (M : Compositor C Op ε) (state : State C ε) (next : C) :
    Decidable (state.Steady M next) :=
  inferInstanceAs (Decidable (_ = true → _))

instance (state : State C ε) (cache : Option InspectionSnapshot) :
    Decidable (state.Keeps cache) :=
  inferInstanceAs (Decidable (_ = true → _))

end Steps

end ADesk.Server.Inspection
