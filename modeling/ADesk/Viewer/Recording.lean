/- ADesk/Viewer/Recording
   digest: The recording requests of all viewers, the capture tasks that they start and the slot
   that they share. -/

import ADesk.Compositor.Command
import ADesk.Foundation.Entries
import ADesk.Foundation.Execution

set_option autoImplicit false

namespace ADesk.Viewer.Recording

open ADesk.Compositor.Command (ErrorCode)
open ADesk.Foundation.Entries
open ADesk.Foundation.Execution

/-! ## Statuses and errors -/

structure RecordingStatus where
  recording : Bool
  path : Option String
  encoder : Option String
  fps : ℕ
  frames : ℕ
  durationMs : ℕ
  error : Option String
  deriving DecidableEq

def defaultRecordFps : ℕ := 30

def RecordingStatus.idle : RecordingStatus := ⟨false, none, none, defaultRecordFps, 0, 0, none⟩

/-- What the recorder session returns when it is stopped. -/
structure RecordingSummary where
  path : String
  encoder : String
  frames : ℕ
  durationMs : ℕ
  deriving DecidableEq

/-- A failure of the backend, with its AGP code. -/
structure ViewerError where
  code : ErrorCode
  message : String
  deriving DecidableEq

def alreadyInProgress : ViewerError := ⟨.invalidRequest, "a recording is already in progress"⟩

def noneInProgress : ViewerError := ⟨.invalidRequest, "no recording is in progress"⟩

def taskFailed (reason : String) : ViewerError :=
  ⟨.internal, "recording task failed: " ++ reason⟩

/-! ## Capture tasks -/

/-- Where a capture task stands: not polled yet, at its `select!`, rendering a frame, waiting for
the recorder session to stop with the totals of the loop, done, or ended by a panic. -/
inductive Stage
  | spawned
  | waiting
  | rendering
  | finalizing (frames durationMs : ℕ)
  | finished (status : RecordingStatus)
  | panicked
  deriving DecidableEq

/-- Why a loop ended: it was stopped (or the runtime shut down), a frame could not be rendered, or
the recorder took no more frames. -/
inductive Ending
  | stopped
  | renderFailed (reason : String)
  | pushFailed
  deriving DecidableEq

/-- A capture task with its recorder session. `recorderError` is why the recorder's own thread
failed, if it has; `ending` is a history variable. -/
structure Capture where
  path : String
  encoder : String
  fps : ℕ
  startedMs : ℕ
  frames : ℕ
  signalled : Bool
  recorderError : Option String
  ending : Option Ending
  stage : Stage
  deriving DecidableEq

namespace Capture

/-- The milliseconds between two frames. -/
def period (fps : ℕ) : ℕ := 1000 / max fps 1

/-- The task's `select!` loop has not ended. -/
def inLoop (capture : Capture) : Bool :=
  match capture.stage with
  | .spawned | .waiting | .rendering => true
  | .finalizing .. | .finished _ | .panicked => false

/-- The task is running or finalizing. -/
def isLive (capture : Capture) : Bool :=
  match capture.stage with
  | .spawned | .waiting | .rendering | .finalizing .. => true
  | .finished _ | .panicked => false

def finalStatus (capture : Capture) : Option RecordingStatus :=
  match capture.stage with
  | .finished status => some status
  | .spawned | .waiting | .rendering | .finalizing .. | .panicked => none

/-- The failure that ended the loop before it was stopped. A failed push is the recorder's
failure. -/
def failure (capture : Capture) : Option String :=
  match capture.ending with
  | some (.renderFailed reason) => some reason
  | some .pushFailed => capture.recorderError
  | some .stopped | none => none

/-- The loop ends; its totals are read right after it. -/
def leave (capture : Capture) (ending : Ending) (nowMs : ℕ) : Capture :=
  { capture with
    ending := some ending
    stage := .finalizing capture.frames (nowMs - capture.startedMs) }

/-- The status of a capture whose session was stopped. -/
def concluded (capture : Capture) (frames durationMs : ℕ) :
    Except String RecordingSummary → RecordingStatus
  | .ok summary =>
    ⟨false, some summary.path, some summary.encoder, capture.fps, summary.frames,
      summary.durationMs, none⟩
  | .error reason =>
    ⟨false, some capture.path, some capture.encoder, capture.fps, frames, durationMs, some reason⟩

/-- `RecordingSession::stop`: what the recorder thread failed with, else what finishing the file
gives. -/
def sessionStop (capture : Capture) (finished : Except String RecordingSummary) :
    Except String RecordingSummary :=
  match capture.recorderError with
  | some reason => .error reason
  | none => finished

end Capture

/-! ## The backend -/

/-- The captures in the order they were started, the one in the active slot, the last status, and
the captures that a stop request has taken out of the slot and waits for. -/
structure State where
  captures : List Capture
  active : Option ℕ
  last : Option RecordingStatus
  stopping : List ℕ
  shutdown : Bool
  deriving DecidableEq

def State.new : State := ⟨[], none, none, [], false⟩

def State.put (s : State) (index : ℕ) (capture : Capture) : State :=
  { s with captures := s.captures.set index capture }

/-- The request under the lock, by whether the file and the recorder could be opened. -/
def startRecording (s : State) (fps : ℕ) (opened : Except ViewerError (String × String))
    (nowMs : ℕ) : State × Except ViewerError RecordingStatus :=
  match s.active with
  | some _ => (s, .error alreadyInProgress)
  | none =>
    match opened with
    | .error error => (s, .error error)
    | .ok (path, encoder) =>
      ({ s with
          captures := s.captures ++
            [⟨path, encoder, fps, nowMs, 0, false, none, none, .spawned⟩]
          active := some s.captures.length },
        .ok ⟨true, some path, some encoder, fps, 0, 0, none⟩)

/-- The first half of a stop: the recording leaves the slot. -/
def takeActive (s : State) : State × Option ViewerError :=
  match s.active with
  | some index => ({ s with active := none, stopping := s.stopping ++ [index] }, none)
  | none => (s, some noneInProgress)

/-- The second half of a stop: the task has ended, and its status is the last one; `display` is the
text of a join error. -/
def joined (s : State) (index : ℕ) (capture : Capture) (display : String) :
    Option (State × Except ViewerError RecordingStatus) :=
  let left := { s with stopping := s.stopping.erase index }
  match capture.stage with
  | .finished status => some ({ left with last := some status }, .ok status)
  | .panicked => some (left, .error (taskFailed display))
  | .spawned | .waiting | .rendering | .finalizing .. => none

/-- The live status of a recording in progress. -/
def activeStatus (capture : Capture) (nowMs : ℕ) : RecordingStatus :=
  ⟨true, some capture.path, some capture.encoder, capture.fps, capture.frames,
    nowMs - capture.startedMs, none⟩

def recordingStatus (s : State) (nowMs : ℕ) : RecordingStatus :=
  match s.active.bind fun index => s.captures[index]? with
  | some capture => activeStatus capture nowMs
  | none => s.last.getD .idle

/-- The three requests (a stop in three steps: it takes the recording, signals the task and joins
it), what a capture task does, the failure of a recorder thread and the runtime's shutdown. -/
inductive Label
  | start (fps : ℕ) (opened : Except ViewerError (String × String)) (nowMs : ℕ)
  | stop
  | signal (index : ℕ)
  | join (index : ℕ) (display : String)
  | status (nowMs : ℕ)
  | begin (index : ℕ)
  | wake (index nowMs : ℕ)
  | tick (index : ℕ)
  | rendered (index : ℕ) (result : Except String Unit) (nowMs : ℕ)
  | recorderFails (index : ℕ) (reason : String)
  | finalize (index : ℕ) (finished : Except String RecordingSummary)
  | shutdown

/-- What the task of a capture does. -/
def Capture.step (capture : Capture) (shutdown : Bool) : Label → Option Capture
  | .begin _ =>
    match capture.stage with
    -- `tokio::time::interval` panics on a period of zero.
    | .spawned =>
      some { capture with stage := if Capture.period capture.fps = 0 then .panicked else .waiting }
    | _ => none
  | .wake _ nowMs =>
    match capture.stage with
    | .waiting =>
      if capture.signalled || shutdown then some (capture.leave .stopped nowMs) else none
    | _ => none
  | .tick _ =>
    match capture.stage with
    -- The `select!` is biased: a stop or a shutdown comes before the next tick.
    | .waiting =>
      if capture.signalled || shutdown then none else some { capture with stage := .rendering }
    | _ => none
  | .rendered _ result nowMs =>
    match capture.stage with
    | .rendering =>
      match result with
      | .error reason => some (capture.leave (.renderFailed reason) nowMs)
      | .ok () =>
        match capture.recorderError with
        | some _ => some (capture.leave .pushFailed nowMs)
        | none => some { capture with frames := capture.frames + 1, stage := .waiting }
    | _ => none
  | .recorderFails _ reason =>
    match capture.recorderError with
    -- Only a queued frame can fail on the recorder's thread.
    | none =>
      if capture.isLive && capture.frames != 0 then
        some { capture with recorderError := some reason }
      else none
    | some _ => none
  | .finalize _ finished =>
    match capture.stage with
    | .finalizing frames durationMs =>
      some { capture with
        stage := .finished (capture.concluded frames durationMs (capture.sessionStop finished)) }
    | _ => none
  | .start .. | .stop | .signal _ | .join .. | .status _ | .shutdown => none

def step (s : State) (label : Label) : Option State :=
  match label with
  | .start fps opened nowMs => some (startRecording s fps opened nowMs).1
  | .stop => some (takeActive s).1
  | .signal index =>
    if index ∈ s.stopping then
      (s.captures[index]?).map fun capture => s.put index { capture with signalled := true }
    else none
  | .join index display =>
    if index ∈ s.stopping then
      (s.captures[index]?).bind fun capture =>
        if capture.signalled then (joined s index capture display).map Prod.fst else none
    else none
  | .status _ => some s
  | .begin index | .wake index _ | .tick index | .rendered index _ _ | .recorderFails index _
  | .finalize index _ =>
    (s.captures[index]?).bind fun capture =>
      (capture.step s.shutdown label).map (s.put index)
  | .shutdown => some { s with shutdown := true }

def machine : Machine State Label := ⟨.new, step⟩

end ADesk.Viewer.Recording
