/- ADesk/Viewer/RecordingReports
   digest: When the recording requests report what the capture tasks do. -/

import ADesk.Viewer.Recording

set_option autoImplicit false

namespace ADesk.Viewer.RecordingReports

open ADesk.Foundation.Entries
open ADesk.Foundation.Execution
open ADesk.Viewer.Recording

/-! ## What is claimed -/

def Running (s : State) (index : ℕ) : Prop :=
  ∃ capture, s.captures[index]? = some capture ∧ capture.inLoop = true

/-- The capture is running or finalizing. -/
def Live (s : State) (index : ℕ) : Prop :=
  ∃ capture, s.captures[index]? = some capture ∧ capture.isLive = true

def AtMostOne (s : State) : Prop := ∀ first second, Live s first → Live s second → first = second

/-- The status of the recording that was started last; none was before the first one. -/
def lastStarted (s : State) : RecordingStatus :=
  (s.captures.getLast?.bind Capture.finalStatus).getD .idle

/-- What a request answers is what the captures do. -/
def Honest (s : State) : Label → Prop
  | .start fps _ nowMs =>
    ∀ file, (startRecording s fps (.ok file) nowMs).2 = .error alreadyInProgress ↔
      ∃ index, Running s index
  | .status nowMs =>
    ((recordingStatus s nowMs).recording = true ↔ ∃ index, Running s index) ∧
      ((¬ ∃ index, Live s index) → recordingStatus s nowMs = lastStarted s)
  | .join index display =>
    ∀ capture ∈ s.captures[index]?, ∀ after reply,
      joined s index capture display = some (after, reply) →
        ∀ reason, capture.failure = some reason →
          ∃ status, reply = .ok status ∧ status.error = some reason
  | _ => True

/-! ## The condition -/

/-- The captures that meet a condition, of those at an index. -/
def holdsAt (s : State) (condition : Capture → Bool) (index : ℕ) : Bool :=
  (s.captures[index]?).any condition

/-- The recording in the slot has not ended on its own. -/
def SlotRuns (s : State) : Prop := ∀ index ∈ s.active, holdsAt s Capture.inLoop index = true

/-- The task is past its loop and not done. -/
def isFinalizing (capture : Capture) : Bool := capture.isLive && !capture.inLoop

/-- The conditions on a step. A recording is started at a rate that leaves a period, and while no
stop is under way; a status is not asked for between a stop and the end of the loop, nor between
the end of the task and the record of its status; frames can be rendered. -/
def InTurn (s : State) : Label → Prop
  | .start fps _ _ =>
    SlotRuns s ∧ s.stopping = [] ∧ (s.active = none → Capture.period fps ≠ 0)
  | .status _ => SlotRuns s ∧ ∀ index ∈ s.stopping, holdsAt s isFinalizing index = true
  | .rendered _ (.error _) _ => False
  | _ => True

instance (s : State) : Decidable (SlotRuns s) :=
  inferInstanceAs (Decidable (∀ index ∈ s.active, _ = true))

instance (s : State) (label : Label) : Decidable (InTurn s label) :=
  match label with
  | .start fps _ _ => inferInstanceAs (Decidable (SlotRuns s ∧ _ ∧ (_ → Capture.period fps ≠ 0)))
  | .status _ => inferInstanceAs (Decidable (SlotRuns s ∧ ∀ index ∈ s.stopping, _ = true))
  | .rendered _ (.error _) _ => inferInstanceAs (Decidable False)
  | .rendered _ (.ok ()) _ | .stop | .signal _ | .join .. | .begin _ | .wake .. | .tick _
  | .recorderFails .. | .finalize .. | .shutdown => inferInstanceAs (Decidable True)

/-! ## One capture -/

/-- What every capture of a run in turn meets. -/
structure Sound (capture : Capture) : Prop where
  paced : Capture.period capture.fps ≠ 0
  running : capture.stage ≠ .panicked
  rendered : ∀ reason, capture.ending ≠ some (.renderFailed reason)
  closed : ∀ status, capture.stage = .finished status → status.recording = false
  reported : ∀ status, capture.stage = .finished status →
    ∀ reason, capture.failure = some reason → status.error = some reason

section Capture

variable {capture after : Capture} {shutdown : Bool}

/-- A loop that ends without a render failure leaves a sound capture. -/
theorem Sound.leave (sound : Sound capture) (ending : Ending)
    (rendered : ∀ reason, ending ≠ .renderFailed reason) (nowMs : ℕ) :
    Sound (capture.leave ending nowMs) where
  paced := sound.paced
  running := nofun
  rendered := fun reason same => rendered reason (Option.some.inj same)
  closed := nofun
  reported := nofun

/-- A step inside the loop. -/
theorem Sound.goesOn (sound : Sound capture) (stage : Stage) (running : stage ≠ .panicked)
    (unfinished : ∀ status, stage ≠ .finished status) (frames : ℕ) :
    Sound { capture with frames := frames, stage := stage } where
  paced := sound.paced
  running := running
  rendered := sound.rendered
  closed := fun status same => absurd same (unfinished status)
  reported := fun status same => absurd same (unfinished status)

/-- The status of a stopped session names the failure. -/
theorem Sound.concludes (sound : Sound capture) (frames durationMs : ℕ)
    (finished : Except String RecordingSummary) :
    Sound { capture with
      stage := .finished (capture.concluded frames durationMs (capture.sessionStop finished)) } where
  paced := sound.paced
  running := nofun
  rendered := sound.rendered
  closed := by
    intro status same
    cases same
    cases capture.sessionStop finished <;> rfl
  reported := by
    intro status same reason failed
    cases same
    change capture.failure = some reason at failed
    have pushed : capture.recorderError = some reason := by
      unfold Capture.failure at failed
      split at failed
      · next shown ended => exact absurd ended (sound.rendered shown)
      · exact failed
      · cases failed
      · cases failed
    rw [Capture.sessionStop, pushed]
    rfl

theorem sound_begin {index : ℕ} (sound : Sound capture)
    (taken : capture.step shutdown (.begin index) = some after) :
    Sound after ∧ capture.isLive = true := by
  simp only [Capture.step] at taken
  split at taken
  · next spawned =>
    cases taken
    rw [if_neg sound.paced]
    exact ⟨sound.goesOn .waiting nofun nofun capture.frames, by rw [Capture.isLive, spawned]⟩
  · cases taken

theorem sound_wake {index nowMs : ℕ} (sound : Sound capture)
    (taken : capture.step shutdown (.wake index nowMs) = some after) :
    Sound after ∧ capture.isLive = true := by
  simp only [Capture.step] at taken
  split at taken
  · next waiting =>
    obtain ⟨_, same⟩ := Option.ite_none_right_eq_some.mp taken
    cases same
    exact ⟨sound.leave .stopped nofun nowMs, by rw [Capture.isLive, waiting]⟩
  · cases taken

theorem sound_tick {index : ℕ} (sound : Sound capture)
    (taken : capture.step shutdown (.tick index) = some after) :
    Sound after ∧ capture.isLive = true := by
  simp only [Capture.step] at taken
  split at taken
  · next waiting =>
    obtain ⟨_, same⟩ := Option.ite_none_left_eq_some.mp taken
    cases same
    exact ⟨sound.goesOn .rendering nofun nofun capture.frames, by rw [Capture.isLive, waiting]⟩
  · cases taken

theorem sound_rendered {index nowMs : ℕ} (sound : Sound capture)
    (taken : capture.step shutdown (.rendered index (.ok ()) nowMs) = some after) :
    Sound after ∧ capture.isLive = true := by
  simp only [Capture.step] at taken
  split at taken
  · next rendering =>
    have live : capture.isLive = true := by rw [Capture.isLive, rendering]
    split at taken
    · cases taken
      exact ⟨sound.leave .pushFailed nofun nowMs, live⟩
    · cases taken
      exact ⟨sound.goesOn .waiting nofun nofun (capture.frames + 1), live⟩
  · cases taken

theorem sound_recorder_fails {index : ℕ} {reason : String} (sound : Sound capture)
    (taken : capture.step shutdown (.recorderFails index reason) = some after) :
    Sound after ∧ capture.isLive = true := by
  simp only [Capture.step] at taken
  split at taken
  · obtain ⟨able, same⟩ := Option.ite_none_right_eq_some.mp taken
    cases same
    have live : capture.isLive = true := (Bool.and_eq_true_iff.mp able).1
    refine ⟨⟨sound.paced, sound.running, sound.rendered, sound.closed, fun status finished => ?_⟩,
      live⟩
    change capture.stage = .finished status at finished
    rw [Capture.isLive, finished] at live
    cases live
  · cases taken

theorem sound_finalize {index : ℕ} {finished : Except String RecordingSummary}
    (sound : Sound capture)
    (taken : capture.step shutdown (.finalize index finished) = some after) :
    Sound after ∧ capture.isLive = true := by
  simp only [Capture.step] at taken
  split at taken
  · next frames durationMs finalizing =>
    cases taken
    exact ⟨sound.concludes frames durationMs finished, by rw [Capture.isLive, finalizing]⟩
  · cases taken

/-- What a step of a capture in turn keeps; only a live capture takes one. -/
theorem sound_step {s : State} {label : Label} (inTurn : InTurn s label) (sound : Sound capture)
    (taken : capture.step shutdown label = some after) : Sound after ∧ capture.isLive = true := by
  cases label with
  | begin index => exact sound_begin sound taken
  | wake index nowMs => exact sound_wake sound taken
  | tick index => exact sound_tick sound taken
  | rendered index result nowMs =>
    cases result with
    | error reason => exact inTurn.elim
    | ok rendered => exact sound_rendered sound taken
  | recorderFails index reason => exact sound_recorder_fails sound taken
  | finalize index finished => exact sound_finalize sound taken
  | start | stop | signal | join | status | shutdown => cases taken

end Capture

/-! ## All captures -/

/-- The recording that was started last is in the slot, or a stop waits for it, or its status is
the last one. -/
inductive Phase (s : State) : Prop
  | recording (index : ℕ) (slot : s.active = some index) (stops : s.stopping = [])
      (newest : index + 1 = s.captures.length)
  | stopping (index : ℕ) (slot : s.active = none) (stops : s.stopping = [index])
      (newest : index + 1 = s.captures.length)
  | idle (slot : s.active = none) (stops : s.stopping = []) (dead : ∀ index, ¬ Live s index)
      (recorded : s.last = s.captures.getLast?.bind Capture.finalStatus)

structure Orderly (s : State) : Prop where
  phase : Phase s
  earlier : ∀ index, Live s index → index + 1 = s.captures.length
  sound : ∀ (index : ℕ) (capture : Capture), s.captures[index]? = some capture → Sound capture
  closed : ∀ status, s.last = some status → status.recording = false

section Steps

variable {s t : State} {index : ℕ} {capture after : Capture}

theorem live_of_loop (looping : capture.inLoop = true) : capture.isLive = true := by
  unfold Capture.inLoop at looping
  unfold Capture.isLive
  cases stage : capture.stage <;> simp [stage] at looping ⊢

theorem Running.live (running : Running s index) : Live s index := by
  obtain ⟨capture, present, looping⟩ := running
  exact ⟨capture, present, live_of_loop looping⟩

theorem holds_at_iff {condition : Capture → Bool} :
    holdsAt s condition index = true ↔
      ∃ capture, s.captures[index]? = some capture ∧ condition capture = true :=
  Option.any_eq_true ..

/-- The newest capture is the only one that can be live. -/
theorem Orderly.at_most_one (orderly : Orderly s) : AtMostOne s := by
  intro first second one two
  have newest := orderly.earlier first one
  have newest' := orderly.earlier second two
  omega

/-- A capture goes on, or is signalled by the stop that waits for it. -/
theorem Orderly.put (orderly : Orderly s) (present : s.captures[index]? = some capture)
    (busy : capture.isLive = true ∨ index ∈ s.stopping)
    (kept : after.isLive = true → capture.isLive = true) (sound : Sound after) :
    Orderly (s.put index after) where
  phase := by
    have length : (s.put index after).captures.length = s.captures.length := List.length_set
    cases orderly.phase with
    | recording current slot stops newest =>
      exact .recording current slot stops (newest.trans length.symm)
    | stopping current slot stops newest =>
      exact .stopping current slot stops (newest.trans length.symm)
    | idle slot stops dead recorded =>
      rcases busy with live | stopped
      · exact absurd ⟨capture, present, live⟩ (dead index)
      · rw [stops] at stopped
        cases stopped
  earlier := by
    rintro other ⟨entry, found, live⟩
    refine Eq.trans ?_ (List.length_set).symm
    rcases (set_entry present other entry).mp found with ⟨rfl, rfl⟩ | ⟨_, before⟩
    · exact orderly.earlier other ⟨capture, present, kept live⟩
    · exact orderly.earlier other ⟨entry, before, live⟩
  sound := by
    intro other entry found
    rcases (set_entry present other entry).mp found with ⟨_, rfl⟩ | ⟨_, before⟩
    · exact sound
    · exact orderly.sound other entry before
  closed := orderly.closed

/-- A capture that takes a step. -/
theorem Orderly.stepped (orderly : Orderly s) {label : Label} (inTurn : InTurn s label)
    (taken : (s.captures[index]?).bind (fun capture =>
      (capture.step s.shutdown label).map (s.put index)) = some t) : Orderly t := by
  obtain ⟨capture, present, goes⟩ := Option.bind_eq_some_iff.mp taken
  obtain ⟨after, stepped, rfl⟩ := Option.map_eq_some_iff.mp goes
  obtain ⟨sound, live⟩ := sound_step inTurn (orderly.sound index capture present) stepped
  exact orderly.put present (Or.inl live) (fun _ => live) sound

theorem Orderly.started (orderly : Orderly s) {fps nowMs : ℕ} {file : String × String}
    (free : s.active = none) (stops : s.stopping = []) (paced : Capture.period fps ≠ 0) :
    Orderly
      { s with
        captures := s.captures ++
          [⟨file.1, file.2, fps, nowMs, 0, false, none, none, .spawned⟩]
        active := some s.captures.length } where
  phase := .recording s.captures.length rfl stops (by simp)
  earlier := by
    have dead : ∀ other, ¬ Live s other := by
      cases orderly.phase with
      | recording current slot _ _ =>
        rw [free] at slot
        cases slot
      | stopping current _ waits _ =>
        rw [stops] at waits
        cases waits
      | idle _ _ dead _ => exact dead
    rintro other ⟨entry, found, live⟩
    rcases (append_entry s.captures _ other entry).mp found with before | ⟨rfl, _⟩
    · exact absurd ⟨entry, before, live⟩ (dead other)
    · simp
  sound := by
    intro other entry found
    rcases (append_entry s.captures _ other entry).mp found with before | ⟨_, rfl⟩
    · exact orderly.sound other entry before
    · exact ⟨paced, nofun, nofun, nofun, nofun⟩
  closed := orderly.closed

/-- The recording that a stop takes out of the slot. -/
theorem Orderly.taken (orderly : Orderly s) (slot : s.active = some index) :
    Orderly { s with active := none, stopping := s.stopping ++ [index] } where
  phase := by
    cases orderly.phase with
    | recording current same stops newest =>
      obtain rfl := Option.some.inj (same.symm.trans slot)
      exact .stopping current rfl (by rw [stops]; rfl) newest
    | stopping current same _ _ =>
      rw [slot] at same
      cases same
    | idle same _ _ _ =>
      rw [slot] at same
      cases same
  earlier := orderly.earlier
  sound := orderly.sound
  closed := orderly.closed

/-- The status of the capture that a stop waited for is recorded. -/
theorem Orderly.joins (orderly : Orderly s) {status : RecordingStatus}
    (waits : index ∈ s.stopping) (present : s.captures[index]? = some capture)
    (done : capture.stage = .finished status) :
    Orderly { s with stopping := s.stopping.erase index, last := some status } where
  phase := by
    cases orderly.phase with
    | recording current _ stops _ =>
      rw [stops] at waits
      cases waits
    | idle _ stops _ _ =>
      rw [stops] at waits
      cases waits
    | stopping current slot stops newest =>
      rw [stops, List.mem_singleton] at waits
      subst waits
      have final : s.captures.getLast?.bind Capture.finalStatus = some status := by
        rw [List.getLast?_eq_getElem?, show s.captures.length - 1 = index by omega, present,
          Option.bind_some, Capture.finalStatus, done]
      refine .idle slot (by rw [stops]; exact List.erase_cons_head ..) ?_ final.symm
      rintro other ⟨entry, found, live⟩
      have same := orderly.earlier other ⟨entry, found, live⟩
      obtain rfl : other = index := by omega
      obtain rfl := Option.some.inj (present.symm.trans found)
      rw [Capture.isLive, done] at live
      cases live
  earlier := orderly.earlier
  sound := orderly.sound
  closed := fun last same => by
    cases same
    exact (orderly.sound index capture present).closed status done

theorem orderly_step {label : Label} (orderly : Orderly s) (inTurn : InTurn s label)
    (taken : step s label = some t) : Orderly t := by
  cases label with
  | start fps opened nowMs =>
    cases taken
    obtain ⟨_, stops, paced⟩ := inTurn
    unfold startRecording
    cases free : s.active with
    | some index => exact orderly
    | none =>
      cases opened with
      | error error => exact orderly
      | ok file => exact orderly.started free stops (paced free)
  | stop =>
    cases taken
    unfold takeActive
    cases slot : s.active with
    | some index => exact orderly.taken slot
    | none => exact orderly
  | signal index =>
    obtain ⟨waits, goes⟩ := Option.ite_none_right_eq_some.mp taken
    obtain ⟨capture, present, rfl⟩ := Option.map_eq_some_iff.mp goes
    have sound := orderly.sound index capture present
    exact orderly.put present (Or.inr waits) (fun live => live)
      ⟨sound.paced, sound.running, sound.rendered, sound.closed, sound.reported⟩
  | join index display =>
    obtain ⟨waits, goes⟩ := Option.ite_none_right_eq_some.mp taken
    obtain ⟨capture, present, signalled⟩ := Option.bind_eq_some_iff.mp goes
    obtain ⟨_, ends⟩ := Option.ite_none_right_eq_some.mp signalled
    obtain ⟨result, ended, rfl⟩ := Option.map_eq_some_iff.mp ends
    unfold joined at ended
    split at ended
    · next status done =>
      cases ended
      exact orderly.joins waits present done
    · next panicked => exact absurd panicked (orderly.sound index capture present).running
    all_goals cases ended
  | status nowMs =>
    cases taken
    exact orderly
  | begin index => exact orderly.stepped inTurn taken
  | wake index nowMs => exact orderly.stepped inTurn taken
  | tick index => exact orderly.stepped inTurn taken
  | rendered index result nowMs => exact orderly.stepped inTurn taken
  | recorderFails index reason => exact orderly.stepped inTurn taken
  | finalize index finished => exact orderly.stepped inTurn taken
  | shutdown =>
    cases taken
    exact ⟨by
      cases orderly.phase with
      | recording current slot stops newest => exact .recording current slot stops newest
      | stopping current slot stops newest => exact .stopping current slot stops newest
      | idle slot stops dead recorded => exact .idle slot stops dead recorded,
      orderly.earlier, orderly.sound, orderly.closed⟩

/-! ## What is reported -/

theorem SlotRuns.running (runs : SlotRuns s) (slot : s.active = some index) : Running s index :=
  holds_at_iff.mp (runs index slot)

/-- A start is refused exactly while a capture is running. -/
theorem start_refused_iff (orderly : Orderly s) (runs : SlotRuns s) (stops : s.stopping = [])
    (fps nowMs : ℕ) (file : String × String) :
    (startRecording s fps (.ok file) nowMs).2 = .error alreadyInProgress ↔
      ∃ index, Running s index := by
  cases slot : s.active with
  | some index =>
    have refused : (startRecording s fps (.ok file) nowMs).2 = .error alreadyInProgress := by
      rw [startRecording, slot]
    exact ⟨fun _ => ⟨index, runs.running slot⟩, fun _ => refused⟩
  | none =>
    have accepted : (startRecording s fps (.ok file) nowMs).2 =
        .ok ⟨true, some file.1, some file.2, fps, 0, 0, none⟩ := by
      rw [startRecording, slot]
    rw [accepted]
    refine ⟨fun same => (by cases same), fun ⟨index, running⟩ => ?_⟩
    cases orderly.phase with
    | recording current same _ _ =>
      rw [slot] at same
      cases same
    | stopping current _ waits _ =>
      rw [stops] at waits
      cases waits
    | idle _ _ dead _ => exact absurd running.live (dead index)

/-- With no recording in the slot the status is the last one, and it says so. -/
theorem status_last (orderly : Orderly s) (slot : s.active = none) (nowMs : ℕ) :
    recordingStatus s nowMs = s.last.getD .idle ∧ (recordingStatus s nowMs).recording = false := by
  have status : recordingStatus s nowMs = s.last.getD .idle := by
    rw [recordingStatus, slot]
    rfl
  refine ⟨status, ?_⟩
  rw [status]
  cases last : s.last with
  | none => rfl
  | some status => exact orderly.closed status last

/-- A status is live exactly while a capture is running, and else it is the newest one. -/
theorem status_honest (orderly : Orderly s) (runs : SlotRuns s)
    (stops : ∀ index ∈ s.stopping, holdsAt s isFinalizing index = true) (nowMs : ℕ) :
    ((recordingStatus s nowMs).recording = true ↔ ∃ index, Running s index) ∧
      ((¬ ∃ index, Live s index) → recordingStatus s nowMs = lastStarted s) := by
  cases orderly.phase with
  | recording index slot _ _ =>
    obtain ⟨capture, present, looping⟩ := runs.running slot
    have status : recordingStatus s nowMs = activeStatus capture nowMs := by
      rw [recordingStatus, slot, Option.bind_some, present]
    rw [status]
    exact ⟨⟨fun _ => ⟨index, capture, present, looping⟩, fun _ => rfl⟩,
      fun dead => absurd ⟨index, capture, present, live_of_loop looping⟩ dead⟩
  | stopping index slot waits newest =>
    obtain ⟨capture, present, finalizing⟩ :=
      holds_at_iff.mp (stops index (by rw [waits]; exact List.mem_cons_self))
    obtain ⟨live, past⟩ := Bool.and_eq_true_iff.mp finalizing
    rw [(status_last orderly slot nowMs).2]
    refine ⟨⟨fun same => (by cases same), fun ⟨other, running⟩ => ?_⟩,
      fun dead => absurd ⟨index, capture, present, live⟩ dead⟩
    have same := orderly.earlier other running.live
    obtain rfl : other = index := by omega
    obtain ⟨entry, found, looping⟩ := running
    obtain rfl := Option.some.inj (present.symm.trans found)
    rw [looping] at past
    cases past
  | idle slot _ dead recorded =>
    obtain ⟨last, closed⟩ := status_last orderly slot nowMs
    rw [closed]
    refine ⟨⟨fun same => (by cases same), fun ⟨index, running⟩ => ?_⟩, fun _ => ?_⟩
    · exact absurd running.live (dead index)
    · rw [last, recorded, lastStarted]

/-- The status of a capture that failed names the failure. -/
theorem join_honest (orderly : Orderly s) (index : ℕ) (display : String) :
    Honest s (.join index display) := by
  intro capture present after reply ended reason failed
  have sound := orderly.sound index capture present
  unfold joined at ended
  split at ended
  · next status done =>
    cases ended
    exact ⟨status, rfl, sound.reported status done reason failed⟩
  · next panicked => exact absurd panicked sound.running
  all_goals cases ended

theorem orderly_initial : Orderly State.new where
  phase := .idle rfl rfl (fun index ⟨capture, found, _⟩ => by cases found) rfl
  earlier := fun index ⟨capture, found, _⟩ => by cases found
  sound := fun index capture found => by cases found
  closed := nofun

/-- In every run in turn at most one capture is live, a start is refused and a status is live
exactly while one is running, a failure is reported, and without a live capture the status is that
of the recording that was started last. -/
theorem recording_reported (reached : Reachable machine InTurn s) {label : Label}
    (inTurn : InTurn s label) (taken : step s label = some t) :
    AtMostOne s ∧ AtMostOne t ∧ Honest s label := by
  have invariant : Inductive machine InTurn Orderly :=
    ⟨orderly_initial, fun orderly inTurn taken => orderly_step orderly inTurn taken⟩
  have orderly := invariant.holds reached
  refine ⟨orderly.at_most_one, (orderly_step orderly inTurn taken).at_most_one, ?_⟩
  cases label with
  | start fps opened nowMs => exact start_refused_iff orderly inTurn.1 inTurn.2.1 fps nowMs
  | status nowMs => exact status_honest orderly inTurn.1 inTurn.2 nowMs
  | join index display => exact join_honest orderly index display
  | stop | signal | begin | wake | tick | rendered | recorderFails | finalize | shutdown =>
    exact trivial

end Steps

/-- A recording is started and its first frame is rendered. -/
def recordingStarts (index : ℕ) : List Label :=
  [.start 30 (.ok ("a.avi", "mjpeg")) 0, .begin index, .tick index, .rendered index (.ok ()) 1]

/-- The recorder fails, the next push finds it dead, and the recording is stopped. -/
def recorderFailed : List Label :=
  recordingStarts 0 ++
    [.recorderFails 0 "disk full", .tick 0, .rendered 0 (.ok ()) 34, .stop, .signal 0,
      .finalize 0 (.ok ⟨"a.avi", "mjpeg", 1, 0⟩)]

def beforeJoin : State := finalState machine InTurn recorderFailed (by decide +kernel)

def afterJoin : State :=
  finalState machine InTurn (recorderFailed ++ [.join 0 ""]) (by decide +kernel)

theorem recording_reported_failure :
    AtMostOne beforeJoin ∧ AtMostOne afterJoin ∧ Honest beforeJoin (.join 0 "") ∧
      afterJoin.last = some ⟨false, some "a.avi", some "mjpeg", 30, 1, 34, some "disk full"⟩ := by
  have reached : Reachable machine InTurn beforeJoin := final_state_reachable _ _ _ _
  have inTurn : InTurn beforeJoin (.join 0 "") := trivial
  have taken : step beforeJoin (.join 0 "") = some afterJoin := by decide +kernel
  obtain ⟨before, after, honest⟩ := recording_reported reached inTurn taken
  exact ⟨before, after, honest, by decide +kernel⟩

/-- The second frame cannot be rendered. -/
def renderFailed : State :=
  finalState machine anyStep
    (recordingStarts 0 ++ [.tick 0, .rendered 0 (.error "rendering failed") 34]) (by decide +kernel)

/-- The recording is stopped afterwards. -/
def stoppedAfterwards : State :=
  finalState machine anyStep
    (recordingStarts 0 ++ [.tick 0, .rendered 0 (.error "rendering failed") 34, .stop, .signal 0,
      .finalize 0 (.ok ⟨"a.avi", "mjpeg", 1, 0⟩), .join 0 ""]) (by decide +kernel)

/-- A second viewer starts a recording while a stop of the first one waits for its task. -/
def overlapping : State :=
  finalState machine anyStep (recordingStarts 0 ++ [.stop] ++ recordingStarts 1) (by decide +kernel)

/-- A recording is started at a rate that leaves no period, and its task panics. -/
def panickedAtOnce : State :=
  finalState machine anyStep [.start 1001 (.ok ("a.avi", "mjpeg")) 0, .begin 0] (by decide +kernel)

theorem not_running {s : State} (ended : ∀ capture ∈ s.captures, capture.inLoop = false) :
    ¬ ∃ index, Running s index := by
  rintro ⟨index, capture, found, looping⟩
  rw [ended capture (List.mem_of_getElem? found)] at looping
  cases looping

/-- Captures that ended are reported as running, one of them later without its failure, and two
captures run at once. -/
theorem recording_misreported :
    (Reachable machine anyStep renderFailed ∧ (recordingStatus renderFailed 99).recording = true ∧
        ¬ ∃ index, Running renderFailed index) ∧
      (Reachable machine anyStep stoppedAfterwards ∧
        stoppedAfterwards.captures.map Capture.failure = [some "rendering failed"] ∧
        (recordingStatus stoppedAfterwards 99).error = none) ∧
      (Reachable machine anyStep panickedAtOnce ∧
        (recordingStatus panickedAtOnce 99).recording = true ∧
        ¬ ∃ index, Running panickedAtOnce index) ∧
      (Reachable machine anyStep overlapping ∧ ¬ AtMostOne overlapping) := by
  refine ⟨⟨final_state_reachable _ _ _ _, by decide +kernel, not_running (by decide +kernel)⟩,
    ⟨final_state_reachable _ _ _ _, by decide +kernel, by decide +kernel⟩,
    ⟨final_state_reachable _ _ _ _, by decide +kernel, not_running (by decide +kernel)⟩,
    ⟨final_state_reachable _ _ _ _, fun once => ?_⟩⟩
  have first : Live overlapping 0 := holds_at_iff.mp (by decide +kernel)
  have second : Live overlapping 1 := holds_at_iff.mp (by decide +kernel)
  exact absurd (once 0 1 first second) (by decide)

end ADesk.Viewer.RecordingReports
