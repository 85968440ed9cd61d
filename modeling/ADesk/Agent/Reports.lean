/- ADesk/Agent/Reports
   digest: The books of the loop over its runs, and when a report agrees with its definitions. -/

import ADesk.Agent.Accounts

set_option autoImplicit false

namespace ADesk.Agent.Reports

open ADesk.Agent.Accounts
open ADesk.Agent.Costs
open ADesk.Agent.Errors
open ADesk.Agent.Execute (ActionKind Call LoopConfig execute)
open ADesk.Foundation.Execution
open ADesk.Foundation.Rotation

universe u

variable {Observation : Type u} {setup : Setup} {opened pending : ℕ} {b : Books Observation}

/-! ## One step of the recorder -/

theorem recorded_outcomes (m : Metrics) (kind : ActionKind) (readback : Bool)
    (image : Option ImagePayload) :
    (m.recordAction kind readback image).steps = m.steps ∧
      (m.recordAction kind readback image).failures = m.failures := by
  unfold Metrics.recordAction
  split
  · exact ⟨rfl, rfl⟩
  · cases image with
    | none => exact ⟨rfl, rfl⟩
    | some image => exact ⟨rfl, rfl⟩

theorem recorded_images (m : Metrics) {kind : ActionKind} (acting : kind ≠ .finish)
    (readback : Bool) (image : Option ImagePayload) :
    (m.recordAction kind readback image).imagesSent = m.imagesSent + image.isSome.toNat := by
  unfold Metrics.recordAction
  rw [if_neg acting]
  cases image with
  | none => rfl
  | some image => rfl

/-- A step is recorded with one image sent for a readback, and neither a step nor a failure. -/
theorem recorded_metrics (m : Metrics) {kind : ActionKind} (acting : kind ≠ .finish)
    (execution : Execution Observation) (error : Option Error) :
    let after := AgentLoop.recordedMetrics m kind execution error
    after.steps = m.steps ∧ after.failures = m.failures ∧
      after.imagesSent = m.imagesSent + execution.image.isSome.toNat := by
  unfold AgentLoop.recordedMetrics
  have recorded : ∀ readback, let after := m.recordAction kind readback execution.image
      after.steps = m.steps ∧ after.failures = m.failures ∧
        after.imagesSent = m.imagesSent + execution.image.isSome.toNat := fun readback =>
    have outcomes := recorded_outcomes m kind readback execution.image
    ⟨outcomes.1, outcomes.2, recorded_images m acting readback execution.image⟩
  cases error with
  | none => exact recorded _
  | some error =>
    simp only
    split
    · exact recorded _
    · next landed =>
      have unseen : execution.image.isSome = false := by
        rw [Bool.not_eq_true, Bool.or_eq_false_iff] at landed
        exact landed.2
      rw [unseen]
      exact ⟨rfl, rfl, rfl⟩

theorem recorded_sane {m : Metrics} (sane : m.Sane) (kind : ActionKind)
    (execution : Execution Observation) (error : Option Error) :
    (AgentLoop.recordedMetrics m kind execution error).Sane := by
  unfold AgentLoop.recordedMetrics
  cases error with
  | none => exact (sane.recordAction kind _ _).recordSuccess
  | some error =>
    simp only
    split
    · exact sane.recordAction kind _ _
    · exact sane

/-! ## One step of the images -/

theorem set_image_count (maxImages : ℕ) {images : ContextBuilder} (rotated : images.Rotated)
    (image : ImagePayload) :
    (images.setImage maxImages (some image)).imageCount =
      place (min 2 maxImages) images.imageCount true := by
  unfold ContextBuilder.setImage
  simp only [place, if_true]
  split
  · next none_kept =>
    rw [none_kept]
    rfl
  · next kept =>
    have nonzero : 0 < maxImages := Nat.pos_of_ne_zero kept
    by_cases two : 2 ≤ maxImages
    · rw [if_pos two, Nat.min_eq_left two]
      unfold ContextBuilder.imageCount ContextBuilder.Rotated at *
      cases current : images.currentImage with
      | none =>
        cases older : images.keyframe with
        | none => rfl
        | some keyframe =>
          rw [current, older] at rotated
          exact absurd (rotated rfl) (by simp)
      | some present =>
        cases images.keyframe with
        | none => rfl
        | some keyframe => rfl
    · have one : maxImages = 1 := by omega
      subst one
      rw [if_neg two]
      show 1 = min 1 (images.imageCount + 1)
      omega

/-- The builder is a shelf that a readback is placed on, if the provider can consume it. -/
theorem recorded_context {images : ContextBuilder} (rotated : images.Rotated)
    (within : images.imageCount ≤ setup.capacity) (image : Option ImagePayload) :
    (AgentLoop.recordedContext setup images image).Rotated ∧
      (AgentLoop.recordedContext setup images image).imageCount =
        place setup.capacity images.imageCount image.isSome := by
  unfold AgentLoop.recordedContext
  cases image with
  | none => exact ⟨rotated, rfl⟩
  | some image =>
    unfold Setup.capacity at within ⊢
    simp only
    split
    · next consumes =>
      exact ⟨ContextBuilder.rotated_set_image _ _ _, set_image_count _ rotated image⟩
    · next textOnly =>
      rw [if_neg textOnly] at within
      refine ⟨rotated, ?_⟩
      show images.imageCount = min 0 (images.imageCount + 1)
      omega

/-! ## One step of the books -/

theorem new_booked (setup : Setup) :
    Booked setup 0 0 (AgentLoop.new : AgentLoop Observation).books where
  sane := Metrics.Sane.new
  steps := rfl
  failures := rfl
  images := rfl
  rotated := id
  shelf := rfl
  shown := rfl
  told := fun _ member => absurd member List.not_mem_nil

theorem within (booked : Booked setup opened pending b) :
    b.context.imageCount ≤ setup.capacity := by
  rw [booked.shelf]
  exact shelf_le (Nat.zero_le _) _

theorem told_of_step (record : StepRecord Observation)
    (status : record.status = AgentLoop.stepStatus record.attempts record.error)
    (attempted : record.error.isSome = true → 1 ≤ record.attempts) : record.Told := by
  refine ⟨?_, ?_, attempted⟩
  · rw [status]
    unfold AgentLoop.stepStatus
    cases record.error with
    | some error => simp
    | none =>
      simp only
      split
      · simp
      · simp
  · rw [status]
    unfold AgentLoop.stepStatus
    cases record.error with
    | some error => simp
    | none =>
      simp only
      split
      · next some_failed => simp [some_failed]
      · next none_failed => simp [none_failed]

/-- A record added to the books closes the step under way. -/
theorem Booked.close (booked : Booked setup 1 pending b) {after : Books Observation}
    (record : StepRecord Observation) (sane : after.metrics.Sane)
    (steps : after.metrics.steps = b.metrics.steps)
    (failures : after.metrics.failures = b.metrics.failures)
    (images : after.metrics.imagesSent = b.metrics.imagesSent + record.readback.toNat)
    (rotated : after.context.Rotated)
    (placed : after.context.imageCount =
      place setup.capacity b.context.imageCount record.readback)
    (history : after.history = b.history ++ [record]) (contexts : after.contexts = b.contexts)
    (attempts : record.attempts = pending) (told : record.Told) :
    Booked setup 0 0 after where
  sane := sane
  steps := by
    rw [steps, history, booked.steps, List.length_append, List.length_singleton]
  failures := by
    rw [failures, history, booked.failures, List.map_append, List.sum_append, ← attempts]
    simp
  images := by
    rw [images, history, booked.images]
    unfold readbacks
    rw [List.map_append, List.map_singleton, arrivals_append]
    cases record.readback with
    | true => rfl
    | false => rfl
  rotated := rotated
  shelf := by
    rw [placed, history, booked.shelf]
    unfold readbacks
    rw [List.map_append, List.map_singleton, shelf_append]
  shown := by
    rw [contexts, history, booked.shown, Nat.one_mul, Nat.zero_mul, Nat.add_zero, booked.shelf]
    unfold readbacks
    rw [List.map_append, List.map_singleton, showings_append]
  told := by
    rw [history]
    intro other member
    rcases List.mem_append.mp member with earlier | last
    · exact booked.told other earlier
    · rw [List.mem_singleton.mp last]
      exact told

theorem recorded_booked {a : AgentLoop Observation} {kind : ActionKind}
    {execution : Execution Observation} {error : Option Error}
    (booked : Booked setup 1 execution.attempts a.books) (acting : kind ≠ .finish)
    (attempted : error.isSome = true → 1 ≤ execution.attempts) (latencyMs : ℕ) :
    Booked setup 0 0 (a.recordStep setup kind latencyMs execution error).books := by
  obtain ⟨steps, failures, images⟩ := recorded_metrics a.metrics acting execution error
  obtain ⟨rotated, placed⟩ := recorded_context booked.rotated (within booked) execution.image
  let record := a.stepRecord kind latencyMs execution error
  exact Booked.close booked record (recorded_sane booked.sane kind execution error) steps failures
    images rotated placed rfl rfl rfl (told_of_step record rfl attempted)

theorem finish_booked {a : AgentLoop Observation} (booked : Booked setup 1 0 a.books)
    (latencyMs : ℕ) : Booked setup 0 0 (a.finish latencyMs).books :=
  Booked.close booked _ booked.sane rfl rfl rfl booked.rotated rfl rfl rfl rfl
    ⟨by simp, by simp, by simp⟩

/-! ## The books over a run -/

/-- A loop that has not failed has its books in order. -/
def Kept (setup : Setup) (a : AgentLoop Observation) : Prop :=
  match a.phase with
  | .idle => Booked setup 0 0 a.books
  | .deciding => Booked setup 1 0 a.books
  | .calling kind _ _ _ _ execution =>
    kind ≠ .finish ∧ Booked setup 1 execution.attempts a.books
  | .failed _ => True

theorem begin_kept {a : AgentLoop Observation} (booked : Booked setup 0 0 a.books) :
    Kept setup (a.beginStep setup) := by
  unfold AgentLoop.beginStep
  split
  · show Booked setup 1 0 _
    refine ⟨booked.sane.recordStep, ?_, booked.failures, booked.images, booked.rotated,
      booked.shelf, ?_, booked.told⟩
    · show a.metrics.steps + 1 = a.history.length + 1
      rw [show a.metrics.steps = _ from booked.steps]
      rfl
    · show ((a.contexts ++ [a.context.build]).map AgentContext.imageCount).sum = _
      have shown := booked.shown
      rw [List.map_append, List.sum_append, show (a.contexts.map _).sum = _ from shown]
      simp [AgentLoop.books]
  · exact booked

theorem advance_kept {a : AgentLoop Observation} {kind : ActionKind}
    {execution : Execution Observation} (acting : kind ≠ .finish)
    (booked : Booked setup 1 execution.attempts a.books) (latencyMs : ℕ) (calls : List Call) :
    Kept setup (a.advance setup kind latencyMs execution calls) := by
  cases calls with
  | cons call rest => exact ⟨acting, booked⟩
  | nil =>
    have recorded : Booked setup 0 0
        (a.recordStep setup kind latencyMs execution none).books :=
      recorded_booked booked acting (fun failed => absurd failed (by simp)) latencyMs
    exact begin_kept recorded

theorem abandon_kept {a : AgentLoop Observation} {kind : ActionKind}
    {execution : Execution Observation} (acting : kind ≠ .finish)
    (booked : Booked setup 1 execution.attempts a.books) (attempted : 1 ≤ execution.attempts)
    (latencyMs : ℕ) (error : Error) :
    Kept setup (a.abandon setup kind latencyMs execution error) := by
  have recorded : Booked setup 0 0
      (a.recordStep setup kind latencyMs execution (some error)).books :=
    recorded_booked booked acting (fun _ => attempted) latencyMs
  unfold AgentLoop.abandon
  simp only
  split
  · trivial
  · split
    · exact recorded
    · exact begin_kept recorded

/-- One failed attempt, recorded in the metrics and pending in the step. -/
theorem failure_booked {m : Metrics} {images : ContextBuilder}
    {history : List (StepRecord Observation)} {contexts : List AgentContext}
    (booked : Booked setup opened pending ⟨m, images, history, contexts⟩) (error : Error) :
    Booked setup opened (pending + 1) ⟨m.recordFailure error, images, history, contexts⟩ := by
  refine ⟨booked.sane.recordFailure error, booked.steps, ?_, booked.images, booked.rotated,
    booked.shelf, booked.shown, booked.told⟩
  show m.failures + 1 = _
  rw [show m.failures = _ from booked.failures]
  rfl

theorem decision_booked {m : Metrics} {images : ContextBuilder}
    {history : List (StepRecord Observation)} {contexts : List AgentContext}
    (booked : Booked setup opened pending ⟨m, images, history, contexts⟩) (latencyMs : ℕ) :
    Booked setup opened pending ⟨m.recordDecision latencyMs, images, history, contexts⟩ :=
  ⟨booked.sane.recordDecision latencyMs, booked.steps, booked.failures, booked.images,
    booked.rotated, booked.shelf, booked.shown, booked.told⟩

theorem record_attempts (execution : Execution Observation) (answer : Answer Observation) :
    (execution.record answer).attempts = execution.attempts := by
  cases answer with
  | _ => rfl

theorem kept_step {a after : AgentLoop Observation} {label : Label Observation}
    (kept : Kept setup a) (taken : step setup a label = some after) : Kept setup after := by
  cases label with
  | run =>
    simp only [step] at taken
    split at taken
    · next idle =>
      simp only [Kept, idle] at kept
      obtain rfl := Option.some.inj taken
      exact begin_kept kept
    · cases taken
  | giveUp error =>
    simp only [step] at taken
    split at taken
    · obtain rfl := Option.some.inj taken
      trivial
    · cases taken
  | decide kind latencyMs =>
    simp only [step] at taken
    split at taken
    · next deciding =>
      simp only [Kept, deciding] at kept
      have decided := decision_booked kept latencyMs
      split at taken
      · obtain rfl := Option.some.inj taken
        exact finish_booked decided latencyMs
      · next acting =>
        obtain rfl := Option.some.inj taken
        exact advance_kept acting decided latencyMs _
    · cases taken
  | answer answer =>
    simp only [step] at taken
    split at taken
    · next kind latencyMs call rest retry execution calling =>
      simp only [Kept, calling] at kept
      obtain ⟨acting, booked⟩ := kept
      split at taken
      · obtain rfl := Option.some.inj taken
        apply advance_kept acting
        rw [record_attempts]
        cases answer with
        | _ => exact booked
      · cases taken
    · cases taken
  | fail error =>
    simp only [step] at taken
    split at taken
    · next kind latencyMs call rest retry execution calling =>
      simp only [Kept, calling] at kept
      obtain ⟨acting, booked⟩ := kept
      have failed := failure_booked booked error
      split at taken
      · cases taken
      · split at taken
        · obtain rfl := Option.some.inj taken
          exact ⟨acting, failed⟩
        · obtain rfl := Option.some.inj taken
          exact abandon_kept acting failed (Nat.succ_le_succ (Nat.zero_le _)) latencyMs error
    · cases taken

theorem kept_reachable {a : AgentLoop Observation}
    (reached : Reachable (machine Observation setup) anyStep a) : Kept setup a := by
  have start : Kept setup (AgentLoop.new : AgentLoop Observation) := new_booked setup
  have books : Inductive (machine Observation setup) anyStep (Kept setup) :=
    ⟨start, fun kept _ taken => kept_step kept taken⟩
  exact books.holds reached

/-! ## Reports -/

/-- The step ended with an error. -/
def endedInError : StepStatus → Bool
  | .failed => true
  | .ok | .recovered | .finished => false

/-- The step failed at least once, whether or not it ultimately succeeded. -/
def everFailed : StepStatus → Bool
  | .failed | .recovered => true
  | .ok | .finished => false

theorem ended_error {record : StepRecord Observation} (told : record.Told) :
    endedInError record.status = record.error.isSome := by
  have failed := told.failed
  cases status : record.status with
  | failed => exact (failed.mp status).symm
  | _ =>
    rw [status] at failed
    exact (Bool.eq_false_iff.mpr fun errored => absurd (failed.mpr errored) (by decide)).symm

theorem ever_failed {record : StepRecord Observation} (told : record.Told) :
    everFailed record.status = true ↔ 1 ≤ record.attempts := by
  have failed := told.failed
  have recovered := told.recovered
  have attempted := told.attempted
  cases status : record.status with
  | failed => exact ⟨fun _ => attempted (failed.mp status), fun _ => rfl⟩
  | recovered => exact ⟨fun _ => (recovered.mp status).2, fun _ => rfl⟩
  | _ =>
    rw [status] at failed recovered
    cases error : record.error with
    | some error =>
      rw [error] at failed
      exact absurd (failed.mpr rfl) (by decide)
    | none =>
      refine ⟨fun errored => absurd errored (by decide), fun some_failed => ?_⟩
      exact absurd (recovered.mpr ⟨error, some_failed⟩) (by decide)

/-- The report agrees with the recorded steps and with the contexts of the run, the steps that
errored being those of the given statuses. -/
structure Agrees (errored : StepStatus → Bool) (report : MetricsReport)
    (history : List (StepRecord Observation)) (contexts : List AgentContext) : Prop where
  failures : report.failures = history.countP fun record => errored record.status
  bounded : report.failures ≤ report.steps
  rate : report.failureRate ≤ 1
  recovered : report.recoveries ≤ report.failures
  split : report.actions = report.runtimeOps + report.inputActions
  kinds : report.actions = total report.actionsByKind
  images : report.imagesSent = (contexts.map AgentContext.imageCount).sum

theorem rate_le_one {m : Metrics} (bounded : m.failures ≤ m.steps) (task : String)
    (success : Bool) (reason : StopReason) : (m.report task success reason).failureRate ≤ 1 := by
  show (if m.steps = 0 then 0 else (m.failures : ℚ) / m.steps) ≤ 1
  split
  · exact zero_le_one
  · next some_steps =>
    have positive : (0 : ℚ) < m.steps := Nat.cast_pos.mpr (Nat.pos_of_ne_zero some_steps)
    rw [div_le_one positive]
    exact Nat.cast_le.mpr bounded

/-- What is left to agree once the books are in order. -/
theorem agrees_iff {a : AgentLoop Observation} (booked : Booked setup 0 0 a.books)
    (errored : StepStatus → Bool)
    (attempted : ∀ record ∈ a.history, errored record.status = true → 1 ≤ record.attempts)
    (task : String) (success : Bool) (reason : StopReason) :
    Agrees errored (a.metrics.report task success reason) a.history a.contexts ↔
      (∀ record ∈ a.history,
        record.attempts = if errored record.status then 1 else 0) ∧
      Balanced setup.capacity (readbacks a.history) := by
  have failures : a.metrics.failures = (a.history.map StepRecord.attempts).sum :=
    booked.failures
  have counted : a.metrics.failures = a.history.countP (fun record => errored record.status) ↔
      ∀ record ∈ a.history, record.attempts = if errored record.status then 1 else 0 := by
    rw [failures]
    exact sum_eq_count a.history StepRecord.attempts (fun record => errored record.status)
      attempted
  have small : setup.capacity ≤ 2 := by
    unfold Setup.capacity
    split
    · exact Nat.min_le_left 2 _
    · exact Nat.zero_le 2
  have sent : a.metrics.imagesSent = arrivals (readbacks a.history) := booked.images
  have shown : (a.contexts.map AgentContext.imageCount).sum =
      showings setup.capacity 0 (readbacks a.history) := by
    have all := booked.shown
    rw [Nat.zero_mul, Nat.add_zero] at all
    exact all
  have pictured : a.metrics.imagesSent = (a.contexts.map AgentContext.imageCount).sum ↔
      Balanced setup.capacity (readbacks a.history) := by
    rw [sent, shown, eq_comm]
    exact showings_eq_arrivals small _
  rw [← counted, ← pictured]
  constructor
  · intro agrees
    exact ⟨agrees.failures, agrees.images⟩
  · rintro ⟨erred, images⟩
    have steps : a.metrics.steps = a.history.length := booked.steps
    have bounded : a.metrics.failures ≤ a.metrics.steps := by
      rw [erred, steps]
      exact List.countP_le_length
    have recovered := booked.sane.recovered
    exact ⟨erred, bounded, rate_le_one bounded task success reason,
      Nat.le_trans (Nat.le_add_right _ _) recovered, booked.sane.split, booked.sane.kinds, images⟩

/-- At the end of a run the report agrees with the steps that ended in an error exactly if no
attempt was tried again, and with those that ever failed exactly if none failed twice; in both
cases the images read back must balance those of the contexts. -/
theorem report_agrees {a : AgentLoop Observation}
    (reached : Reachable (machine Observation setup) anyStep a) (ended : a.phase = .idle)
    (task : String) (success : Bool) (reason : StopReason) :
    (Agrees endedInError (a.metrics.report task success reason) a.history a.contexts ↔
      (∀ record ∈ a.history, record.attempts = if record.error.isSome then 1 else 0) ∧
        Balanced setup.capacity (readbacks a.history)) ∧
    (Agrees everFailed (a.metrics.report task success reason) a.history a.contexts ↔
      (∀ record ∈ a.history, record.attempts ≤ 1) ∧
        Balanced setup.capacity (readbacks a.history)) := by
  have booked := kept_reachable reached
  simp only [Kept, ended] at booked
  have told : ∀ record ∈ a.history, record.Told := booked.told
  constructor
  · rw [agrees_iff booked endedInError (fun record member errored =>
      (told record member).attempted (ended_error (told record member) ▸ errored))]
    refine and_congr_left fun _ => forall₂_congr fun record member => ?_
    rw [ended_error (told record member)]
  · rw [agrees_iff booked everFailed (fun record member errored =>
      (ever_failed (told record member)).mp errored)]
    refine and_congr_left fun _ => forall₂_congr fun record member => ?_
    have failed := ever_failed (told record member)
    by_cases some_failed : 1 ≤ record.attempts
    · rw [if_pos (failed.mpr some_failed)]
      omega
    · rw [if_neg fun errored => some_failed (failed.mp errored)]
      omega

/-- A window is captured, and the task is over. -/
def captureOnce : AgentLoop Unit :=
  finalState (machine Unit Setup.default) anyStep
    [.run, .decide .capture 5, .answer (.captured ⟨800, 600, "frame"⟩), .decide .finish 5]
    (by decide +kernel)

theorem report_agrees_capture :
    Agrees endedInError (captureOnce.metrics.report "look" true .finished) captureOnce.history
        captureOnce.contexts ∧
      Agrees everFailed (captureOnce.metrics.report "look" true .finished) captureOnce.history
        captureOnce.contexts := by
  have agrees := report_agrees (final_state_reachable (machine Unit Setup.default) anyStep
    [.run, .decide .capture 5, .answer (.captured ⟨800, 600, "frame"⟩), .decide .finish 5]
    (by decide +kernel)) rfl "look" true .finished
  exact ⟨agrees.1.mpr ⟨by decide +kernel, by decide +kernel⟩,
    agrees.2.mpr ⟨by decide +kernel, by decide +kernel⟩⟩

/-- The capture is answered at the third attempt, and its frame is in two contexts. -/
def captureRetried : AgentLoop Unit :=
  finalState (machine Unit Setup.default) anyStep
    [.run, .decide .capture 5, .fail (.client .busy "busy"), .fail (.client .busy "busy"),
      .answer (.captured ⟨800, 600, "frame"⟩), .decide .listWindows 5, .answer .plain,
      .decide .finish 5]
    (by decide +kernel)

/-- One step failed twice before it succeeded: it counts as two failures, whatever the reading. The
image that was read back once was sent twice. -/
theorem failures_per_attempt :
    Reachable (machine Unit Setup.default) anyStep captureRetried ∧
      captureRetried.history.map StepRecord.status = [.recovered, .ok, .finished] ∧
      captureRetried.metrics.failures = 2 ∧ captureRetried.metrics.imagesSent = 1 ∧
      captureRetried.contexts.map AgentContext.imageCount = [0, 1, 1] ∧
      ¬ Agrees endedInError (captureRetried.metrics.report "look" true .finished)
          captureRetried.history captureRetried.contexts ∧
      ¬ Agrees everFailed (captureRetried.metrics.report "look" true .finished)
          captureRetried.history captureRetried.contexts := by
  refine ⟨final_state_reachable _ _ _ _, by decide +kernel, by decide +kernel,
    by decide +kernel, by decide +kernel, ?_, ?_⟩
  · intro agrees
    exact absurd agrees.failures (by decide +kernel)
  · intro agrees
    exact absurd agrees.failures (by decide +kernel)

end ADesk.Agent.Reports
