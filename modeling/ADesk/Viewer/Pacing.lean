/- ADesk/Viewer/Pacing
   digest: A recording captured on time: the ticks of its task, the file of its recorder, and the
   rates at which the file plays as long as the capture took. -/

import Mathlib.Algebra.Order.Archimedean.Basic
import Mathlib.Algebra.Order.Field.Basic
import Mathlib.Algebra.Order.Ring.Rat
import Mathlib.Algebra.Field.Rat
import Mathlib.Tactic.FieldSimp
import Mathlib.Tactic.Linarith
import ADesk.Recorder.Mjpeg
import ADesk.Viewer.Recording

set_option autoImplicit false

namespace ADesk.Viewer.Pacing

open ADesk.Recorder.Mjpeg
open ADesk.Viewer.Recording (Capture RecordingSummary)

/-! ## The recorder -/

structure Recorder where
  path : String
  encoder : MjpegEncoder
  maxFrames : Option ℕ
  frames : ℕ
  dims : Option (UInt32 × UInt32)
  firstTsMs : Option ℕ
  lastTsMs : Option ℕ
  finished : Bool
  deriving DecidableEq

namespace Recorder

/-- A recorder with the software encoder. -/
def create (path : String) (fps : UInt32) (maxFrames : Option ℕ) :
    Except RecorderError Recorder :=
  if fps = 0 then .error (.encode "recording fps must be greater than zero")
  else .ok ⟨path, .create fps, maxFrames, 0, none, none, none, false⟩

def checkLimit (recorder : Recorder) : Except RecorderError Unit :=
  match recorder.maxFrames with
  | some limit =>
    if limit ≤ recorder.frames then
      .error (.encode ("frame limit of " ++ toString limit ++ " reached"))
    else .ok ()
  | none => .ok ()

def checkDims (recorder : Recorder) (frame : ImageBuffer) : Except RecorderError Unit :=
  match recorder.dims with
  | some (width, height) =>
    if (width, height) = (frame.width, frame.height) then .ok ()
    else
      .error (.encode ("frame size changed from " ++ sizeText width height ++ " to " ++
        sizeText frame.width frame.height))
  | none => .ok ()

/-- The recorder with a frame more. -/
def noted (recorder : Recorder) (encoder : MjpegEncoder) (shot : Shot) : Recorder :=
  { recorder with
    encoder := encoder
    dims := recorder.dims.or (some (shot.frame.width, shot.frame.height))
    firstTsMs := if recorder.dims.isNone then some shot.tsMs else recorder.firstTsMs
    lastTsMs := some shot.tsMs
    frames := recorder.frames + 1 }

def pushFrame (recorder : Recorder) (shot : Shot) : Except RecorderError Recorder :=
  if recorder.finished then .error (.backend "recorder already finalized")
  else do
    recorder.checkLimit
    recorder.checkDims shot.frame
    let encoder ← recorder.encoder.encodeFrame shot
    return recorder.noted encoder shot

/-- The frames of a session in the order they were queued; the first failure ends it. -/
def pushAll (recorder : Recorder) (shots : List Shot) : Except RecorderError Recorder :=
  shots.foldlM pushFrame recorder

/-- The time between two stamps, if there are any. -/
def spanMs : Option ℕ → Option ℕ → ℕ
  | some first, some last => last - first
  | _, _ => 0

def durationMs (recorder : Recorder) : ℕ := spanMs recorder.firstTsMs recorder.lastTsMs

/-- The summary, and the file. -/
def finish (recorder : Recorder) : RecordingSummary × List UInt8 :=
  (⟨recorder.path, "mjpeg", recorder.frames, recorder.durationMs⟩, recorder.encoder.finish)

end Recorder

/-! ## What it records -/

namespace Recorder

/-- The recorder after the frames it was pushed. -/
structure Recorded (fps : UInt32) (shots : List Shot) (recorder : Recorder) : Prop where
  held : recorder.encoder.Holds fps shots.length
  frames : recorder.frames = shots.length
  fresh : recorder.dims.isNone = shots.isEmpty
  first : recorder.firstTsMs = shots.head?.map Shot.tsMs
  last : recorder.lastTsMs = shots.getLast?.map Shot.tsMs

section Recorded

variable {path : String} {fps : UInt32} {maxFrames : Option ℕ} {recorder later : Recorder}
variable {shot : Shot} {shots : List Shot}

theorem create_ok (made : create path fps maxFrames = .ok recorder) :
    fps ≠ 0 ∧
      recorder = ⟨path, .create fps, maxFrames, 0, none, none, none, false⟩ := by
  unfold create at made
  split at made
  · cases made
  next positive =>
    cases made
    exact ⟨positive, rfl⟩

theorem push_frame_ok (pushed : recorder.pushFrame shot = .ok later) :
    ∃ encoder, recorder.encoder.encodeFrame shot = .ok encoder ∧
      later = recorder.noted encoder shot := by
  unfold pushFrame at pushed
  split at pushed
  · cases pushed
  · simp only [bind, Except.bind] at pushed
    split at pushed
    · cases pushed
    · split at pushed
      · cases pushed
      · split at pushed
        · cases pushed
        next encoder encoded =>
          cases pushed
          exact ⟨encoder, encoded, rfl⟩

theorem create_recorded (made : create path fps maxFrames = .ok recorder) :
    recorder.Recorded fps [] := by
  obtain ⟨-, rfl⟩ := create_ok made
  exact ⟨MjpegEncoder.create_holds fps, rfl, rfl, rfl, rfl⟩

theorem Recorded.frame (recorded : recorder.Recorded fps shots)
    (pushed : recorder.pushFrame shot = .ok later) : later.Recorded fps (shots ++ [shot]) := by
  obtain ⟨encoder, encoded, rfl⟩ := push_frame_ok pushed
  refine ⟨?_, ?_, ?_, ?_, ?_⟩
  · rw [List.length_append]
    exact recorded.held.frame encoded
  · rw [List.length_append, ← recorded.frames]
    rfl
  · show (recorder.dims.or _).isNone = _
    cases recorder.dims <;> cases shots <;> rfl
  · show (if recorder.dims.isNone then some shot.tsMs else recorder.firstTsMs) = _
    rw [recorded.fresh, recorded.first]
    cases shots <;> rfl
  · rw [List.getLast?_concat]
    rfl

theorem push_all_append (recorder : Recorder) (shots : List Shot) (shot : Shot) :
    recorder.pushAll (shots ++ [shot]) =
      (recorder.pushAll shots).bind fun later => later.pushFrame shot := by
  rw [pushAll, List.foldlM_append]
  show (_ : Except _ _).bind (fun later => List.foldlM pushFrame later [shot]) = _
  congr 1
  funext later
  exact bind_pure _

theorem push_all_recorded (made : create path fps maxFrames = .ok recorder)
    (pushed : recorder.pushAll shots = .ok later) : later.Recorded fps shots := by
  induction shots using List.reverseRecOn generalizing later with
  | nil =>
    cases pushed
    exact create_recorded made
  | append_singleton shots shot ih =>
    rw [push_all_append] at pushed
    cases before : recorder.pushAll shots with
    | error error =>
      rw [before] at pushed
      cases pushed
    | ok earlier =>
      rw [before] at pushed
      exact (ih before).frame pushed

end Recorded

/-! ## The frames it takes -/

/-- The recorder takes any number of frames of a size. -/
structure Takes (width height : UInt32) (recorder : Recorder) : Prop where
  running : recorder.finished = false
  unlimited : recorder.maxFrames = none
  encoding : recorder.encoder.Takes width height
  sized : ∀ dims ∈ recorder.dims, dims = (width, height)

theorem create_takes {path : String} {fps : UInt32} {recorder : Recorder}
    (made : create path fps none = .ok recorder) (width height : UInt32) :
    recorder.Takes width height := by
  obtain ⟨positive, rfl⟩ := create_ok made
  refine ⟨rfl, rfl, MjpegEncoder.create_takes positive width height, ?_⟩
  intro dims seen
  cases seen

theorem Takes.frame {recorder : Recorder} {shot : Shot}
    (taking : recorder.Takes shot.frame.width shot.frame.height)
    (encodable : MjpegEncoder.Encodable shot) :
    ∃ later, recorder.pushFrame shot = .ok later ∧
      later.Takes shot.frame.width shot.frame.height := by
  obtain ⟨encoder, encoded, ready⟩ := taking.encoding.frame encodable
  have limit : recorder.checkLimit = .ok () := by rw [checkLimit, taking.unlimited]
  have dims : recorder.checkDims shot.frame = .ok () := by
    unfold checkDims
    split
    next width height seen => exact if_pos (taking.sized _ seen)
    next => rfl
  refine ⟨recorder.noted encoder shot, ?_, taking.running, taking.unlimited, ready, ?_⟩
  · rw [pushFrame, taking.running, limit, dims, encoded]
    rfl
  · show ∀ dims ∈ recorder.dims.or (some (shot.frame.width, shot.frame.height)), _
    intro dims seen
    cases known : recorder.dims with
    | none =>
      rw [known] at seen
      cases seen
      rfl
    | some before =>
      rw [known] at seen
      exact taking.sized dims (known.trans seen)

end Recorder

/-! ## Ticks -/

/-- A tokio interval, which skips the ticks that it missed. -/
structure Interval where
  deadline : ℕ
  period : ℕ
  deriving DecidableEq

/-- The first tick is at once. A period of zero panics. -/
def interval (startMs period : ℕ) : Option Interval :=
  if period = 0 then none else some ⟨startMs, period⟩

/-- The tick that is due has been taken. One that is more than five milliseconds late leads to the
next multiple of the period. -/
def Interval.tick (ticker : Interval) (nowMs : ℕ) : Interval :=
  let next :=
    if ticker.deadline + 5 < nowMs then
      nowMs + ticker.period - (nowMs - ticker.deadline) % ticker.period
    else ticker.deadline + ticker.period
  { ticker with deadline := next }

theorem tick_due (ticker : Interval) :
    ticker.tick ticker.deadline = ⟨ticker.deadline + ticker.period, ticker.period⟩ := by
  rw [Interval.tick, if_neg (by omega)]

/-- Each frame is rendered when its tick is due. -/
def OnTime : Interval → List Shot → Prop
  | _, [] => True
  | ticker, shot :: rest => shot.tsMs = ticker.deadline ∧ OnTime (ticker.tick shot.tsMs) rest

theorem on_time_stamp {shots : List Shot} {shot : Shot} :
    ∀ {ticker : Interval}, OnTime ticker (shots ++ [shot]) →
      shot.tsMs = ticker.deadline + shots.length * ticker.period := by
  induction shots with
  | nil =>
    intro ticker due
    rw [List.length_nil, Nat.zero_mul]
    exact due.1
  | cons first rest ih =>
    rintro ticker ⟨due, later⟩
    rw [due, tick_due] at later
    have stamp : shot.tsMs = ticker.deadline + ticker.period + rest.length * ticker.period :=
      ih later
    rw [List.length_cons, Nat.add_mul]
    omega

/-! ## The capture task -/

/-- How a capture ends: by a panic, by a failure of the recorder, or with its file. -/
inductive Outcome
  | panicked
  | failed (error : RecorderError)
  | finished (summary : RecordingSummary) (file : List UInt8)
  deriving DecidableEq

/-- A capture of some frames, until it is stopped. -/
def captureTask (recorder : Recorder) (fps : UInt32) (startMs : ℕ) (shots : List Shot) : Outcome :=
  match interval startMs (Capture.period fps.toNat) with
  | none => .panicked
  | some _ =>
    match recorder.pushAll shots with
    | .error error => .failed error
    | .ok recorder => .finished recorder.finish.1 recorder.finish.2

/-- The time from the first to the last frame. -/
def elapsedMs (shots : List Shot) : ℕ :=
  Recorder.spanMs (shots.head?.map Shot.tsMs) (shots.getLast?.map Shot.tsMs)

/-- The frames over the stored rate. -/
def playbackMs (summary : RecordingSummary) (file : List UInt8) : Option ℚ :=
  (storedRate file).map fun stored => summary.frames * 1000 * stored.1 / stored.2

/-- Whatever is captured on time at a rate plays as long as it took, up to a bound. -/
def KeepsWithin (fps : UInt32) (bound : ℚ) : Prop :=
  ∀ path recorder, Recorder.create path fps none = .ok recorder → ∀ startMs shots,
    OnTime ⟨startMs, Capture.period fps.toNat⟩ shots →
      captureTask recorder fps startMs shots ≠ .panicked ∧
      ∀ summary file, captureTask recorder fps startMs shots = .finished summary file →
        shots ≠ [] → ∃ playback ∈ playbackMs summary file, |playback - elapsedMs shots| ≤ bound

section Captures

variable {fps : UInt32} {path : String} {recorder : Recorder} {startMs : ℕ} {shots : List Shot}

theorem elapsed_on_time {ticker : Interval} {count : ℕ} (due : OnTime ticker shots)
    (length : shots.length = count + 1) : elapsedMs shots = count * ticker.period := by
  cases shots with
  | nil => cases length
  | cons first rest =>
    cases rest using List.reverseRecOn with
    | nil =>
      have none_more : count = 0 := (Nat.succ.inj length).symm
      rw [none_more, Nat.zero_mul]
      exact Nat.sub_self first.tsMs
    | append_singleton middle last =>
      have whole : OnTime ticker ((first :: middle) ++ [last]) := due
      have stamp := on_time_stamp whole
      have start : first.tsMs = ticker.deadline := due.1
      have counted : (first :: middle).length = count := by
        rw [List.length_cons, List.length_append] at length
        exact Nat.succ.inj length
      have span : elapsedMs (first :: (middle ++ [last])) = last.tsMs - first.tsMs := by
        show Recorder.spanMs _ (((first :: middle) ++ [last]).getLast?.map Shot.tsMs) = _
        rw [List.getLast?_concat]
        rfl
      rw [span, stamp, start, counted, Nat.add_sub_cancel_left]

/-- What a finished capture leaves behind: its frames, counted, at the rate that was asked for. -/
theorem capture_finished {summary : RecordingSummary} {file : List UInt8}
    (made : Recorder.create path fps none = .ok recorder)
    (finished : captureTask recorder fps startMs shots = .finished summary file)
    (captured : shots ≠ []) :
    summary.frames = shots.length ∧ summary.durationMs = elapsedMs shots ∧
      storedRate file = some (1, fps.toNat) := by
  unfold captureTask at finished
  split at finished
  · cases finished
  · split at finished
    · cases finished
    next later pushed =>
      cases finished
      have recorded := Recorder.push_all_recorded made pushed
      have frames : shots.length ≠ 0 := fun none_left =>
        captured (List.length_eq_zero_iff.mp none_left)
      obtain ⟨width, height, datas, -, muxed⟩ := recorded.held.muxed frames
      refine ⟨recorded.frames, ?_, mux_rate muxed⟩
      show Recorder.spanMs later.firstTsMs later.lastTsMs = _
      rw [recorded.first, recorded.last]
      rfl

theorem capture_paced (paced : Capture.period fps.toNat ≠ 0) :
    captureTask recorder fps startMs shots ≠ .panicked := by
  rw [captureTask, interval, if_neg paced]
  cases recorder.pushAll shots with
  | error error => exact Outcome.noConfusion
  | ok later => exact Outcome.noConfusion

end Captures

/-! ## Drift -/

/-- Playing takes one period more than the capture took, and for each frame what the division of
the period drops. -/
theorem playback_drift {fps count : ℕ} (positive : 0 < fps) :
    ((count + 1 : ℕ) : ℚ) * 1000 * (1 : ℕ) / fps - (count * Capture.period fps : ℕ) =
      (Capture.period fps : ℕ) + (count + 1 : ℕ) * (1000 % fps : ℕ) / fps := by
  have nonzero : (fps : ℚ) ≠ 0 := Nat.cast_ne_zero.mpr positive.ne'
  have whole : (fps : ℚ) * (Capture.period fps : ℕ) + (1000 % fps : ℕ) = 1000 := by
    rw [Capture.period, max_eq_left positive]
    exact_mod_cast Nat.div_add_mod 1000 fps
  rw [← whole]
  push_cast
  field_simp
  ring

/-- A capture at a rate that divides a second plays exactly one period longer than it took. -/
theorem divides_keeps {fps : UInt32} (divides : fps.toNat ∣ 1000) :
    KeepsWithin fps (1000 / fps.toNat) := by
  have positive : 0 < fps.toNat := Nat.pos_of_dvd_of_pos divides (by decide)
  have whole : ((Capture.period fps.toNat : ℕ) : ℚ) = 1000 / fps.toNat := by
    rw [Capture.period, max_eq_left positive, eq_div_iff (Nat.cast_ne_zero.mpr positive.ne')]
    exact_mod_cast Nat.div_mul_cancel divides
  intro path recorder made startMs shots due
  refine ⟨capture_paced ?_, ?_⟩
  · rw [Capture.period, max_eq_left positive]
    exact (Nat.div_pos (Nat.le_of_dvd (by decide) divides) positive).ne'
  · intro summary file finished captured
    obtain ⟨frames, -, stored⟩ := capture_finished made finished captured
    obtain ⟨count, length⟩ := Nat.exists_eq_succ_of_ne_zero
      (fun none_left => captured (List.length_eq_zero_iff.mp none_left))
    have played : playbackMs summary file =
        some ((summary.frames : ℚ) * 1000 * (1 : ℕ) / fps.toNat) := by
      rw [playbackMs, stored]
      rfl
    refine ⟨_, played, ?_⟩
    rw [frames, length, elapsed_on_time due length, playback_drift positive,
      Nat.mod_eq_zero_of_dvd divides, whole, Nat.cast_zero, mul_zero, zero_div, add_zero,
      abs_of_nonneg (by positivity)]

/-! ## Rates that drift -/

/-- Frames of one picture, on time. -/
def steady (frame : ImageBuffer) (jpeg : List UInt8 → Except String (List UInt8)) :
    Interval → ℕ → List Shot
  | _, 0 => []
  | ticker, count + 1 =>
    ⟨frame, ticker.deadline, jpeg⟩ :: steady frame jpeg (ticker.tick ticker.deadline) count

section Steady

variable (frame : ImageBuffer) (jpeg : List UInt8 → Except String (List UInt8)) (count : ℕ)

theorem steady_on_time (ticker : Interval) : OnTime ticker (steady frame jpeg ticker count) := by
  induction count generalizing ticker with
  | zero => trivial
  | succ count ih => exact ⟨rfl, ih _⟩

theorem steady_length (ticker : Interval) : (steady frame jpeg ticker count).length = count := by
  induction count generalizing ticker with
  | zero => rfl
  | succ count ih => rw [steady, List.length_cons, ih]

/-- The recorder takes as many frames of one picture as come. -/
theorem steady_taken {recorder : Recorder} (ticker : Interval)
    (encodable : ∀ tsMs, MjpegEncoder.Encodable ⟨frame, tsMs, jpeg⟩)
    (taking : recorder.Takes frame.width frame.height) :
    ∃ later, recorder.pushAll (steady frame jpeg ticker count) = .ok later := by
  induction count generalizing recorder ticker with
  | zero => exact ⟨recorder, rfl⟩
  | succ count ih =>
    obtain ⟨next, pushed, ready⟩ := taking.frame (encodable ticker.deadline)
    obtain ⟨later, rest⟩ := ih (ticker.tick ticker.deadline) ready
    refine ⟨later, ?_⟩
    rw [steady, Recorder.pushAll, List.foldlM_cons, pushed]
    exact rest

end Steady

/-- A white pixel, and a JPEG without content. -/
def pixel : ImageBuffer := ⟨1, 1, 4, [255, 255, 255, 255]⟩

def emptyJpeg (_rgb : List UInt8) : Except String (List UInt8) := .ok [0xFF, 0xD8, 0xFF, 0xD9]

theorem pixel_encodable (tsMs : ℕ) : MjpegEncoder.Encodable ⟨pixel, tsMs, emptyJpeg⟩ :=
  ⟨rfl, _, _, rfl, rfl⟩

/-- A bound that is kept is kept by captures of every length. -/
theorem kept_drift {fps : UInt32} {bound : ℚ} (rated : fps ≠ 0) (kept : KeepsWithin fps bound)
    (count : ℕ) :
    (Capture.period fps.toNat : ℕ) + (count + 1 : ℕ) * (1000 % fps.toNat : ℕ) / (fps.toNat : ℚ) ≤
      bound := by
  have positive : 0 < fps.toNat := UInt32.pos_iff_ne_zero.mpr rated
  obtain ⟨recorder, made⟩ : ∃ recorder, Recorder.create "" fps none = .ok recorder :=
    ⟨_, if_neg rated⟩
  have due := steady_on_time pixel emptyJpeg (count + 1) ⟨0, Capture.period fps.toNat⟩
  have length := steady_length pixel emptyJpeg (count + 1) ⟨0, Capture.period fps.toNat⟩
  obtain ⟨later, pushed⟩ := steady_taken pixel emptyJpeg (count + 1)
    ⟨0, Capture.period fps.toNat⟩ pixel_encodable (Recorder.create_takes made 1 1)
  generalize steady pixel emptyJpeg _ _ = shots at due length pushed
  obtain ⟨paced, within⟩ := kept _ _ made 0 _ due
  have finished : captureTask recorder fps 0 shots =
      .finished later.finish.1 later.finish.2 := by
    unfold captureTask at paced ⊢
    cases ticking : interval 0 (Capture.period fps.toNat) with
    | none =>
      rw [ticking] at paced
      exact absurd rfl paced
    | some ticker => rw [pushed]
  have captured : shots ≠ [] := by
    rintro rfl
    cases length
  obtain ⟨frames, -, stored⟩ := capture_finished made finished captured
  obtain ⟨playback, played, near⟩ := within _ _ finished captured
  rw [playbackMs, stored] at played
  cases played
  rw [← playback_drift positive, ← elapsed_on_time due length, ← length, ← frames]
  exact (le_abs_self _).trans near

/-- Only at a rate that divides a second is there a bound. -/
theorem kept_divides {fps : UInt32} {bound : ℚ} (rated : fps ≠ 0)
    (kept : KeepsWithin fps bound) : fps.toNat ∣ 1000 := by
  have positive : (0 : ℚ) < fps.toNat := Nat.cast_pos.mpr (UInt32.pos_iff_ne_zero.mpr rated)
  by_contra uneven
  have dropped : 1 ≤ 1000 % fps.toNat := Nat.pos_of_ne_zero fun none_dropped =>
    uneven (Nat.dvd_of_mod_eq_zero none_dropped)
  obtain ⟨count, long⟩ := exists_nat_gt (bound * fps.toNat)
  have drifted := kept_drift rated kept count
  have some_drift : ((count + 1 : ℕ) : ℚ) ≤ (count + 1 : ℕ) * (1000 % fps.toNat : ℕ) :=
    le_mul_of_one_le_right (Nat.cast_nonneg _) (by exact_mod_cast dropped)
  have least : ((count + 1 : ℕ) : ℚ) / fps.toNat ≤ bound :=
    calc ((count + 1 : ℕ) : ℚ) / fps.toNat
        ≤ (count + 1 : ℕ) * (1000 % fps.toNat : ℕ) / fps.toNat := by gcongr
      _ ≤ (Capture.period fps.toNat : ℕ) +
          (count + 1 : ℕ) * (1000 % fps.toNat : ℕ) / (fps.toNat : ℚ) :=
        le_add_of_nonneg_left (Nat.cast_nonneg _)
      _ ≤ bound := drifted
  rw [div_le_iff₀ positive] at least
  push_cast at least
  linarith

/-! ## The rates that keep pace -/

/-- A file plays as long as its capture took, up to one frame or up to any bound at all, exactly at
the rates that divide a second. -/
theorem pace_kept_iff (fps : UInt32) :
    (KeepsWithin fps (1000 / fps.toNat) ↔ fps = 0 ∨ fps.toNat ∣ 1000) ∧
      ((∃ bound, KeepsWithin fps bound) ↔ fps = 0 ∨ fps.toNat ∣ 1000) := by
  have rejected : fps = 0 → ∀ bound, KeepsWithin fps bound := by
    rintro rfl bound path recorder made
    cases made
  have kept : fps = 0 ∨ fps.toNat ∣ 1000 → KeepsWithin fps (1000 / fps.toNat) := by
    rintro (none_asked | divides)
    · exact rejected none_asked _
    · exact divides_keeps divides
  have only : (∃ bound, KeepsWithin fps bound) → fps = 0 ∨ fps.toNat ∣ 1000 := by
    rintro ⟨bound, within⟩
    rcases eq_or_ne fps 0 with none_asked | rated
    · exact Or.inl none_asked
    · exact Or.inr (kept_divides rated within)
  exact ⟨⟨fun within => only ⟨_, within⟩, kept⟩, ⟨only, fun even => ⟨_, kept even⟩⟩⟩

/-- The default rate drifts, and a rate of more than a frame a millisecond panics. -/
theorem default_rate_drifts :
    ¬KeepsWithin 30 (1000 / 30) ∧
      captureTask ⟨"", .create 1001, none, 0, none, none, none, false⟩ 1001 0 [] = .panicked := by
  refine ⟨fun kept => ?_, rfl⟩
  exact absurd (kept_divides (by decide) kept) (by decide)

end ADesk.Viewer.Pacing
