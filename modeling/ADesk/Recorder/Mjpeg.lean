/- ADesk/Recorder/Mjpeg
   digest: The Motion-JPEG encoder: which frames it takes, and the movie that it makes of them. -/

import ADesk.Recorder.AviLayout

set_option autoImplicit false

namespace ADesk.Recorder.Mjpeg

open ADesk.Foundation.Riff
open ADesk.Recorder.Avi

/-! ## Frames -/

/-- The failures of the recorder, but those of writing its file. -/
inductive RecorderError
  | encode (reason : String)
  | unsupported (reason : String)
  | mux (reason : String)
  | backend (reason : String)
  deriving DecidableEq

structure ImageBuffer where
  width : UInt32
  height : UInt32
  stride : UInt32
  data : List UInt8
  deriving DecidableEq

/-- A frame of a size, as an error names it. -/
def sizeText (width height : UInt32) : String := toString width ++ "x" ++ toString height

/-- A JPEG has 16 bits a side. -/
def ImageBuffer.checkSize (frame : ImageBuffer) : Except RecorderError Unit :=
  if 2 ^ 16 ≤ frame.width.toNat then
    .error (.unsupported
      ("frame width " ++ toString frame.width ++ " exceeds the JPEG limit"))
  else if 2 ^ 16 ≤ frame.height.toNat then
    .error (.unsupported
      ("frame height " ++ toString frame.height ++ " exceeds the JPEG limit"))
  else if frame.width = 0 ∨ frame.height = 0 then
    .error (.encode "cannot encode a zero-sized frame")
  else .ok ()

/-- The RGB of a row of RGBA pixels. -/
def rgbOf : List UInt8 → List UInt8
  | red :: green :: blue :: _ :: rest => red :: green :: blue :: rgbOf rest
  | _ => []

/-- The rows without their padding. The products do not overflow at sizes of 16 bits. -/
def rgbaToRgb (frame : ImageBuffer) : Except RecorderError (List UInt8) :=
  let rowBytes := frame.width.toNat * 4
  let needed := frame.stride.toNat * frame.height.toNat
  if frame.stride.toNat < rowBytes then
    .error (.encode ("stride " ++ toString frame.stride ++ " is smaller than the " ++
      toString rowBytes ++ "-byte row"))
  else if frame.data.length < needed then
    .error (.encode ("image data (" ++ toString frame.data.length ++
      " bytes) is shorter than height * stride (" ++ toString needed ++ " bytes)"))
  else
    .ok ((List.range frame.height.toNat).flatMap fun y =>
      rgbOf ((frame.data.drop (y * frame.stride.toNat)).take rowBytes))

/-- A rendered frame, when it was, and what the JPEG encoder makes of its pixels. -/
structure Shot where
  frame : ImageBuffer
  tsMs : ℕ
  jpeg : List UInt8 → Except String (List UInt8)

/-! ## The encoder -/

/-- `holdsOutput`: the file has not been handed to the muxer yet. -/
structure MjpegEncoder where
  fps : UInt32
  holdsOutput : Bool
  avi : Option AviWriter
  width : UInt32
  height : UInt32
  frames : ℕ
  finished : Bool
  deriving DecidableEq

namespace MjpegEncoder

def create (fps : UInt32) : MjpegEncoder := ⟨fps, true, none, 0, 0, 0, false⟩

/-- The muxer is opened at the first frame, whose size is that of the video. -/
def opened (encoder : MjpegEncoder) (frame : ImageBuffer) :
    Except RecorderError (MjpegEncoder × AviWriter) :=
  match encoder.avi with
  | some avi =>
    if (encoder.width, encoder.height) = (frame.width, frame.height) then .ok (encoder, avi)
    else
      .error (.encode ("frame size changed from " ++ sizeText encoder.width encoder.height ++
        " to " ++ sizeText frame.width frame.height))
  | none =>
    if encoder.holdsOutput then
      match AviWriter.new frame.width frame.height encoder.fps with
      | .ok avi =>
        .ok ({ encoder with holdsOutput := false, width := frame.width, height := frame.height },
          avi)
      | .error (.mux reason) => .error (.mux reason)
    else .error (.backend "mjpeg output already closed")

/-- The time stamp of the frame is not used. -/
def encodeFrame (encoder : MjpegEncoder) (shot : Shot) : Except RecorderError MjpegEncoder :=
  if encoder.finished then .error (.backend "mjpeg encoder already finalized")
  else do
    shot.frame.checkSize
    let opening ← encoder.opened shot.frame
    let rgb ← rgbaToRgb shot.frame
    let data ← (shot.jpeg rgb).mapError .encode
    return { opening.1 with
      avi := some (opening.2.writeFrame data), frames := opening.1.frames + 1 }

/-- The bytes of the finished file; without a frame it is empty. -/
def finish (encoder : MjpegEncoder) : List UInt8 :=
  (encoder.avi.map fun avi => avi.finish.inner.bytes).getD []

end MjpegEncoder

/-! ## The rate of a movie -/

/-- The frames a second of a movie, as the scale and the rate of its stream header say. -/
def storedRate (file : List UInt8) : Option (ℕ × ℕ) :=
  match words ((file.drop 128).take 8) with
  | some [scale, rate] => some (scale, rate)
  | _ => none

theorem mux_opened {width height fps : UInt32} {datas : List (List UInt8)} {file : List UInt8}
    (made : mux width height fps datas = .ok file) : (width ≠ 0 ∧ height ≠ 0) ∧ fps ≠ 0 := by
  unfold mux AviWriter.new at made
  split at made
  · cases made
  next sized =>
    split at made
    · cases made
    next rated => exact ⟨not_or.mp sized, rated⟩

/-- The rate is at its place in every movie, also where sizes and counts are truncated. -/
theorem mux_rate {width height fps : UInt32} {datas : List (List UInt8)} {file : List UInt8}
    (made : mux width height fps datas = .ok file) : storedRate file = some (1, fps.toNat) := by
  obtain ⟨⟨wide, high⟩, fast⟩ := mux_opened made
  rw [mux_movie width height fps datas wide high fast] at made
  cases made
  have main := chunk_bytes_even (main_header_length width height fps (totalsOf fps datas)) rfl
  have fields : ((movie width height fps datas).bytes.drop 128).take 8 =
      u32Bytes 1 ++ (u32Bytes fps.toNat ++ []) := by
    show ((riffId ++ (u32Bytes _ ++ ((aviId ++ ((listId ++ (u32Bytes _ ++ ((hdrlId ++
      ((mainHeader width height fps (totalsOf fps datas)).bytes ++ _)) ++ _))) ++ _)) ++
      _))).drop 128).take 8 = _
    rw [main]
    rfl
  have short : fps.toNat % 2 ^ 32 = fps.toNat := Nat.mod_eq_of_lt fps.toNat_lt
  rw [storedRate, fields, words_u32, words_u32, words_nil, short]
  rfl

/-! ## What it holds -/

/-- A writer of a size and a rate that was given a number of frames. -/
def Written (width height fps : UInt32) (count : ℕ) (avi : AviWriter) : Prop :=
  ∃ start, ∃ datas : List (List UInt8), AviWriter.new width height fps = .ok start ∧
    datas.length = count ∧ avi = datas.foldl AviWriter.writeFrame start

section Written

variable {width height fps : UInt32} {count : ℕ} {avi : AviWriter}

theorem written_new (made : AviWriter.new width height fps = .ok avi) :
    Written width height fps 0 avi := ⟨avi, [], made, rfl, rfl⟩

theorem Written.frame (written : Written width height fps count avi) (data : List UInt8) :
    Written width height fps (count + 1) (avi.writeFrame data) := by
  obtain ⟨start, datas, made, length, rfl⟩ := written
  refine ⟨start, datas ++ [data], made, ?_, ?_⟩
  · rw [List.length_append, length]
    rfl
  · rw [List.foldl_append]
    rfl

theorem Written.muxed (written : Written width height fps count avi) :
    ∃ datas, datas.length = count ∧ mux width height fps datas = .ok avi.finish.inner.bytes := by
  obtain ⟨start, datas, made, length, rfl⟩ := written
  refine ⟨datas, length, ?_⟩
  rw [mux, made]
  rfl

end Written

namespace MjpegEncoder

/-- The encoder after a number of frames: its file is open from the first one. -/
structure Holds (fps : UInt32) (count : ℕ) (encoder : MjpegEncoder) : Prop where
  running : encoder.finished = false
  rate : encoder.fps = fps
  blank : encoder.avi = none → count = 0
  written : ∀ avi ∈ encoder.avi, Written encoder.width encoder.height fps count avi

section Holds

variable {fps : UInt32} {count : ℕ} {encoder : MjpegEncoder}

theorem create_holds (fps : UInt32) : (create fps).Holds fps 0 where
  running := rfl
  rate := rfl
  blank := fun _ => rfl
  written := by
    intro avi wrote
    cases wrote

/-- The muxer that a frame goes to was given the frames before it. -/
theorem opened_holds {frame : ImageBuffer} {opening : MjpegEncoder × AviWriter}
    (held : encoder.Holds fps count) (ready : encoder.opened frame = .ok opening) :
    opening.1.finished = false ∧ opening.1.fps = fps ∧
      Written opening.1.width opening.1.height fps count opening.2 := by
  unfold opened at ready
  split at ready
  next avi wrote =>
    split at ready
    · cases ready
      exact ⟨held.running, held.rate, held.written avi wrote⟩
    · cases ready
  next blank =>
    split at ready
    · split at ready
      next avi made =>
        cases ready
        rw [held.rate] at made
        refine ⟨held.running, held.rate, ?_⟩
        rw [held.blank blank]
        exact written_new made
      next => cases ready
    · cases ready

/-- What the encoder does with a frame that it takes. -/
theorem encode_frame_ok {shot : Shot} {later : MjpegEncoder}
    (taken : encoder.encodeFrame shot = .ok later) :
    ∃ opening data, encoder.opened shot.frame = .ok opening ∧
      later = { opening.1 with
        avi := some (opening.2.writeFrame data), frames := opening.1.frames + 1 } := by
  unfold encodeFrame at taken
  split at taken
  · cases taken
  · simp only [bind, Except.bind] at taken
    split at taken
    · cases taken
    · split at taken
      · cases taken
      next opening ready =>
        split at taken
        · cases taken
        · split at taken
          · cases taken
          next data encoded =>
            cases taken
            exact ⟨opening, data, ready, rfl⟩

theorem Holds.frame {shot : Shot} {later : MjpegEncoder} (held : encoder.Holds fps count)
    (taken : encoder.encodeFrame shot = .ok later) : later.Holds fps (count + 1) := by
  obtain ⟨opening, data, ready, rfl⟩ := encode_frame_ok taken
  obtain ⟨running, rate, written⟩ := opened_holds held ready
  refine ⟨running, rate, ?_, ?_⟩
  · intro blank
    cases blank
  · intro avi wrote
    cases wrote
    exact written.frame data

/-- The file of an encoder that was given a frame is a movie of its frames. -/
theorem Holds.muxed (held : encoder.Holds fps count) (some_frame : count ≠ 0) :
    ∃ width height datas, datas.length = count ∧
      mux width height fps datas = .ok encoder.finish := by
  cases wrote : encoder.avi with
  | none => exact absurd (held.blank wrote) some_frame
  | some avi =>
    obtain ⟨datas, length, muxed⟩ := (held.written avi wrote).muxed
    refine ⟨encoder.width, encoder.height, datas, length, ?_⟩
    rw [muxed, finish, wrote]
    rfl

end Holds

/-! ## The frames it takes -/

/-- A frame that the encoder can turn into a JPEG. -/
structure Encodable (shot : Shot) : Prop where
  sized : shot.frame.checkSize = .ok ()
  pixels : ∃ rgb data, rgbaToRgb shot.frame = .ok rgb ∧ shot.jpeg rgb = .ok data

/-- The encoder takes frames of a size: it has seen no other, and its output is still there. -/
structure Takes (width height : UInt32) (encoder : MjpegEncoder) : Prop where
  running : encoder.finished = false
  rate : encoder.fps ≠ 0
  blank : encoder.avi = none → encoder.holdsOutput = true
  sized : encoder.avi ≠ none → encoder.width = width ∧ encoder.height = height

theorem create_takes {fps : UInt32} (positive : fps ≠ 0) (width height : UInt32) :
    (create fps).Takes width height :=
  ⟨rfl, positive, fun _ => rfl, fun wrote => absurd rfl wrote⟩

theorem check_size_positive {frame : ImageBuffer} (sized : frame.checkSize = .ok ()) :
    frame.width ≠ 0 ∧ frame.height ≠ 0 := by
  unfold ImageBuffer.checkSize at sized
  split at sized
  · cases sized
  · split at sized
    · cases sized
    · split at sized
      · cases sized
      next positive => exact not_or.mp positive

theorem opened_takes {encoder : MjpegEncoder} {shot : Shot} (encodable : Encodable shot)
    (taking : encoder.Takes shot.frame.width shot.frame.height) :
    ∃ opening, encoder.opened shot.frame = .ok opening ∧ opening.1.finished = false ∧
      opening.1.fps ≠ 0 ∧ opening.1.width = shot.frame.width ∧
      opening.1.height = shot.frame.height := by
  unfold opened
  split
  next avi wrote =>
    have open_file : encoder.avi ≠ none := by
      rw [wrote]
      exact Option.some_ne_none avi
    obtain ⟨width, height⟩ := taking.sized open_file
    rw [if_pos (by rw [width, height])]
    exact ⟨_, rfl, taking.running, taking.rate, width, height⟩
  next blank =>
    have positive := check_size_positive encodable.sized
    have made : AviWriter.new shot.frame.width shot.frame.height encoder.fps =
        .ok (AviWriter.unopened shot.frame.width shot.frame.height encoder.fps).writeHeader := by
      rw [AviWriter.new, if_neg (not_or.mpr positive), if_neg taking.rate]
    rw [if_pos (taking.blank blank), made]
    exact ⟨_, rfl, taking.running, taking.rate, rfl, rfl⟩

theorem Takes.frame {encoder : MjpegEncoder} {shot : Shot} (encodable : Encodable shot)
    (taking : encoder.Takes shot.frame.width shot.frame.height) :
    ∃ later, encoder.encodeFrame shot = .ok later ∧
      later.Takes shot.frame.width shot.frame.height := by
  obtain ⟨opening, ready, running, rate, width, height⟩ := opened_takes encodable taking
  obtain ⟨rgb, data, converted, encoded⟩ := encodable.pixels
  refine ⟨{ opening.1 with
    avi := some (opening.2.writeFrame data), frames := opening.1.frames + 1 }, ?_, ?_⟩
  · rw [encodeFrame, taking.running, encodable.sized, ready, converted]
    simp only [bind, Except.bind, encoded, Except.mapError]
    rfl
  · refine ⟨running, rate, ?_, fun _ => ⟨width, height⟩⟩
    intro blank
    cases blank

end MjpegEncoder

end ADesk.Recorder.Mjpeg
