/- ADesk/Recorder/Avi
   digest: The streaming AVI muxer: headers with placeholders, frames as they come, and the index,
   sizes and counts once the last frame is written. -/

import ADesk.Foundation.Riff

set_option autoImplicit false

namespace ADesk.Recorder.Avi

open ADesk.Foundation.Riff

/-! ## The sink -/

/-- A seekable sink that grows as it is written to. -/
structure Sink where
  bytes : List UInt8
  position : ℕ
  deriving DecidableEq

def Sink.empty : Sink := ⟨[], 0⟩

/-- Writing overwrites what stands at the position; a gap before it is filled with zeroes. -/
def Sink.writeAll (sink : Sink) (data : List UInt8) : Sink where
  bytes := sink.bytes.take sink.position ++
    (List.replicate (sink.position - sink.bytes.length) 0 ++
      (data ++ sink.bytes.drop (sink.position + data.length)))
  position := sink.position + data.length

def Sink.seek (sink : Sink) (offset : ℕ) : Sink := { sink with position := offset }

/-! ## Identifiers and constants -/

def riffId : List UInt8 := [0x52, 0x49, 0x46, 0x46]
def aviId : List UInt8 := [0x41, 0x56, 0x49, 0x20]
def listId : List UInt8 := [0x4C, 0x49, 0x53, 0x54]
def hdrlId : List UInt8 := [0x68, 0x64, 0x72, 0x6C]
def avihId : List UInt8 := [0x61, 0x76, 0x69, 0x68]
def strlId : List UInt8 := [0x73, 0x74, 0x72, 0x6C]
def strhId : List UInt8 := [0x73, 0x74, 0x72, 0x68]
def vidsId : List UInt8 := [0x76, 0x69, 0x64, 0x73]
def mjpgId : List UInt8 := [0x4D, 0x4A, 0x50, 0x47]
def strfId : List UInt8 := [0x73, 0x74, 0x72, 0x66]
def moviId : List UInt8 := [0x6D, 0x6F, 0x76, 0x69]
def frameId : List UInt8 := [0x30, 0x30, 0x64, 0x63]
def idx1Id : List UInt8 := [0x69, 0x64, 0x78, 0x31]

def aviheaderAvihSize : UInt32 := 56
def bitmapinfoheaderSize : UInt32 := 40
def avistreamheaderSize : UInt32 := 56
def avifHasindex : UInt32 := 0x10
def aviifKeyframe : UInt32 := 0x10
def aviDefaultQuality : UInt32 := 0xFFFFFFFF

/-! ## The writer -/

inductive RecorderError
  | mux (reason : String)
  deriving DecidableEq

structure IndexEntry where
  offset : UInt32
  length : UInt32
  deriving DecidableEq

structure AviWriter where
  inner : Sink
  pos : ℕ
  width : UInt32
  height : UInt32
  fps : UInt32
  frames : ℕ
  maxFrameBytes : UInt32
  index : List IndexEntry
  riffSizeOffset : ℕ
  avihMaxBytesOffset : ℕ
  avihFramesOffset : ℕ
  avihBufferOffset : ℕ
  strhLengthOffset : ℕ
  strhBufferOffset : ℕ
  moviSizeOffset : ℕ
  moviBase : ℕ
  finished : Bool
  deriving DecidableEq

/-- The narrowing cast `as u32`. -/
def asU32 (value : ℕ) : UInt32 := UInt32.ofNat value

def saturatingAdd (a b : UInt32) : UInt32 := UInt32.ofNat (min (a.toNat + b.toNat) (2 ^ 32 - 1))

def saturatingMul (a b : UInt32) : UInt32 := UInt32.ofNat (min (a.toNat * b.toNat) (2 ^ 32 - 1))

namespace AviWriter

def writeBytes (w : AviWriter) (bytes : List UInt8) : AviWriter :=
  { w with inner := w.inner.writeAll bytes, pos := w.pos + bytes.length }

def writeU16 (w : AviWriter) (value : UInt16) : AviWriter := w.writeBytes (u16Bytes value.toNat)

def writeU32 (w : AviWriter) (value : UInt32) : AviWriter := w.writeBytes (u32Bytes value.toNat)

/-- Overwrites four bytes and goes back to the logical position. -/
def patchU32 (w : AviWriter) (offset : ℕ) (value : UInt32) : AviWriter :=
  { w with inner := ((w.inner.seek offset).writeAll (u32Bytes value.toNat)).seek w.pos }

/-! The places of what is patched later. -/

def mainHeaderAt (w : AviWriter) (avihStart : ℕ) : AviWriter :=
  { w with
    avihMaxBytesOffset := avihStart + 4
    avihFramesOffset := avihStart + 16
    avihBufferOffset := avihStart + 28 }

def streamHeaderAt (w : AviWriter) (strhStart : ℕ) : AviWriter :=
  { w with strhLengthOffset := strhStart + 32, strhBufferOffset := strhStart + 36 }

def riffSizeAt (w : AviWriter) (offset : ℕ) : AviWriter := { w with riffSizeOffset := offset }

def moviSizeAt (w : AviWriter) (offset : ℕ) : AviWriter := { w with moviSizeOffset := offset }

def moviAt (w : AviWriter) (base : ℕ) : AviWriter := { w with moviBase := base }

/-- The `avih` chunk. -/
def writeMainHeader (w : AviWriter) : AviWriter :=
  let w := (w.writeBytes avihId).writeU32 aviheaderAvihSize
  let w := w.mainHeaderAt w.pos
  let w := w.writeU32 (1000000 / w.fps)
  -- The maximal bytes per second, the number of frames and the buffer size are patched.
  let w := (((w.writeU32 0).writeU32 0).writeU32 avifHasindex).writeU32 0
  let w := (((w.writeU32 0).writeU32 1).writeU32 0).writeU32 w.width
  let w := w.writeU32 w.height
  (((w.writeU32 0).writeU32 0).writeU32 0).writeU32 0

/-- The `strh` chunk. -/
def writeStreamHeader (w : AviWriter) : AviWriter :=
  let w := (w.writeBytes strhId).writeU32 avistreamheaderSize
  let w := w.streamHeaderAt w.pos
  let w := ((w.writeBytes vidsId).writeBytes mjpgId).writeU32 0
  let w := (((w.writeU16 0).writeU16 0).writeU32 0).writeU32 1
  let w := w.writeU32 w.fps
  -- The length and the buffer size are patched.
  let w := (((w.writeU32 0).writeU32 0).writeU32 0).writeU32 aviDefaultQuality
  let w := ((w.writeU32 0).writeU16 0).writeU16 0
  -- The frame rectangle has 16 bits a side.
  let w := w.writeU16 w.width.toUInt16
  w.writeU16 w.height.toUInt16

/-- The `strf` chunk. -/
def writeFormat (w : AviWriter) : AviWriter :=
  let w := ((w.writeBytes strfId).writeU32 bitmapinfoheaderSize).writeU32 bitmapinfoheaderSize
  let w := w.writeU32 w.width
  let w := w.writeU32 w.height
  let w := ((w.writeU16 1).writeU16 24).writeBytes mjpgId
  let sizeImage := min (w.width.toNat * w.height.toNat * 3) (2 ^ 32 - 1)
  ((((w.writeU32 (asU32 sizeImage)).writeU32 0).writeU32 0).writeU32 0).writeU32 0

/-- A list chunk of a kind, whose size is patched once its content is written. -/
def writeList (kind : List UInt8) (content : AviWriter → AviWriter) (w : AviWriter) : AviWriter :=
  let w := w.writeBytes listId
  let sizeOffset := w.pos
  let w := content ((w.writeU32 0).writeBytes kind)
  w.patchU32 sizeOffset (asU32 (w.pos - (sizeOffset + 4)))

def writeStreamList : AviWriter → AviWriter :=
  writeList strlId fun w => w.writeStreamHeader.writeFormat

def writeHeaderList : AviWriter → AviWriter :=
  writeList hdrlId fun w => w.writeMainHeader.writeStreamList

def writeHeader (w : AviWriter) : AviWriter :=
  let w := w.writeBytes riffId
  let w := w.riffSizeAt w.pos
  let w := ((w.writeU32 0).writeBytes aviId).writeHeaderList
  let w := w.writeBytes listId
  let w := w.moviSizeAt w.pos
  let w := w.writeU32 0
  let w := w.moviAt w.pos
  w.writeBytes moviId

/-- The writer before its header. -/
def unopened (width height fps : UInt32) : AviWriter where
  inner := .empty
  pos := 0
  width := width
  height := height
  fps := fps
  frames := 0
  maxFrameBytes := 0
  index := []
  riffSizeOffset := 0
  avihMaxBytesOffset := 0
  avihFramesOffset := 0
  avihBufferOffset := 0
  strhLengthOffset := 0
  strhBufferOffset := 0
  moviSizeOffset := 0
  moviBase := 0
  finished := false

def new (width height fps : UInt32) : Except RecorderError AviWriter :=
  if width = 0 ∨ height = 0 then
    .error (.mux ("cannot mux a " ++ toString width ++ "x" ++ toString height ++ " video"))
  else if fps = 0 then .error (.mux "cannot mux a video with 0 fps")
  else .ok (unopened width height fps).writeHeader

def noteFrame (w : AviWriter) (entry : IndexEntry) : AviWriter :=
  { w with
    index := w.index ++ [entry]
    frames := w.frames + 1
    maxFrameBytes := max w.maxFrameBytes entry.length }

def writeFrame (w : AviWriter) (data : List UInt8) : AviWriter :=
  let entry : IndexEntry := ⟨asU32 (w.pos - w.moviBase), asU32 data.length⟩
  let w := ((w.writeBytes frameId).writeU32 entry.length).writeBytes data
  let w := if data.length % 2 = 1 then w.writeBytes [0] else w
  w.noteFrame entry

def writeEntry (w : AviWriter) (entry : IndexEntry) : AviWriter :=
  (((w.writeBytes frameId).writeU32 aviifKeyframe).writeU32 entry.offset).writeU32 entry.length

def writeIndex (w : AviWriter) : AviWriter :=
  w.index.foldl writeEntry ((w.writeBytes idx1Id).writeU32 (asU32 (w.index.length * 16)))

/-- The deferred values of the headers, once everything else is written. -/
def patchTotals (w : AviWriter) : AviWriter :=
  let frames := asU32 w.frames
  let maxBytesPerSec := saturatingMul (saturatingAdd w.maxFrameBytes 8) w.fps
  (((((w.patchU32 w.avihFramesOffset frames).patchU32 w.avihMaxBytesOffset maxBytesPerSec).patchU32
    w.avihBufferOffset w.maxFrameBytes).patchU32 w.strhLengthOffset frames).patchU32
    w.strhBufferOffset w.maxFrameBytes).patchU32 w.riffSizeOffset (asU32 (w.pos - 8))

def markFinished (w : AviWriter) : AviWriter := { w with finished := true }

/-- A second `finish` changes nothing. -/
def finish (w : AviWriter) : AviWriter :=
  if w.finished then w
  else
    let w := w.markFinished
    (w.patchU32 w.moviSizeOffset (asU32 (w.pos - w.moviBase))).writeIndex.patchTotals

end AviWriter

/-- The bytes of a movie: every frame is written, then the writer is finished. -/
def mux (width height fps : UInt32) (frames : List (List UInt8)) :
    Except RecorderError (List UInt8) :=
  (AviWriter.new width height fps).map fun w =>
    (frames.foldl AviWriter.writeFrame w).finish.inner.bytes

end ADesk.Recorder.Avi
