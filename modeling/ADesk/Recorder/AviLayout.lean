/- ADesk/Recorder/AviLayout
   digest: A finished movie is a tree of RIFF chunks, up to the truncation of its sizes. -/

import ADesk.Recorder.Avi

set_option autoImplicit false

namespace ADesk.Recorder.Avi

open ADesk.Foundation.Riff

/-! ## Writing at the end -/

/-- The writer that has written these bytes and stands behind them. -/
def AviWriter.holding (w : AviWriter) (bytes : List UInt8) : AviWriter :=
  { w with inner := ⟨bytes, bytes.length⟩, pos := bytes.length }

namespace AviWriter

variable (w : AviWriter) (bytes : List UInt8)

@[simp] theorem holding_bytes : (w.holding bytes).inner.bytes = bytes := rfl

@[simp] theorem holding_pos : (w.holding bytes).pos = bytes.length := rfl

@[simp] theorem holding_width : (w.holding bytes).width = w.width := rfl

@[simp] theorem holding_height : (w.holding bytes).height = w.height := rfl

@[simp] theorem holding_fps : (w.holding bytes).fps = w.fps := rfl

@[simp] theorem main_header_at_holding (start : ℕ) :
    (w.holding bytes).mainHeaderAt start = (w.mainHeaderAt start).holding bytes := rfl

@[simp] theorem stream_header_at_holding (start : ℕ) :
    (w.holding bytes).streamHeaderAt start = (w.streamHeaderAt start).holding bytes := rfl

@[simp] theorem riff_size_at_holding (offset : ℕ) :
    (w.holding bytes).riffSizeAt offset = (w.riffSizeAt offset).holding bytes := rfl

@[simp] theorem movi_size_at_holding (offset : ℕ) :
    (w.holding bytes).moviSizeAt offset = (w.moviSizeAt offset).holding bytes := rfl

@[simp] theorem movi_at_holding (base : ℕ) :
    (w.holding bytes).moviAt base = (w.moviAt base).holding bytes := rfl

@[simp] theorem main_header_at_width (start : ℕ) : (w.mainHeaderAt start).width = w.width := rfl

@[simp] theorem main_header_at_height (start : ℕ) : (w.mainHeaderAt start).height = w.height := rfl

@[simp] theorem main_header_at_fps (start : ℕ) : (w.mainHeaderAt start).fps = w.fps := rfl

@[simp] theorem stream_header_at_width (start : ℕ) : (w.streamHeaderAt start).width = w.width := rfl

@[simp] theorem stream_header_at_height (start : ℕ) :
    (w.streamHeaderAt start).height = w.height := rfl

@[simp] theorem stream_header_at_fps (start : ℕ) : (w.streamHeaderAt start).fps = w.fps := rfl

@[simp] theorem write_bytes_holding (data : List UInt8) :
    (w.holding bytes).writeBytes data = w.holding (bytes ++ data) := by
  simp [writeBytes, holding, Sink.writeAll]

@[simp] theorem write_u32_holding (value : UInt32) :
    (w.holding bytes).writeU32 value = w.holding (bytes ++ u32Bytes value.toNat) :=
  write_bytes_holding w bytes _

@[simp] theorem write_u16_holding (value : UInt16) :
    (w.holding bytes).writeU16 value = w.holding (bytes ++ u16Bytes value.toNat) :=
  write_bytes_holding w bytes _

/-- A patch replaces four bytes and leaves the writer at the end. -/
theorem patch_u32_holding {before old after : List UInt8} (four : old.length = 4) {offset : ℕ}
    (start : before.length = offset) (value : UInt32) :
    (w.holding (before ++ (old ++ after))).patchU32 offset value =
      w.holding (before ++ (u32Bytes value.toNat ++ after)) := by
  subst start
  have later : (before ++ (old ++ after)).drop (before.length + 4) = after := by
    rw [← List.append_assoc]
    apply List.drop_left'
    rw [List.length_append, four]
  simp [patchU32, holding, Sink.writeAll, Sink.seek, later, four]

end AviWriter

/-! ## The headers -/

/-- The values that `finish` patches into the headers. -/
structure Totals where
  riffSize : ℕ
  maxBytesPerSec : ℕ
  frames : ℕ
  bufferSize : ℕ
  streamLength : ℕ
  streamBuffer : ℕ
  moviSize : ℕ

def Totals.blank : Totals := ⟨0, 0, 0, 0, 0, 0, 0⟩

section Headers

variable (width height fps : UInt32) (totals : Totals)

def mainHeader : Chunk where
  id := avihId
  body := [(1000000 / fps).toNat, totals.maxBytesPerSec, 0, 16, totals.frames, 0, 1,
    totals.bufferSize, width.toNat, height.toNat, 0, 0, 0, 0].flatMap u32Bytes

def streamHeader : Chunk where
  id := strhId
  body := vidsId ++ (mjpgId ++ (u32Bytes 0 ++ (u16Bytes 0 ++ (u16Bytes 0 ++
    ([0, 1, fps.toNat, 0, totals.streamLength, totals.streamBuffer, 0xFFFFFFFF,
      0].flatMap u32Bytes ++
      (u16Bytes 0 ++ (u16Bytes 0 ++ (u16Bytes width.toNat ++ u16Bytes height.toNat))))))))

def format : Chunk where
  id := strfId
  body := u32Bytes 40 ++ (u32Bytes width.toNat ++ (u32Bytes height.toNat ++ (u16Bytes 1 ++
    (u16Bytes 24 ++ (mjpgId ++ [min (width.toNat * height.toNat * 3) (2 ^ 32 - 1), 0, 0, 0,
      0].flatMap u32Bytes)))))

def streamList : Chunk where
  id := listId
  body := strlId ++ ((streamHeader width height fps totals).bytes ++ (format width height).bytes)

def headerList : Chunk where
  id := listId
  body := hdrlId ++ ((mainHeader width height fps totals).bytes ++
    (streamList width height fps totals).bytes)

/-- Everything before the first frame. -/
def header : List UInt8 :=
  riffId ++ (u32Bytes totals.riffSize ++ (aviId ++ ((headerList width height fps totals).bytes ++
    (listId ++ (u32Bytes totals.moviSize ++ moviId)))))

theorem main_header_length : (mainHeader width height fps totals).body.length = 56 := rfl

theorem stream_header_length : (streamHeader width height fps totals).body.length = 56 := rfl

theorem format_length : (format width height).body.length = 40 := rfl

theorem main_header_bytes : (mainHeader width height fps totals).bytes.length = 64 := by
  rw [chunk_bytes_length rfl, main_header_length]

theorem stream_header_bytes : (streamHeader width height fps totals).bytes.length = 64 := by
  rw [chunk_bytes_length rfl, stream_header_length]

theorem format_bytes : (format width height).bytes.length = 48 := by
  rw [chunk_bytes_length rfl, format_length]

theorem stream_list_length : (streamList width height fps totals).body.length = 116 := by
  simp [streamList, stream_header_bytes, format_bytes, strlId]

theorem stream_list_bytes : (streamList width height fps totals).bytes.length = 124 := by
  rw [chunk_bytes_length rfl, stream_list_length]

theorem header_list_length : (headerList width height fps totals).body.length = 192 := by
  simp [headerList, main_header_bytes, stream_list_bytes, hdrlId]

theorem header_list_bytes : (headerList width height fps totals).bytes.length = 200 := by
  rw [chunk_bytes_length rfl, header_list_length]

theorem header_length : (header width height fps totals).length = 224 := by
  simp [header, header_list_bytes, riffId, aviId, listId, moviId]

end Headers

/-! ## Writing them -/

open AviWriter

theorem main_header_written (w : AviWriter) (bytes : List UInt8) :
    (w.holding bytes).writeMainHeader =
      (w.mainHeaderAt (bytes.length + 8)).holding
        (bytes ++ (mainHeader w.width w.height w.fps .blank).bytes) := by
  have length := main_header_length w.width w.height w.fps .blank
  simp only [Chunk.bytes, length]
  simp [writeMainHeader, mainHeader, padding, avihId, Totals.blank, aviheaderAvihSize, avifHasindex]

theorem stream_header_written (w : AviWriter) (bytes : List UInt8) :
    (w.holding bytes).writeStreamHeader =
      (w.streamHeaderAt (bytes.length + 8)).holding
        (bytes ++ (streamHeader w.width w.height w.fps .blank).bytes) := by
  have length := stream_header_length w.width w.height w.fps .blank
  simp only [Chunk.bytes, length]
  simp [writeStreamHeader, streamHeader, padding, strhId, Totals.blank, avistreamheaderSize,
    aviDefaultQuality, u16_bytes_mod]

theorem format_written (w : AviWriter) (bytes : List UInt8) :
    (w.holding bytes).writeFormat = w.holding (bytes ++ (format w.width w.height).bytes) := by
  have length := format_length w.width w.height
  simp only [Chunk.bytes, length]
  simp [writeFormat, format, padding, strfId, bitmapinfoheaderSize, asU32, u32_bytes_mod]

/-- A list chunk is written as a chunk, when its content is as long as an even number of bytes. -/
theorem list_written {w later : AviWriter} {bytes kind more : List UInt8}
    {content : AviWriter → AviWriter} (four : kind.length = 4) (even : more.length % 2 = 0)
    (written : content (w.holding (bytes ++ (listId ++ (u32Bytes 0 ++ kind)))) =
      later.holding (bytes ++ (listId ++ (u32Bytes 0 ++ (kind ++ more))))) :
    (w.holding bytes).writeList kind content =
      later.holding (bytes ++ (Chunk.mk listId (kind ++ more)).bytes) := by
  have padded : padding (kind ++ more).length = [] := by
    rw [List.length_append, four, padding, if_neg (by omega)]
  have before : (bytes ++ listId).length = bytes.length + 4 := List.length_append
  have size : (bytes ++ listId ++ (u32Bytes 0 ++ (kind ++ more))).length - (bytes.length + 4 + 4) =
      (kind ++ more).length := by
    rw [List.length_append, before, List.length_append, u32_bytes_length]
    omega
  simp only [writeList, write_bytes_holding, write_u32_holding, holding_pos, List.append_assoc,
    UInt32.toNat_zero, written, before]
  rw [← List.append_assoc bytes, patch_u32_holding _ (u32_bytes_length 0) before, size]
  simp only [Chunk.bytes, padded, asU32, UInt32.toNat_ofNat', u32_bytes_mod, List.append_assoc,
    List.append_nil, Nat.reducePow]

theorem stream_list_written (w : AviWriter) (bytes : List UInt8) :
    (w.holding bytes).writeStreamList =
      (w.streamHeaderAt (bytes.length + 20)).holding
        (bytes ++ (streamList w.width w.height w.fps .blank).bytes) := by
  apply list_written rfl
  · rw [List.length_append, stream_header_bytes, format_bytes]
  · have start : (bytes ++ (listId ++ (u32Bytes 0 ++ strlId))).length + 8 = bytes.length + 20 := by
      simp [listId, strlId]
    rw [stream_header_written, format_written, start]
    simp only [stream_header_at_width, stream_header_at_height, List.append_assoc]

theorem header_list_written (w : AviWriter) (bytes : List UInt8) :
    (w.holding bytes).writeHeaderList =
      ((w.mainHeaderAt (bytes.length + 20)).streamHeaderAt (bytes.length + 96)).holding
        (bytes ++ (headerList w.width w.height w.fps .blank).bytes) := by
  apply list_written rfl
  · rw [List.length_append, main_header_bytes, stream_list_bytes]
  · have start : (bytes ++ (listId ++ (u32Bytes 0 ++ hdrlId))).length = bytes.length + 12 := by
      simp [listId, hdrlId]
    have middle : (bytes ++ (listId ++ (u32Bytes 0 ++ hdrlId)) ++
        (mainHeader w.width w.height w.fps .blank).bytes).length = bytes.length + 76 := by
      rw [List.length_append, start, main_header_bytes]
    rw [main_header_written, stream_list_written, middle, start]
    simp only [main_header_at_width, main_header_at_height, main_header_at_fps, List.append_assoc]

/-- The writer with the places that `finish` patches. -/
def AviWriter.opened (width height fps : UInt32) : AviWriter :=
  (((((unopened width height fps).riffSizeAt 4).mainHeaderAt 32).streamHeaderAt 108).moviSizeAt
    216).moviAt 220

theorem header_written (width height fps : UInt32) :
    (unopened width height fps).writeHeader =
      (opened width height fps).holding (header width height fps .blank) := by
  have start : unopened width height fps = (unopened width height fps).holding [] := rfl
  have list : (riffId ++ (u32Bytes 0 ++ aviId)).length = 12 := rfl
  have movi : (riffId ++ (u32Bytes 0 ++ (aviId ++
      ((headerList width height fps .blank).bytes ++ listId)))).length = 216 := by
    simp [header_list_bytes, riffId, aviId, listId]
  have base : (riffId ++ (u32Bytes 0 ++ (aviId ++
      ((headerList width height fps .blank).bytes ++ (listId ++ u32Bytes 0))))).length = 220 := by
    simp [header_list_bytes, riffId, aviId, listId]
  have kept : headerList ((unopened width height fps).riffSizeAt riffId.length).width
      ((unopened width height fps).riffSizeAt riffId.length).height
      ((unopened width height fps).riffSizeAt riffId.length).fps .blank =
      headerList width height fps .blank := rfl
  unfold writeHeader
  rw [start]
  simp only [write_bytes_holding, write_u32_holding, riff_size_at_holding, movi_size_at_holding,
    movi_at_holding, holding_pos, header_list_written, UInt32.toNat_zero, List.append_assoc,
    List.nil_append, list, kept, movi, base]
  rfl

/-! ## Frames -/

def frameChunk (data : List UInt8) : Chunk := ⟨frameId, data⟩

/-- Where the chunks of the frames lie, when the first one lies at an offset, and how long the
frames are. -/
def positions (offset : ℕ) : List (List UInt8) → List (ℕ × ℕ)
  | [] => []
  | data :: rest =>
    (offset, data.length) :: positions (offset + (frameChunk data).bytes.length) rest

def entryOf (position : ℕ × ℕ) : IndexEntry := ⟨asU32 position.1, asU32 position.2⟩

def AviWriter.noteFrames (w : AviWriter) (entries : List IndexEntry) : AviWriter :=
  entries.foldl noteFrame w

theorem frame_written (w : AviWriter) (bytes data : List UInt8) :
    (w.holding bytes).writeFrame data =
      (w.noteFrame (entryOf (bytes.length - w.moviBase, data.length))).holding
        (bytes ++ (frameChunk data).bytes) := by
  have padded (held : List UInt8) :
      (if data.length % 2 = 1 then w.holding (held ++ [0]) else w.holding held) =
        w.holding (held ++ padding data.length) := by
    unfold padding
    split
    · rfl
    · rw [List.append_nil]
  simp only [writeFrame, write_bytes_holding, write_u32_holding, padded]
  simp only [asU32, UInt32.toNat_ofNat', Nat.reducePow, u32_bytes_mod, List.append_assoc]
  rfl

theorem frames_written (w : AviWriter) (bytes : List UInt8) (frames : List (List UInt8))
    (after : w.moviBase ≤ bytes.length) :
    frames.foldl writeFrame (w.holding bytes) =
      (w.noteFrames ((positions (bytes.length - w.moviBase) frames).map entryOf)).holding
        (bytes ++ frames.flatMap fun data => (frameChunk data).bytes) := by
  induction frames generalizing w bytes with
  | nil => simp [noteFrames, positions]
  | cons data rest ih =>
    have next : (bytes ++ (frameChunk data).bytes).length - w.moviBase =
        bytes.length - w.moviBase + (frameChunk data).bytes.length := by
      rw [List.length_append]
      omega
    have later : w.moviBase ≤ (bytes ++ (frameChunk data).bytes).length := by
      rw [List.length_append]
      omega
    rw [List.foldl_cons, frame_written, ih (w.noteFrame _) _ later]
    simp only [positions, List.map_cons, List.flatMap_cons, List.append_assoc]
    show (noteFrames _ (List.map entryOf (positions ((bytes ++ (frameChunk data).bytes).length -
      w.moviBase) rest))).holding _ = _
    rw [next]
    rfl

/-! ## The index -/

def entryBytes (entry : IndexEntry) : List UInt8 :=
  frameId ++ (u32Bytes 16 ++ (u32Bytes entry.offset.toNat ++ u32Bytes entry.length.toNat))

def indexChunk (entries : List IndexEntry) : Chunk := ⟨idx1Id, entries.flatMap entryBytes⟩

theorem index_length (entries : List IndexEntry) :
    (indexChunk entries).body.length = entries.length * 16 := by
  induction entries with
  | nil => rfl
  | cons entry rest ih =>
    have first : (entryBytes entry).length = 16 := rfl
    show (entryBytes entry ++ (indexChunk rest).body).length = _
    rw [List.length_append, first, ih, List.length_cons]
    omega

theorem entries_written (w : AviWriter) (bytes : List UInt8) (entries : List IndexEntry) :
    entries.foldl writeEntry (w.holding bytes) =
      w.holding (bytes ++ entries.flatMap entryBytes) := by
  induction entries generalizing bytes with
  | nil => simp
  | cons entry rest ih =>
    have first : (w.holding bytes).writeEntry entry = w.holding (bytes ++ entryBytes entry) := by
      simp [writeEntry, entryBytes, aviifKeyframe]
    rw [List.foldl_cons, first, ih, List.flatMap_cons, List.append_assoc]

theorem index_written (w : AviWriter) (bytes : List UInt8) :
    (w.holding bytes).writeIndex = w.holding (bytes ++ (indexChunk w.index).bytes) := by
  have padded : padding (w.index.length * 16) = [] := if_neg (by omega)
  unfold writeIndex
  show w.index.foldl writeEntry _ = _
  rw [write_bytes_holding, write_u32_holding, entries_written]
  simp only [Chunk.bytes, padded, index_length, List.append_assoc, List.append_nil]
  simp only [asU32, UInt32.toNat_ofNat', Nat.reducePow, u32_bytes_mod]
  rfl

/-! ## Patching the totals -/

/-- Bytes with a value behind each piece. -/
def filled (pieces : List (List UInt8 × ℕ)) : List UInt8 :=
  pieces.flatMap fun piece => piece.1 ++ u32Bytes piece.2

theorem piece_patched (w : AviWriter) (before after : List (List UInt8 × ℕ)) (gap : List UInt8)
    (old : ℕ) (rest : List UInt8) {offset : ℕ} (start : (filled before ++ gap).length = offset)
    (value : UInt32) :
    (w.holding (filled (before ++ (gap, old) :: after) ++ rest)).patchU32 offset value =
      w.holding (filled (before ++ (gap, value.toNat) :: after) ++ rest) := by
  have split (filling : ℕ) : filled (before ++ (gap, filling) :: after) ++ rest =
      (filled before ++ gap) ++ (u32Bytes filling ++ (filled after ++ rest)) := by
    simp only [filled, List.flatMap_append, List.flatMap_cons, List.append_assoc]
  rw [split, split, patch_u32_holding w (u32_bytes_length old) start]

section Totals

variable (width height fps : UInt32) (totals : Totals)

def mainStart : List UInt8 :=
  aviId ++ (listId ++ (u32Bytes 192 ++ (hdrlId ++ (avihId ++ (u32Bytes 56 ++
    u32Bytes (1000000 / fps).toNat)))))

def streamStart : List UInt8 :=
  [width.toNat, height.toNat, 0, 0, 0, 0].flatMap u32Bytes ++ (listId ++ (u32Bytes 116 ++
    (strlId ++ (strhId ++ (u32Bytes 56 ++ (vidsId ++ (mjpgId ++ (u32Bytes 0 ++ (u16Bytes 0 ++
      (u16Bytes 0 ++ [0, 1, fps.toNat, 0].flatMap u32Bytes))))))))))

def formatStart : List UInt8 :=
  [0xFFFFFFFF, 0].flatMap u32Bytes ++ (u16Bytes 0 ++ (u16Bytes 0 ++ (u16Bytes width.toNat ++
    (u16Bytes height.toNat ++ ((format width height).bytes ++ listId)))))

def headerPieces : List (List UInt8 × ℕ) :=
  [(riffId, totals.riffSize), (mainStart fps, totals.maxBytesPerSec),
    ([0, 16].flatMap u32Bytes, totals.frames), ([0, 1].flatMap u32Bytes, totals.bufferSize),
    (streamStart width height fps, totals.streamLength), ([], totals.streamBuffer),
    (formatStart width height, totals.moviSize)]

theorem header_pieces :
    header width height fps totals = filled (headerPieces width height fps totals) ++ moviId := by
  have list := chunk_bytes_even (header_list_length width height fps totals) rfl
  have main := chunk_bytes_even (main_header_length width height fps totals) rfl
  have streams := chunk_bytes_even (stream_list_length width height fps totals) rfl
  have stream := chunk_bytes_even (stream_header_length width height fps totals) rfl
  simp only [header, list]
  simp only [headerList, main, streams]
  simp only [mainHeader, streamList, stream]
  simp only [streamHeader, filled, headerPieces, mainStart, streamStart, formatStart,
    List.flatMap_cons, List.flatMap_nil, List.append_assoc, List.append_nil, List.nil_append]

variable {width height fps}

/-- A patch sets the value behind a piece. -/
theorem header_patched {w : AviWriter} {rest : List UInt8} {totals patched : Totals} (i : ℕ)
    {gap : List UInt8} {old : ℕ} {offset : ℕ} {value : UInt32}
    (piece : (headerPieces width height fps totals)[i]? = some (gap, old))
    (start : (filled ((headerPieces width height fps totals).take i) ++ gap).length = offset)
    (set : headerPieces width height fps patched =
      (headerPieces width height fps totals).set i (gap, value.toNat)) :
    (w.holding (header width height fps totals ++ rest)).patchU32 offset value =
      w.holding (header width height fps patched ++ rest) := by
  obtain ⟨within, found⟩ := List.getElem?_eq_some_iff.mp piece
  have split : headerPieces width height fps totals =
      (headerPieces width height fps totals).take i ++
        (gap, old) :: (headerPieces width height fps totals).drop (i + 1) := by
    rw [← found, ← List.drop_eq_getElem_cons within, List.take_append_drop]
  rw [List.set_eq_take_append_cons_drop, if_pos within] at set
  rw [header_pieces, header_pieces, set, List.append_assoc, List.append_assoc]
  nth_rewrite 1 [split]
  exact piece_patched w _ _ gap old _ start value

theorem totals_patched (totals : Totals) (w : AviWriter) (rest : List UInt8)
    (frames maxBytesPerSec bufferSize riffSize : UInt32) :
    ((((((w.holding (header width height fps totals ++ rest)).patchU32 48 frames).patchU32 36
      maxBytesPerSec).patchU32 60 bufferSize).patchU32 140 frames).patchU32 144
      bufferSize).patchU32 4 riffSize =
      w.holding (header width height fps ⟨riffSize.toNat, maxBytesPerSec.toNat, frames.toNat,
        bufferSize.toNat, frames.toNat, bufferSize.toNat, totals.moviSize⟩ ++ rest) := by
  have counted (totals : Totals) :
      (w.holding (header width height fps totals ++ rest)).patchU32 48 frames =
        w.holding (header width height fps { totals with frames := frames.toNat } ++ rest) :=
    header_patched 2 rfl rfl rfl
  have rated (totals : Totals) :
      (w.holding (header width height fps totals ++ rest)).patchU32 36 maxBytesPerSec =
        w.holding (header width height fps
          { totals with maxBytesPerSec := maxBytesPerSec.toNat } ++ rest) :=
    header_patched 1 rfl rfl rfl
  have buffered (totals : Totals) :
      (w.holding (header width height fps totals ++ rest)).patchU32 60 bufferSize =
        w.holding (header width height fps
          { totals with bufferSize := bufferSize.toNat } ++ rest) :=
    header_patched 3 rfl rfl rfl
  have streamed (totals : Totals) :
      (w.holding (header width height fps totals ++ rest)).patchU32 140 frames =
        w.holding (header width height fps { totals with streamLength := frames.toNat } ++ rest) :=
    header_patched 4 rfl rfl rfl
  have streamBuffered (totals : Totals) :
      (w.holding (header width height fps totals ++ rest)).patchU32 144 bufferSize =
        w.holding (header width height fps
          { totals with streamBuffer := bufferSize.toNat } ++ rest) :=
    header_patched 5 rfl rfl rfl
  have sized (totals : Totals) :
      (w.holding (header width height fps totals ++ rest)).patchU32 4 riffSize =
        w.holding (header width height fps { totals with riffSize := riffSize.toNat } ++ rest) :=
    header_patched 0 rfl rfl rfl
  rw [counted, rated, buffered, streamed, streamBuffered, sized]
end Totals

/-! ## The finished movie -/

/-- The index entries of a movie, whose first frame lies behind the identifier of the list. -/
def entries (frames : List (List UInt8)) : List IndexEntry := (positions 4 frames).map entryOf

def largest (frames : List (List UInt8)) : UInt32 :=
  (entries frames).foldl (fun most entry => max most entry.length) 0

def moviList (frames : List (List UInt8)) : Chunk where
  id := listId
  body := moviId ++ frames.flatMap fun data => (frameChunk data).bytes

/-- The length of the file of a movie. -/
def fileLength (frames : List (List UInt8)) : ℕ :=
  232 + (frames.map fun data => 24 + data.length + data.length % 2).sum

def totalsOf (fps : UInt32) (frames : List (List UInt8)) : Totals where
  riffSize := (asU32 (fileLength frames - 8)).toNat
  maxBytesPerSec := (saturatingMul (saturatingAdd (largest frames) 8) fps).toNat
  frames := (asU32 frames.length).toNat
  bufferSize := (largest frames).toNat
  streamLength := (asU32 frames.length).toNat
  streamBuffer := (largest frames).toNat
  moviSize := (asU32 (moviList frames).body.length).toNat

def movie (width height fps : UInt32) (frames : List (List UInt8)) : Chunk where
  id := riffId
  body := aviId ++ ((headerList width height fps (totalsOf fps frames)).bytes ++
    ((moviList frames).bytes ++ (indexChunk (entries frames)).bytes))

theorem note_frames (w : AviWriter) (more : List IndexEntry) :
    w.noteFrames more = { w with
      index := w.index ++ more
      frames := w.frames + more.length
      maxFrameBytes := more.foldl (fun most entry => max most entry.length) w.maxFrameBytes } := by
  induction more generalizing w with
  | nil => simp [noteFrames]
  | cons entry rest ih =>
    show (w.noteFrame entry).noteFrames rest = _
    rw [ih]
    simp [noteFrame, Nat.add_assoc, Nat.add_comm 1]

theorem positions_length (offset : ℕ) (frames : List (List UInt8)) :
    (positions offset frames).length = frames.length := by
  induction frames generalizing offset with
  | nil => rfl
  | cons data rest ih => rw [positions, List.length_cons, List.length_cons, ih]

theorem entries_length (frames : List (List UInt8)) : (entries frames).length = frames.length := by
  rw [entries, List.length_map, positions_length]

/-- The frames and their index entries make up the file but for its headers. -/
theorem file_length (frames : List (List UInt8)) :
    fileLength frames = 232 + (frames.flatMap fun data => (frameChunk data).bytes).length +
      16 * frames.length := by
  induction frames with
  | nil => rfl
  | cons data rest ih =>
    have chunk : (frameChunk data).bytes.length = 8 + data.length + data.length % 2 :=
      chunk_bytes_length rfl
    rw [fileLength] at ih ⊢
    rw [List.map_cons, List.sum_cons, List.flatMap_cons, List.length_append, chunk,
      List.length_cons]
    omega

theorem frames_even (frames : List (List UInt8)) :
    (frames.flatMap fun data => (frameChunk data).bytes).length % 2 = 0 := by
  induction frames with
  | nil => rfl
  | cons data rest ih =>
    have chunk : (frameChunk data).bytes.length = 8 + data.length + data.length % 2 :=
      chunk_bytes_length rfl
    rw [List.flatMap_cons, List.length_append, chunk]
    omega

theorem movi_length (frames : List (List UInt8)) : (moviList frames).body.length =
    4 + (frames.flatMap fun data => (frameChunk data).bytes).length := List.length_append

theorem index_bytes (frames : List (List UInt8)) :
    (indexChunk (entries frames)).bytes.length = 8 + 16 * frames.length := by
  rw [chunk_bytes_length rfl, index_length, entries_length]
  omega

section Finished

variable (width height fps : UInt32) (frames : List (List UInt8))

theorem movie_length : (movie width height fps frames).body.length = fileLength frames - 8 := by
  have list := header_list_bytes width height fps (totalsOf fps frames)
  have movi : (moviList frames).bytes.length = 8 + (moviList frames).body.length +
      (moviList frames).body.length % 2 := chunk_bytes_length rfl
  have even := frames_even frames
  have length := file_length frames
  have start : aviId.length = 4 := rfl
  rw [movi_length] at movi
  simp only [movie, List.length_append, list, movi, index_bytes, start]
  omega

/-- The writer of a movie whose frames are all written. -/
def AviWriter.framed : AviWriter :=
  { opened width height fps with
    index := entries frames
    frames := frames.length
    maxFrameBytes := largest frames }

theorem frames_noted :
    (opened width height fps).noteFrames (entries frames) = framed width height fps frames := by
  have counted : (opened width height fps).frames + frames.length = frames.length :=
    Nat.zero_add _
  rw [note_frames, entries_length, counted]
  rfl

theorem finish_written :
    ((framed width height fps frames).holding (header width height fps .blank ++
      frames.flatMap fun data => (frameChunk data).bytes)).finish =
      (framed width height fps frames).markFinished.holding
        (header width height fps (totalsOf fps frames) ++
          ((frames.flatMap fun data => (frameChunk data).bytes) ++
            (indexChunk (entries frames)).bytes)) := by
  have movi : (header width height fps .blank ++
      frames.flatMap fun data => (frameChunk data).bytes).length - 220 =
        (moviList frames).body.length := by
    rw [List.length_append, header_length, movi_length]
    omega
  have indexed : (framed width height fps frames).markFinished.index = entries frames := rfl
  have total (totals : Totals) : (header width height fps totals ++
      ((frames.flatMap fun data => (frameChunk data).bytes) ++
        (indexChunk (entries frames)).bytes)).length - 8 = fileLength frames - 8 := by
    rw [List.length_append, List.length_append, header_length, index_bytes, file_length]
    omega
  have sized (rest : List UInt8) (size : UInt32) :
      ((framed width height fps frames).markFinished.holding
        (header width height fps .blank ++ rest)).patchU32 216 size =
      (framed width height fps frames).markFinished.holding
        (header width height fps { Totals.blank with moviSize := size.toNat } ++ rest) :=
    header_patched 6 rfl (by
      have before : (filled ((headerPieces width height fps .blank).take 6)).length = 148 := rfl
      rw [List.length_append, before]
      simp [formatStart, format_bytes, listId]) rfl
  show (((framed width height fps frames).markFinished.holding _).patchU32 216
    (asU32 (List.length (header width height fps .blank ++
      frames.flatMap fun data => (frameChunk data).bytes) - 220))).writeIndex.patchTotals = _
  rw [movi, sized, index_written, List.append_assoc]
  show ((((((((framed width height fps frames).markFinished.holding _).patchU32 48
    (asU32 frames.length)).patchU32 36
    (saturatingMul (saturatingAdd (largest frames) 8) fps)).patchU32 60
    (largest frames)).patchU32 140 (asU32 frames.length)).patchU32 144
    (largest frames)).patchU32 4 (asU32 (List.length _ - 8))) = _
  rw [totals_patched, indexed, total]
  rfl

/-- The bytes of a finished movie are those of its chunk, whose sizes are truncated. -/
theorem mux_movie (wide : width ≠ 0) (high : height ≠ 0) (fast : fps ≠ 0) :
    mux width height fps frames = .ok (movie width height fps frames).bytes := by
  have sizes : ¬(width = 0 ∨ height = 0) := fun zero => zero.elim wide high
  have within : 220 ≤ (header width height fps .blank).length := by
    rw [header_length]
    decide
  have written : frames.foldl writeFrame
      ((opened width height fps).holding (header width height fps .blank)) =
      (framed width height fps frames).holding (header width height fps .blank ++
        frames.flatMap fun data => (frameChunk data).bytes) := by
    rw [frames_written _ _ _ within, header_length]
    show ((opened width height fps).noteFrames (entries frames)).holding _ = _
    rw [frames_noted]
  have whole : (movie width height fps frames).bytes = riffId ++
      (u32Bytes (fileLength frames - 8) ++ (movie width height fps frames).body) := by
    apply chunk_bytes_even (movie_length width height fps frames)
    have length := file_length frames
    have even := frames_even frames
    omega
  have list : (moviList frames).bytes = listId ++
      (u32Bytes (moviList frames).body.length ++ (moviList frames).body) := by
    apply chunk_bytes_even rfl
    have even := frames_even frames
    rw [movi_length]
    omega
  rw [mux, AviWriter.new, if_neg sizes, if_neg fast, header_written]
  show Except.ok (frames.foldl writeFrame _).finish.inner.bytes = _
  rw [written, finish_written, holding_bytes, whole, movie, list]
  simp only [header, totalsOf, moviList, asU32, UInt32.toNat_ofNat', Nat.reducePow, u32_bytes_mod,
    List.append_assoc]

end Finished

end ADesk.Recorder.Avi
