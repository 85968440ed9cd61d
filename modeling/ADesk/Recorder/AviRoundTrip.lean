/- ADesk/Recorder/AviRoundTrip
   digest: Reading a finished movie as RIFF AVI gives back what was muxed, exactly when nothing in
   it is truncated. -/

import ADesk.Recorder.AviLayout

set_option autoImplicit false

namespace ADesk.Recorder.Avi

open ADesk.Foundation.Riff

/-! ## Reading a movie -/

structure MainHeader where
  microSecPerFrame : ℕ
  totalFrames : ℕ
  width : ℕ
  height : ℕ
  deriving DecidableEq

structure StreamHeader where
  scale : ℕ
  rate : ℕ
  length : ℕ
  right : ℕ
  bottom : ℕ
  deriving DecidableEq

structure Format where
  width : ℕ
  height : ℕ
  deriving DecidableEq

/-- What a reader finds in a movie. The index gives the offset and the length of each frame. -/
structure Movie where
  main : MainHeader
  stream : StreamHeader
  format : Format
  frames : List (List UInt8)
  index : List (ℕ × ℕ)
  deriving DecidableEq

def readBody (id : List UInt8) (chunk : Chunk) : Option (List UInt8) :=
  if chunk.id = id then some chunk.body else none

/-- The content of a chunk that starts with its kind, as a list does. -/
def readForm (id kind : List UInt8) (chunk : Chunk) : Option (List UInt8) :=
  if chunk.id = id ∧ chunk.body.take 4 = kind then some (chunk.body.drop 4) else none

def readMainHeader (body : List UInt8) : Option MainHeader :=
  match words body with
  | some [microSec, _, _, _, frames, _, _, _, width, height, _, _, _, _] =>
    some ⟨microSec, frames, width, height⟩
  | _ => none

def readStreamHeader (body : List UInt8) : Option StreamHeader :=
  if body.take 8 = vidsId ++ mjpgId then
    match words (body.drop 8) with
    | some [_, _, _, scale, rate, _, length, _, _, _, _, corner] =>
      some ⟨scale, rate, length, corner % 2 ^ 16, corner / 2 ^ 16⟩
    | _ => none
  else none

def readFormat (body : List UInt8) : Option Format :=
  match words body with
  | some [_, width, height, _, _, _, _, _, _, _] => some ⟨width, height⟩
  | _ => none

def frameWord : ℕ := u32Of 0x30 0x30 0x64 0x63

def readEntries : List ℕ → Option (List (ℕ × ℕ))
  | [] => some []
  | id :: flags :: offset :: length :: rest =>
    if id = frameWord ∧ flags = 16 then (readEntries rest).map ((offset, length) :: ·) else none
  | _ => none

def readFrames (chunks : List Chunk) : Option (List (List UInt8)) :=
  if ∀ chunk ∈ chunks, chunk.id = frameId then some (chunks.map Chunk.body) else none

def parseAvi (bytes : List UInt8) : Option Movie := do
  let [riff] ← readChunks bytes | none
  let [headers, movi, index] ← readChunks (← readForm riffId aviId riff) | none
  let [main, streams] ← readChunks (← readForm listId hdrlId headers) | none
  let [stream, format] ← readChunks (← readForm listId strlId streams) | none
  return {
    main := ← readMainHeader (← readBody avihId main)
    stream := ← readStreamHeader (← readBody strhId stream)
    format := ← readFormat (← readBody strfId format)
    frames := ← readFrames (← readChunks (← readForm listId moviId movi))
    index := ← readEntries (← words (← readBody idx1Id index)) }

/-! ## What is read of a finished movie -/

/-- What was muxed, with the true positions of the frames. -/
def recorded (width height fps : UInt32) (frames : List (List UInt8)) : Movie where
  main := ⟨1000000 / fps.toNat, frames.length, width.toNat, height.toNat⟩
  stream := ⟨1, fps.toNat, frames.length, width.toNat, height.toNat⟩
  format := ⟨width.toNat, height.toNat⟩
  frames := frames
  index := positions 4 frames

/-- The frame rectangle has 16 bits a side. -/
def Movie.clipped (movie : Movie) : Movie :=
  { movie with stream := { movie.stream with
      right := movie.stream.right % 2 ^ 16, bottom := movie.stream.bottom % 2 ^ 16 } }

section Headers

variable (width height fps : UInt32) (totals : Totals)

theorem main_header_read (counted : totals.frames < 2 ^ 32) :
    readMainHeader (mainHeader width height fps totals).body =
      some ⟨1000000 / fps.toNat, totals.frames, width.toNat, height.toNat⟩ := by
  have period : (1000000 / fps).toNat % 2 ^ 32 = 1000000 / fps.toNat := by
    rw [Nat.mod_eq_of_lt (UInt32.toNat_lt _), UInt32.toNat_div]
    rfl
  simp only [readMainHeader, mainHeader, List.flatMap_cons, List.flatMap_nil, words_u32, words_nil,
    Option.map_some, period, Nat.mod_eq_of_lt counted, Nat.mod_eq_of_lt (UInt32.toNat_lt _)]

theorem stream_header_read (counted : totals.streamLength < 2 ^ 32) :
    readStreamHeader (streamHeader width height fps totals).body =
      some ⟨1, fps.toNat, totals.streamLength, width.toNat % 2 ^ 16, height.toNat % 2 ^ 16⟩ := by
  have kind : (streamHeader width height fps totals).body.take 8 = vidsId ++ mjpgId := rfl
  have low : (width.toNat % 2 ^ 16 + 2 ^ 16 * (height.toNat % 2 ^ 16)) % 2 ^ 16 =
      width.toNat % 2 ^ 16 := by omega
  have high : (width.toNat % 2 ^ 16 + 2 ^ 16 * (height.toNat % 2 ^ 16)) / 2 ^ 16 =
      height.toNat % 2 ^ 16 := by omega
  have corner := words_u16 width.toNat height.toNat []
  rw [List.append_nil] at corner
  have fields : (streamHeader width height fps totals).body.drop 8 =
      u32Bytes 0 ++ (u16Bytes 0 ++ (u16Bytes 0 ++ ([0, 1, fps.toNat, 0, totals.streamLength,
        totals.streamBuffer, 0xFFFFFFFF, 0].flatMap u32Bytes ++ (u16Bytes 0 ++ (u16Bytes 0 ++
          (u16Bytes width.toNat ++ u16Bytes height.toNat)))))) := rfl
  rw [readStreamHeader, if_pos kind, fields]
  simp only [List.flatMap_cons, List.flatMap_nil, List.append_assoc, List.nil_append, words_u32,
    words_u16, corner, words_nil, Option.map_some, low, high, Nat.mod_eq_of_lt counted,
    Nat.mod_eq_of_lt (UInt32.toNat_lt _)]
  rfl

theorem format_read : readFormat (format width height).body =
    some ⟨width.toNat, height.toNat⟩ := by
  have compression (rest : List UInt8) : words (mjpgId ++ rest) =
      (words rest).map (u32Of 0x4D 0x4A 0x50 0x47 :: ·) := rfl
  simp only [readFormat, format, List.flatMap_cons, List.flatMap_nil, words_u32, words_u16,
    compression, words_nil, Option.map_some, Nat.mod_eq_of_lt (UInt32.toNat_lt _)]

end Headers

/-! ## The index and the frames -/

def entryWords (entry : IndexEntry) : List ℕ :=
  [frameWord, 16, entry.offset.toNat, entry.length.toNat]

theorem entries_words (entries : List IndexEntry) :
    words (entries.flatMap entryBytes) = some (entries.flatMap entryWords) := by
  induction entries with
  | nil => rfl
  | cons entry rest ih =>
    have named (later : List UInt8) :
        words (frameId ++ later) = (words later).map (frameWord :: ·) := rfl
    simp only [List.flatMap_cons, entryBytes, List.append_assoc, named, words_u32, ih,
      Option.map_some, Nat.mod_eq_of_lt (UInt32.toNat_lt _)]
    rfl

theorem entries_read (entries : List IndexEntry) :
    readEntries (entries.flatMap entryWords) =
      some (entries.map fun entry => (entry.offset.toNat, entry.length.toNat)) := by
  induction entries with
  | nil => rfl
  | cons entry rest ih =>
    show (if frameWord = frameWord ∧ 16 = 16 then
      (readEntries (rest.flatMap entryWords)).map _ else none) = _
    rw [if_pos ⟨rfl, rfl⟩, ih]
    rfl

/-- Every position is within the space that the frames take. -/
theorem positions_within {offset : ℕ} {frames : List (List UInt8)} {position : ℕ × ℕ}
    (member : position ∈ positions offset frames) :
    position.1 + position.2 ≤
      offset + (frames.flatMap fun data => (frameChunk data).bytes).length := by
  induction frames generalizing offset with
  | nil => cases member
  | cons data rest ih =>
    have chunk : (frameChunk data).bytes.length = 8 + data.length + data.length % 2 :=
      chunk_bytes_length rfl
    rw [List.flatMap_cons, List.length_append]
    rw [positions, List.mem_cons] at member
    rcases member with rfl | later
    · rw [chunk]
      omega
    · have within := ih later
      omega

/-- Entries whose positions are not truncated give the positions back. -/
theorem entries_exact {frames : List (List UInt8)} (fits : fileLength frames < 2 ^ 32 + 8) :
    (entries frames).map (fun entry => (entry.offset.toNat, entry.length.toNat)) =
      positions 4 frames := by
  have exactly (position : ℕ × ℕ) (member : position ∈ positions 4 frames) :
      ((entryOf position).offset.toNat, (entryOf position).length.toNat) = position := by
    have within := positions_within member
    have length := file_length frames
    have offset : position.1 % 2 ^ 32 = position.1 := Nat.mod_eq_of_lt (by omega)
    have size : position.2 % 2 ^ 32 = position.2 := Nat.mod_eq_of_lt (by omega)
    simp only [entryOf, asU32, UInt32.toNat_ofNat', offset, size]
  rw [entries, List.map_map]
  calc (positions 4 frames).map _ = (positions 4 frames).map id := List.map_congr_left exactly
    _ = positions 4 frames := List.map_id _

theorem frames_read (frames : List (List UInt8)) :
    readFrames (frames.map frameChunk) = some frames := by
  have named : ∀ chunk ∈ frames.map frameChunk, chunk.id = frameId := by
    intro chunk member
    obtain ⟨data, _, rfl⟩ := List.mem_map.mp member
    rfl
  rw [readFrames, if_pos named, List.map_map]
  exact congrArg some (List.map_id frames)

/-! ## The whole movie -/

theorem chunk_read {chunk : Chunk} (fits : chunk.Fits) : readChunks chunk.bytes = some [chunk] := by
  have read := read_chunks (List.forall_mem_singleton.mpr fits)
  rwa [List.flatMap_cons, List.flatMap_nil, List.append_nil] at read

section Movie

variable {width height fps : UInt32} {frames : List (List UInt8)}

theorem movie_fits (fits : fileLength frames < 2 ^ 32 + 8) :
    (movie width height fps frames).Fits := by
  have short := movie_length width height fps frames
  exact ⟨rfl, by omega⟩

theorem movie_lists_read (fits : fileLength frames < 2 ^ 32 + 8) :
    readChunks ((movie width height fps frames).body.drop 4) =
      some [headerList width height fps (totalsOf fps frames), moviList frames,
        indexChunk (entries frames)] := by
  have length := file_length frames
  have first : (headerList width height fps (totalsOf fps frames)).Fits := by
    have short := header_list_length width height fps (totalsOf fps frames)
    exact ⟨rfl, by omega⟩
  have second : (moviList frames).Fits := by
    have short := movi_length frames
    exact ⟨rfl, by omega⟩
  have third : (indexChunk (entries frames)).Fits := by
    have short := index_length (entries frames)
    rw [entries_length] at short
    exact ⟨rfl, by omega⟩
  have read := read_chunks (List.forall_mem_cons.mpr ⟨first, List.forall_mem_cons.mpr
    ⟨second, List.forall_mem_singleton.mpr third⟩⟩)
  rwa [List.flatMap_cons, List.flatMap_cons, List.flatMap_cons, List.flatMap_nil,
    List.append_nil] at read

/-- Two chunks that fit are read one after the other. -/
theorem pair_read {first second : Chunk} (fits : first.Fits) (also : second.Fits) :
    readChunks (first.bytes ++ second.bytes) = some [first, second] := by
  have read := read_chunks (List.forall_mem_cons.mpr ⟨fits, List.forall_mem_singleton.mpr also⟩)
  rwa [List.flatMap_cons, List.flatMap_cons, List.flatMap_nil, List.append_nil] at read

theorem header_lists_read (totals : Totals) :
    readChunks ((headerList width height fps totals).body.drop 4) =
      some [mainHeader width height fps totals, streamList width height fps totals] := by
  have first := main_header_length width height fps totals
  have second := stream_list_length width height fps totals
  exact pair_read ⟨rfl, by omega⟩ ⟨rfl, by omega⟩

theorem stream_chunks_read (totals : Totals) :
    readChunks ((streamList width height fps totals).body.drop 4) =
      some [streamHeader width height fps totals, format width height] := by
  have first := stream_header_length width height fps totals
  have second := format_length width height
  exact pair_read ⟨rfl, by omega⟩ ⟨rfl, by omega⟩

theorem frame_chunks_read (fits : fileLength frames < 2 ^ 32 + 8) :
    readChunks ((moviList frames).body.drop 4) = some (frames.map frameChunk) := by
  have short : ∀ chunk ∈ frames.map frameChunk, chunk.Fits := by
    intro chunk member
    obtain ⟨data, given, rfl⟩ := List.mem_map.mp member
    have length := file_length frames
    have chunkLength : (frameChunk data).bytes.length = 8 + data.length + data.length % 2 :=
      chunk_bytes_length rfl
    have within : (frameChunk data).bytes.length ≤
        (frames.flatMap fun data => (frameChunk data).bytes).length := by
      have chunk := List.mem_map_of_mem (f := fun data => (frameChunk data).bytes) given
      exact (List.sublist_flatten_of_mem chunk).length_le
    exact ⟨rfl, by show data.length < 2 ^ 32; omega⟩
  have read := read_chunks short
  rw [List.flatMap_map] at read
  exact read

/-- A file is read chunk by chunk. -/
theorem parse_avi_chunks {bytes inside headerBytes streamBytes frameBytes : List UInt8}
    {riff headers movi index main streams stream picture : Chunk} {chunks : List Chunk}
    {read : Movie} (whole : readChunks bytes = some [riff])
    (form : readForm riffId aviId riff = some inside)
    (lists : readChunks inside = some [headers, movi, index])
    (header_form : readForm listId hdrlId headers = some headerBytes)
    (header_chunks : readChunks headerBytes = some [main, streams])
    (stream_form : readForm listId strlId streams = some streamBytes)
    (stream_chunks : readChunks streamBytes = some [stream, picture])
    (movi_form : readForm listId moviId movi = some frameBytes)
    (movi_chunks : readChunks frameBytes = some chunks)
    (main_read : (readBody avihId main).bind readMainHeader = some read.main)
    (stream_read : (readBody strhId stream).bind readStreamHeader = some read.stream)
    (format_read : (readBody strfId picture).bind readFormat = some read.format)
    (frames_read : readFrames chunks = some read.frames)
    (index_read : ((readBody idx1Id index).bind words).bind readEntries = some read.index) :
    parseAvi bytes = some read := by
  show (readChunks bytes).bind _ = _
  rw [whole]
  show (readForm riffId aviId riff).bind _ = _
  rw [form]
  show (readChunks inside).bind _ = _
  rw [lists]
  show (readForm listId hdrlId headers).bind _ = _
  rw [header_form]
  show (readChunks headerBytes).bind _ = _
  rw [header_chunks]
  show (readForm listId strlId streams).bind _ = _
  rw [stream_form]
  show (readChunks streamBytes).bind _ = _
  rw [stream_chunks]
  show (readBody avihId main).bind _ = _
  simp only [Option.bind_eq_bind]
  rw [← Option.bind_assoc, main_read, Option.bind_some, ← Option.bind_assoc, stream_read,
    Option.bind_some, ← Option.bind_assoc, format_read, Option.bind_some, movi_form,
    Option.bind_some, movi_chunks, Option.bind_some, frames_read, Option.bind_some,
    ← Option.bind_assoc, ← Option.bind_assoc, index_read]
  rfl

/-- A movie whose sizes fit is read as it was muxed, but for the frame rectangle. -/
theorem movie_read (fits : fileLength frames < 2 ^ 32 + 8) :
    parseAvi (movie width height fps frames).bytes =
      some (recorded width height fps frames).clipped := by
  have length := file_length frames
  have count : (asU32 frames.length).toNat = frames.length := by
    rw [asU32, UInt32.toNat_ofNat', Nat.mod_eq_of_lt (by omega)]
  have whole := chunk_read (@movie_fits width height fps frames fits)
  have riff : readForm riffId aviId (movie width height fps frames) =
      some ((movie width height fps frames).body.drop 4) := rfl
  have headers : readForm listId hdrlId (headerList width height fps (totalsOf fps frames)) =
      some ((headerList width height fps (totalsOf fps frames)).body.drop 4) := rfl
  have streams : readForm listId strlId (streamList width height fps (totalsOf fps frames)) =
      some ((streamList width height fps (totalsOf fps frames)).body.drop 4) := rfl
  have movi : readForm listId moviId (moviList frames) = some ((moviList frames).body.drop 4) := rfl
  have main : (readBody avihId (mainHeader width height fps (totalsOf fps frames))).bind
      readMainHeader = some ⟨1000000 / fps.toNat, (asU32 frames.length).toNat, width.toNat,
        height.toNat⟩ :=
    main_header_read width height fps (totalsOf fps frames) (UInt32.toNat_lt _)
  have stream : (readBody strhId (streamHeader width height fps (totalsOf fps frames))).bind
      readStreamHeader = some ⟨1, fps.toNat, (asU32 frames.length).toNat, width.toNat % 2 ^ 16,
        height.toNat % 2 ^ 16⟩ :=
    stream_header_read width height fps (totalsOf fps frames) (UInt32.toNat_lt _)
  have picture : (readBody strfId (format width height)).bind readFormat =
      some ⟨width.toNat, height.toNat⟩ := format_read width height
  have index : ((readBody idx1Id (indexChunk (entries frames))).bind words).bind readEntries =
      some (positions 4 frames) := by
    show (words ((entries frames).flatMap entryBytes)).bind _ = _
    rw [entries_words, Option.bind_some, entries_read, entries_exact fits]
  rw [count] at main stream
  exact parse_avi_chunks whole riff (movie_lists_read fits) headers (header_lists_read _) streams
    (stream_chunks_read _) movi (frame_chunks_read fits) main stream picture (frames_read _)
    index

theorem parsed_single {bytes : List UInt8} {movie : Movie} (parsed : parseAvi bytes = some movie) :
    ∃ riff, readChunks bytes = some [riff] := by
  rw [parseAvi, Option.bind_eq_bind, Option.bind_eq_some_iff] at parsed
  obtain ⟨chunks, read, more⟩ := parsed
  cases chunks with
  | nil => cases more
  | cons riff rest =>
    cases rest with
    | nil => exact ⟨riff, read⟩
    | cons second later => cases more

/-- A movie that is read as one chunk fits in its size field. -/
theorem movie_read_fits {read : Movie}
    (parsed : parseAvi (movie width height fps frames).bytes = some read) :
    fileLength frames < 2 ^ 32 + 8 := by
  have length := file_length frames
  have even := frames_even frames
  have body := movie_length width height fps frames
  obtain ⟨riff, single⟩ := parsed_single parsed
  rw [chunk_bytes_even body (by omega)] at single
  have size : (movie width height fps frames).body.length = _ := read_chunks_single single
  rw [u32_of_bytes, body] at size
  omega

end Movie

/-! ## The round trip -/

def RoundTrips (width height fps : UInt32) (frames : List (List UInt8)) : Prop :=
  ∃ bytes, mux width height fps frames = .ok bytes ∧
    parseAvi bytes = some (recorded width height fps frames)

theorem round_trip_fits {width height fps : UInt32} {frames : List (List UInt8)}
    (wide : width ≠ 0) (high : height ≠ 0) (fast : fps ≠ 0)
    (read : RoundTrips width height fps frames) : fileLength frames < 2 ^ 32 + 8 := by
  obtain ⟨bytes, made, parsed⟩ := read
  rw [mux_movie width height fps frames wide high fast] at made
  cases made
  exact movie_read_fits parsed

/-- Nothing is truncated: neither the size of the file nor the frame rectangle. -/
def InRange (width height : UInt32) (frames : List (List UInt8)) : Prop :=
  fileLength frames < 2 ^ 32 + 8 ∧ width.toNat < 2 ^ 16 ∧ height.toNat < 2 ^ 16

instance (width height : UInt32) (frames : List (List UInt8)) :
    Decidable (InRange width height frames) :=
  inferInstanceAs (Decidable (_ ∧ _ ∧ _))

/-- A movie is read back exactly when it is in range. -/
theorem movie_round_trips {width height fps : UInt32} {frames : List (List UInt8)}
    (wide : width ≠ 0) (high : height ≠ 0) (fast : fps ≠ 0) :
    RoundTrips width height fps frames ↔ InRange width height frames := by
  have muxed := mux_movie width height fps frames wide high fast
  constructor
  · intro read
    have fits := round_trip_fits wide high fast read
    obtain ⟨bytes, made, parsed⟩ := read
    rw [muxed] at made
    cases made
    rw [movie_read fits] at parsed
    have same := congrArg Movie.stream (Option.some.inj parsed)
    have right : width.toNat % 2 ^ 16 = width.toNat := congrArg StreamHeader.right same
    have bottom : height.toNat % 2 ^ 16 = height.toNat := congrArg StreamHeader.bottom same
    exact ⟨fits, by omega, by omega⟩
  · rintro ⟨fits, narrow, low⟩
    have kept : (recorded width height fps frames).clipped = recorded width height fps frames := by
      simp only [Movie.clipped, recorded, Nat.mod_eq_of_lt narrow, Nat.mod_eq_of_lt low]
    exact ⟨_, muxed, by rw [movie_read fits, kept]⟩

theorem movie_round_trips_short : RoundTrips 4 4 25 [[1, 2, 3], [4, 5]] :=
  (movie_round_trips (by decide) (by decide) (by decide)).mpr (by decide)

/-- A JPEG frame of a size. -/
def jpegFrame (size : ℕ) : List UInt8 :=
  [0xFF, 0xD8] ++ (List.replicate (size - 4) 0 ++ [0xFF, 0xD9])

theorem jpeg_frame_length {size : ℕ} (enough : 4 ≤ size) : (jpegFrame size).length = size := by
  simp only [jpegFrame, List.length_append, List.length_replicate, List.length_cons,
    List.length_nil]
  omega

theorem file_length_replicate (count : ℕ) (data : List UInt8) :
    fileLength (List.replicate count data) =
      232 + count * (24 + data.length + data.length % 2) := by
  rw [fileLength, List.map_replicate, List.sum_replicate_nat]

/-- After less than three minutes of frames of a megabyte the file is longer than its size field
holds. -/
theorem long_movie_lost : ¬∀ (width height fps : UInt32) (frames : List (List UInt8)),
    width ≠ 0 → height ≠ 0 → fps ≠ 0 → RoundTrips width height fps frames := by
  intro always
  have size : (jpegFrame 1000000).length = 1000000 := jpeg_frame_length (by decide)
  have long := always 1280 720 30 (List.replicate 4300 (jpegFrame 1000000)) (by decide)
    (by decide) (by decide)
  have fits := round_trip_fits (by decide) (by decide) (by decide) long
  have length := file_length_replicate 4300 (jpegFrame 1000000)
  rw [size] at length
  omega
end ADesk.Recorder.Avi
