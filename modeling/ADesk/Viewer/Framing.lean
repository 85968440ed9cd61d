/- ADesk/Viewer/Framing
   digest: The cancellation-safe line reader: what it returns of any delivery of a stream, and how
   much it buffers. -/

import Mathlib.Data.List.Basic
import ADesk.Foundation.Reporting
import ADesk.Foundation.Streams

set_option autoImplicit false

namespace ADesk.Viewer.Framing

open ADesk.Foundation.Reporting
open ADesk.Foundation.Streams

universe u

variable {ε : Type u}

def newline : UInt8 := 10

/-- `std::str::from_utf8` accepts the bytes. -/
def isUtf8 (bytes : List UInt8) : Bool := ByteArray.validateUTF8 ⟨bytes.toArray⟩

/-- How a sequence of reads ends: with the stream, with a failed read, or with a line that is too
long (terminator included) or no text. -/
inductive Ending (ε : Type u)
  | eof
  | io (error : ε)
  | tooLong (length maxLen : ℕ)
  | notUtf8 (line : List UInt8)
  deriving DecidableEq

structure LineReader (ε : Type u) where
  reader : Buffered UInt8 ε
  buf : List UInt8
  maxLen : ℕ
  complete : Bool
  -- the bytes that the call in progress has read, while there is one
  reading : Option ℕ

namespace LineReader

def new (source : List (Delivery UInt8 ε)) (maxLen : ℕ) : LineReader ε :=
  ⟨⟨[], source⟩, [], maxLen, false, none⟩

/-- A call of `read_line` begins: a line that was handed out is discarded. -/
def enter (lines : LineReader ε) : LineReader ε :=
  if lines.complete then { lines with buf := [], complete := false, reading := some 0 }
  else { lines with reading := some 0 }

/-- The rest of `read_line`, after `read_until` has read that many bytes. -/
def finish (lines : LineReader ε) (read : ℕ) :
    LineReader ε × Option (Report (List UInt8) (Ending ε)) :=
  if read = 0 ∧ lines.buf = [] then ({ lines with reading := none }, some (.ended .eof))
  else if lines.maxLen < lines.buf.length then
    ({ lines with complete := true, reading := none },
      some (.ended (.tooLong lines.buf.length lines.maxLen)))
  else
    let line := if lines.buf.getLast? = some newline then lines.buf.dropLast else lines.buf
    ({ lines with buf := line, complete := true, reading := none },
      if isUtf8 line then some (.item line) else some (.ended (.notUtf8 line)))

/-- `read_until` copies bytes that were received and consumes them. -/
def consume (lines : LineReader ε) (used : ℕ) : LineReader ε :=
  { lines with
    buf := lines.buf ++ lines.reader.available.take used
    reader := ⟨lines.reader.available.drop used, lines.reader.source⟩ }

/-- One turn of the loop of `read_until`, or the begin of the next call. A pause leaves the bytes
where they are, whether the call goes on after it or is dropped. -/
def step (lines : LineReader ε) : LineReader ε × Option (Report (List UInt8) (Ending ε)) :=
  match lines.reading with
  | none => (lines.enter, none)
  | some read =>
    match lines.reader.available, lines.reader.source with
    | [], [] => lines.finish read
    | [], .chunk first rest :: later => ({ lines with reader := ⟨first :: rest, later⟩ }, none)
    | [], .pending cancelled :: later =>
      ({ lines with
          reader := ⟨[], later⟩
          reading := if cancelled then none else some read }, none)
    | [], .failed error :: later =>
      ({ lines with reader := ⟨[], later⟩, reading := none }, some (.ended (.io error)))
    | first :: rest, _ =>
      let available := first :: rest
      match available.idxOf? newline with
      | some index => (lines.consume (index + 1)).finish (read + (index + 1))
      | none =>
        ({ lines.consume available.length with reading := some (read + available.length) }, none)

end LineReader

/-! ## What the pieces of a stream amount to -/

/-- Why a line is refused that takes that many bytes. -/
def refusal (maxLen size : ℕ) (line : List UInt8) : Option (Ending ε) :=
  if maxLen < size then some (.tooLong size maxLen)
  else if isUtf8 line then none else some (.notUtf8 line)

/-- A terminated line is measured with its terminator. -/
def whole (maxLen : ℕ) (line : List UInt8) : Option (Ending ε) :=
  refusal maxLen (line.length + 1) line

/-- What follows the last terminator is a line of its own, unless the stream breaks off. -/
def tail (maxLen : ℕ) (broken : Option ε) (line : List UInt8) : List (List UInt8) × Ending ε :=
  match broken with
  | some error => ([], .io error)
  | none =>
    if line = [] then ([], .eof)
    else
      match refusal maxLen line.length line with
      | some ending => ([], ending)
      | none => ([line], .eof)

/-- The lines of a stream and how they end. -/
def splitLines (maxLen : ℕ) (deliveries : List (Delivery UInt8 ε)) :
    List (List UInt8) × Ending ε :=
  verdict (whole maxLen) (tail maxLen (fault deliveries)) newline (content deliveries)

namespace LineReader

variable {lines : LineReader ε}

/-! ## What one step does -/

/-- The bytes of the line that is being assembled. -/
def held (lines : LineReader ε) : List UInt8 := if lines.complete then [] else lines.buf

/-- What was not handed out yet. -/
def stream (lines : LineReader ε) : List UInt8 := lines.held ++ lines.reader.content

structure Sound (lines : LineReader ε) : Prop where
  free : newline ∉ lines.held
  fresh : lines.reading ≠ none → lines.complete = false
  counted : ∀ read, lines.reading = some read → lines.buf = [] → read = 0

def weight (lines : LineReader ε) : ℕ :=
  lines.reader.effort + 2 * lines.held.length + if lines.reading = none then 1 else 0

/-- A line of the buffer was handed out or refused. -/
structure Handed (lines after : LineReader ε) : Prop where
  reader : after.reader = lines.reader
  maxLen : after.maxLen = lines.maxLen
  complete : after.complete = true
  idle : after.reading = none
  small : after.buf.length ≤ lines.buf.length
  kept : lines.maxLen < lines.buf.length → after.buf = lines.buf

/-- What is reported of a line, where a refusal ends everything. -/
def reportOf (refused : Option (Ending ε)) (line : List UInt8) :
    Report (List UInt8) (Ending ε) :=
  match refused with
  | some ending => .ended ending
  | none => .item line

theorem held_fresh (fresh : lines.complete = false) : lines.held = lines.buf := by
  unfold held
  rw [fresh]
  rfl

theorem held_complete (complete : lines.complete = true) : lines.held = [] := by
  unfold held
  rw [complete]
  rfl

theorem Sound.held_reading (sound : lines.Sound) {read : ℕ} (reading : lines.reading = some read) :
    lines.held = lines.buf :=
  held_fresh (sound.fresh (by rw [reading]; exact Option.some_ne_none read))

theorem Handed.sound {after : LineReader ε} (handed : Handed lines after) : Sound after where
  free := by
    rw [held_complete handed.complete]
    exact List.not_mem_nil
  fresh reading := absurd handed.idle reading
  counted read reading := by
    rw [handed.idle] at reading
    cases reading

theorem Handed.stream {after : LineReader ε} (handed : Handed lines after) :
    after.stream = lines.reader.content := by
  unfold LineReader.stream
  rw [held_complete handed.complete, handed.reader, List.nil_append]

theorem Handed.weight {after : LineReader ε} (handed : Handed lines after) :
    after.weight = lines.reader.effort + 1 := by
  unfold LineReader.weight
  rw [held_complete handed.complete, handed.reader, handed.idle]
  rfl

/-- What is in the buffer is judged as it is, a terminator at its end apart. -/
theorem finish_line (read : ℕ) (some_read : ¬ (read = 0 ∧ lines.buf = [])) {line : List UInt8}
    (stripped : (if lines.buf.getLast? = some newline then lines.buf.dropLast else lines.buf) =
      line) :
    ∃ after, lines.finish read =
        (after, some (reportOf (refusal lines.maxLen lines.buf.length line) line)) ∧
      Handed lines after := by
  have short : line.length ≤ lines.buf.length := by
    rw [← stripped]
    split
    · rw [List.length_dropLast]
      exact Nat.sub_le _ _
    · exact Nat.le_refl _
  unfold finish refusal
  rw [if_neg some_read]
  by_cases long : lines.maxLen < lines.buf.length
  · rw [if_pos long, if_pos long]
    exact ⟨_, rfl, rfl, rfl, rfl, rfl, Nat.le_refl _, fun _ => rfl⟩
  · rw [if_neg long, if_neg long, stripped]
    refine ⟨{ lines with buf := line, complete := true, reading := none }, ?_, rfl, rfl, rfl, rfl,
      short, fun much => absurd much long⟩
    by_cases text : isUtf8 line = true
    · simp only [text, if_true, reportOf]
    · simp only [text, if_false, reportOf, Bool.false_eq_true]

/-- What one step can do. -/
inductive Turn (lines : LineReader ε) :
    LineReader ε × Option (Report (List UInt8) (Ending ε)) → Prop
  | on {after : LineReader ε} (sound : after.Sound) (fresh : after.complete = false)
      (nearer : after.weight < lines.weight) (same : after.stream = lines.stream)
      (faults : fault after.reader.source = fault lines.reader.source)
      (cap : after.maxLen = lines.maxLen) : Turn lines (after, none)
  | line {filled after : LineReader ε} {piece : List UInt8} (free : newline ∉ piece)
      (buffered : filled.buf = piece ++ [newline]) (handed : Handed filled after)
      (nearer : after.weight < lines.weight)
      (split : lines.stream = piece ++ newline :: after.stream)
      (faults : fault after.reader.source = fault lines.reader.source)
      (cap : filled.maxLen = lines.maxLen) :
      Turn lines (after, some (reportOf (whole lines.maxLen piece) piece))
  | rest {after : LineReader ε} (free : newline ∉ lines.buf) (nonempty : lines.buf ≠ [])
      (handed : Handed lines after) (nearer : after.weight < lines.weight)
      (all : lines.stream = lines.buf) (spent : after.stream = [])
      (unbroken : fault lines.reader.source = none)
      (faults : fault after.reader.source = fault lines.reader.source) :
      Turn lines
        (after, some (reportOf (refusal lines.maxLen lines.buf.length lines.buf) lines.buf))
  | eof {after : LineReader ε} (spent : lines.stream = []) (empty : after.buf = [])
      (unbroken : fault lines.reader.source = none) : Turn lines (after, some (.ended .eof))
  | failed {after : LineReader ε} {error : ε} (free : newline ∉ lines.stream)
      (kept : after.buf = lines.stream) (broken : fault lines.reader.source = some error) :
      Turn lines (after, some (.ended (.io error)))

/-- The call that begins takes up the line where the last one was dropped. -/
theorem turn_enter (sound : lines.Sound) (idle : lines.reading = none) :
    Turn lines (lines.enter, none) := by
  unfold enter
  by_cases done : lines.complete = true
  · have empty : lines.held = [] := held_complete done
    rw [if_pos done]
    refine .on ⟨List.not_mem_nil, fun _ => rfl, fun read same _ => ?_⟩ rfl ?_ ?_ rfl rfl
    · exact (Option.some.inj same).symm
    · unfold weight
      rw [idle, empty]
      exact Nat.lt_succ_self _
    · unfold stream
      rw [empty]
      rfl
  · have fresh : lines.complete = false := Bool.eq_false_iff.mpr done
    rw [if_neg done]
    refine .on ⟨sound.free, fun _ => fresh, fun read same _ => ?_⟩ fresh ?_ rfl rfl rfl
    · exact (Option.some.inj same).symm
    · unfold weight
      rw [idle]
      exact Nat.lt_succ_self _

/-- At the end of the stream what was assembled is the last line. -/
theorem turn_end (sound : lines.Sound) {read : ℕ} (reading : lines.reading = some read)
    (available : lines.reader.available = []) (source : lines.reader.source = []) :
    Turn lines (lines.finish read) := by
  have held := sound.held_reading reading
  have spent : lines.reader.content = [] := by
    unfold Buffered.content
    rw [available, source]
    rfl
  have all : lines.stream = lines.buf := by
    rw [stream, spent, List.append_nil, held]
  have unbroken : fault lines.reader.source = none := by
    rw [source]
    rfl
  by_cases empty : lines.buf = []
  · unfold finish
    rw [if_pos ⟨sound.counted read reading empty, empty⟩]
    exact .eof (all.trans empty) empty unbroken
  · have free : newline ∉ lines.buf := held ▸ sound.free
    have last : lines.buf.getLast? ≠ some newline := fun same => free (List.mem_of_getLast? same)
    obtain ⟨after, taken, handed⟩ := finish_line read (fun both => empty both.2)
      (if_neg last)
    rw [taken]
    refine .rest free empty handed ?_ all (handed.stream.trans spent) unbroken
      (by rw [handed.reader])
    have long := List.length_pos_iff.mpr empty
    rw [handed.weight, weight, reading, held]
    simp only [reduceCtorEq, if_false]
    omega

/-- A terminator ends the line. -/
theorem turn_line (sound : lines.Sound) {read index : ℕ} (reading : lines.reading = some read)
    (found : lines.reader.available.idxOf? newline = some index) :
    Turn lines ((lines.consume (index + 1)).finish (read + (index + 1))) := by
  have held := sound.held_reading reading
  obtain ⟨before, through, around⟩ := at_terminator found
  have buffered : (lines.consume (index + 1)).buf =
      (lines.buf ++ lines.reader.available.take index) ++ [newline] := by
    rw [consume, through, List.append_assoc]
  have size : (lines.consume (index + 1)).buf.length =
      (lines.buf ++ lines.reader.available.take index).length + 1 := by
    rw [buffered, List.length_append]
    rfl
  have line : (if (lines.consume (index + 1)).buf.getLast? = some newline then
      (lines.consume (index + 1)).buf.dropLast else (lines.consume (index + 1)).buf) =
      lines.buf ++ lines.reader.available.take index := by
    rw [buffered, List.getLast?_concat, if_pos rfl, List.dropLast_concat]
  obtain ⟨after, taken, handed⟩ := finish_line (read + (index + 1))
    (fun both => Nat.succ_ne_zero _ both.1) line
  have cap : (lines.consume (index + 1)).maxLen = lines.maxLen := rfl
  rw [taken, size, cap]
  refine .line ?_ buffered handed ?_ ?_ (by rw [handed.reader]; rfl) cap
  · rw [List.mem_append, not_or, ← held]
    exact ⟨sound.free, before⟩
  · obtain ⟨inside, -⟩ := List.idxOf?_eq_some_iff.mp found
    rw [handed.weight, weight, reading]
    unfold Buffered.effort
    simp only [consume, List.length_drop, reduceCtorEq, if_false]
    omega
  · rw [handed.stream, stream, held]
    unfold Buffered.content
    nth_rewrite 1 [around]
    simp only [consume, List.append_assoc, List.cons_append]

/-- Without a terminator the line goes on. -/
theorem turn_more (sound : lines.Sound) {read : ℕ} (reading : lines.reading = some read)
    (some_left : lines.reader.available ≠ [])
    (missing : lines.reader.available.idxOf? newline = none) :
    Turn lines
      ({ lines.consume lines.reader.available.length with
        reading := some (read + lines.reader.available.length) }, none) := by
  have fresh : lines.complete = false := sound.fresh (by rw [reading]; exact Option.some_ne_none _)
  have held := sound.held_reading reading
  have after : LineReader.held { lines.consume lines.reader.available.length with
      reading := some (read + lines.reader.available.length) } =
      lines.buf ++ lines.reader.available := by
    show (if lines.complete then [] else lines.buf ++ lines.reader.available.take _) = _
    rw [fresh, List.take_length]
    rfl
  have long := List.length_pos_iff.mpr some_left
  refine .on ⟨?_, fun _ => fresh, fun total _ empty => ?_⟩ fresh ?_ ?_ rfl rfl
  · rw [after, List.mem_append, not_or, ← held]
    exact ⟨sound.free, List.idxOf?_eq_none_iff.mp missing⟩
  · refine absurd empty fun empty => some_left ?_
    rw [consume, List.take_length] at empty
    exact (List.append_eq_nil_iff.mp empty).2
  · unfold weight Buffered.effort
    rw [after, held, reading]
    simp only [consume, List.length_append, List.drop_length, List.length_nil, reduceCtorEq,
      if_false]
    omega
  · unfold stream
    rw [after, held]
    unfold Buffered.content
    simp only [consume, List.drop_length, List.nil_append, List.append_assoc]

theorem step_turn (sound : lines.Sound) : Turn lines lines.step := by
  unfold step
  rcases reading : lines.reading with _ | read
  · exact turn_enter sound reading
  have fresh : lines.complete = false := sound.fresh (by rw [reading]; exact Option.some_ne_none _)
  have held := sound.held_reading reading
  have heavy : lines.weight = 5 * lines.reader.available.length + effort lines.reader.source +
      2 * lines.held.length + 0 := by
    unfold weight
    rw [reading]
    rfl
  have stream : lines.stream =
      lines.held ++ (lines.reader.available ++ content lines.reader.source) := rfl
  rcases available : lines.reader.available with _ | ⟨first, rest⟩
  · rw [available] at stream heavy
    rcases source : lines.reader.source with _ | ⟨_ | cancelled | error, later⟩
    · exact turn_end sound reading available source
    · rw [source] at stream heavy
      refine .on ⟨sound.free, fun _ => fresh, fun total same => ?_⟩ fresh ?_ ?_ ?_ rfl
      · exact sound.counted total (reading.trans same)
      · rw [heavy]
        simp [weight, Buffered.effort, effort, LineReader.held]
      · rw [stream]
        rfl
      · rw [source]
        rfl
    · rw [source] at stream heavy
      refine .on ⟨sound.free, fun _ => fresh, fun total same => ?_⟩ fresh ?_ ?_ ?_ rfl
      · cases cancelled
        · exact sound.counted total (reading.trans same)
        · cases same
      · rw [heavy]
        cases cancelled <;> simp [weight, Buffered.effort, effort, LineReader.held]
        omega
      · rw [stream]
        rfl
      · rw [source]
        rfl
    · rw [source] at stream
      have all : lines.stream = lines.buf := by
        rw [stream, content, List.append_nil, List.append_nil, held]
      refine .failed ?_ all.symm ?_
      · rw [all, ← held]
        exact sound.free
      · rw [source]
        rfl
  · dsimp only
    rw [← available]
    rcases found : lines.reader.available.idxOf? newline with _ | index
    · exact turn_more sound reading (by rw [available]; exact List.cons_ne_nil _ _) found
    · exact turn_line sound reading found

/-! ## What a run returns -/

def foretold (lines : LineReader ε) : List (List UInt8) × Ending ε :=
  verdict (whole lines.maxLen) (tail lines.maxLen (fault lines.reader.source)) newline lines.stream

theorem Turn.foretells {result : LineReader ε × Option (Report (List UInt8) (Ending ε))}
    (turn : Turn lines result) : Does Sound weight foretold lines result := by
  cases turn with
  | on sound fresh nearer same faults cap =>
    refine ⟨sound, nearer, ?_⟩
    unfold foretold
    rw [same, faults, cap]
  | @line filled after piece free buffered handed nearer split faults cap =>
    rcases judged : whole (ε := ε) lines.maxLen piece with _ | ending
    · refine ⟨handed.sound, nearer, ?_⟩
      unfold foretold
      rw [split, verdict_taken free _ judged, faults, handed.maxLen, cap]
    · show lines.foretold = _
      unfold foretold
      rw [split, verdict_refused free _ judged]
  | @rest after free nonempty handed nearer all spent unbroken faults =>
    have told : lines.foretold = tail lines.maxLen none lines.buf := by
      unfold foretold
      rw [all, verdict_open free, unbroken]
    rw [tail, if_neg nonempty] at told
    rcases judged : refusal (ε := ε) lines.maxLen lines.buf.length lines.buf with _ | ending
    · rw [judged] at told
      have later : after.foretold = ([], .eof) := by
        unfold foretold
        rw [spent, faults, unbroken, verdict_open List.not_mem_nil]
        rfl
      exact ⟨handed.sound, nearer, by rw [told, later]⟩
    · rw [judged] at told
      exact told
  | eof spent empty unbroken =>
    show lines.foretold = _
    unfold foretold
    rw [spent, unbroken, verdict_open List.not_mem_nil]
    rfl
  | failed free kept broken =>
    show lines.foretold = _
    unfold foretold
    rw [verdict_open free, broken]
    rfl

theorem step_foretells : Foretells (step (ε := ε)) Sound weight foretold := fun _ sound =>
  (step_turn sound).foretells

theorem sound_new (source : List (Delivery UInt8 ε)) (maxLen : ℕ) : (new source maxLen).Sound where
  free := List.not_mem_nil
  fresh reading := absurd rfl reading
  counted read reading := by cases reading

/-- However a stream is delivered and wherever reads are dropped, the reader returns its lines. -/
theorem lines_returned (source : List (Delivery UInt8 ε)) (maxLen : ℕ) {steps : ℕ}
    (enough : effort source + 1 < steps) :
    (runFrom step (new source maxLen) steps).items = (splitLines maxLen source).1 ∧
      (runFrom step (new source maxLen) steps).ending = some (splitLines maxLen source).2 :=
  step_foretells.reports (sound_new source maxLen) (by
    unfold weight Buffered.effort
    simpa [new, held] using enough)

theorem lines_so_far (source : List (Delivery UInt8 ε)) (maxLen steps : ℕ) :
    (runFrom step (new source maxLen) steps).items <+: (splitLines maxLen source).1 :=
  step_foretells.reports_part (sound_new source maxLen) steps

/-! ## How much is buffered -/

/-- The cap, or the size of the line at which the reading will stop where that is more. -/
def peak (lines : LineReader ε) : ℕ :=
  max lines.maxLen (stopSize (whole (ε := ε) lines.maxLen) (lines.stream.splitOn newline))

theorem whole_none {maxLen : ℕ} {line : List UInt8}
    (taken : whole (ε := ε) maxLen line = none) : line.length + 1 ≤ maxLen := by
  unfold whole refusal at taken
  by_contra long
  rw [if_pos (Nat.lt_of_not_le long)] at taken
  cases taken

/-- What was assembled is part of a line that is accepted or at which the reading stops. -/
theorem held_le_peak (sound : lines.Sound) : lines.held.length ≤ lines.peak := by
  rcases begin_le_stop_size (whole (ε := ε) lines.maxLen) sound.free
    lines.reader.content with stops | ⟨more, taken⟩
  · exact stops.trans (Nat.le_max_right _ _)
  · have short := whole_none taken
    rw [List.length_append] at short
    exact Nat.le_trans (by omega) (Nat.le_max_left _ _)

/-- Along a run the peak stays, and bounds the buffer. -/
structure Along (maxLen most : ℕ) (lines : LineReader ε) : Prop where
  sound : lines.Sound
  cap : lines.maxLen = maxLen
  same : lines.peak = most
  bounded : lines.buf.length ≤ most

/-- At its end the peak was reached, where it is more than the cap. -/
structure Last (maxLen most : ℕ) (lines : LineReader ε) : Prop where
  bounded : lines.buf.length ≤ most
  reached : maxLen < most → lines.buf.length = most

theorem Turn.leaves {maxLen most : ℕ}
    {result : LineReader ε × Option (Report (List UInt8) (Ending ε))}
    (turn : Turn lines result) (along : Along maxLen most lines) :
    Leaves (Along maxLen most) (Last maxLen most) result := by
  obtain ⟨_, rfl, rfl, bounded⟩ := along
  cases turn with
  | @on after sound fresh nearer same faults cap =>
    have still : after.peak = lines.peak := by
      unfold peak
      rw [same, cap]
    refine ⟨sound, cap, still, ?_⟩
    rw [← held_fresh fresh, ← still]
    exact held_le_peak sound
  | @line filled after piece free buffered handed nearer split faults cap =>
    have size : filled.buf.length = piece.length + 1 := by
      rw [buffered, List.length_append]
      rfl
    have small := handed.small
    rcases judged : whole (ε := ε) lines.maxLen piece with _ | ending
    · have short := whole_none judged
      have same : after.peak = lines.peak := by
        unfold peak
        rw [split, stop_size_taken free _ judged, handed.maxLen, cap]
      refine ⟨handed.sound, handed.maxLen.trans cap, same, ?_⟩
      exact Nat.le_trans (by omega) (Nat.le_max_left _ _)
    · have top : lines.peak = max lines.maxLen (piece.length + 1) := by
        unfold peak
        rw [split, stop_size_refused free _ judged]
      refine ⟨by omega, fun more => ?_⟩
      rw [handed.kept (by omega)]
      omega
  | @rest after free nonempty handed nearer all spent unbroken faults =>
    have top : lines.peak = max lines.maxLen lines.buf.length := by
      unfold peak
      rw [all, stop_size_open free]
    have small := handed.small
    rcases judged : refusal (ε := ε) lines.maxLen lines.buf.length lines.buf with _ | ending
    · have short : lines.buf.length ≤ lines.maxLen := by
        unfold refusal at judged
        by_contra long
        rw [if_pos (Nat.lt_of_not_le long)] at judged
        cases judged
      have same : after.peak = lines.peak := by
        have low : after.peak = max after.maxLen 0 := by
          unfold peak
          rw [spent, stop_size_open List.not_mem_nil]
          rfl
        rw [low, top, handed.maxLen]
        omega
      exact ⟨handed.sound, handed.maxLen, same, by omega⟩
    · refine ⟨by omega, fun more => ?_⟩
      rw [handed.kept (by omega)]
      omega
  | eof spent empty unbroken =>
    have top : lines.peak = max lines.maxLen 0 := by
      unfold peak
      rw [spent, stop_size_open List.not_mem_nil]
      rfl
    refine ⟨?_, fun more => absurd more (by omega)⟩
    rw [empty]
    exact Nat.zero_le _
  | @failed after error free kept broken =>
    have top : lines.peak = max lines.maxLen lines.stream.length := by
      unfold peak
      rw [stop_size_open free]
    have size : after.buf.length = lines.stream.length := by rw [kept]
    exact ⟨by omega, fun more => by omega⟩

theorem along_new (source : List (Delivery UInt8 ε)) (maxLen : ℕ) :
    Along maxLen
      (max maxLen (stopSize (whole (ε := ε) maxLen) ((content source).splitOn newline)))
      (new source maxLen) where
  sound := sound_new source maxLen
  cap := rfl
  same := rfl
  bounded := Nat.zero_le _

/-- A line is buffered in full before it is measured: what is buffered stays within the cap and one
chunk exactly where the line at which the reading stops does. -/
theorem buffered_within_iff (source : List (Delivery UInt8 ε)) (maxLen : ℕ) :
    (∀ steps, (runFrom step (new source maxLen) steps).state.buf.length ≤
        maxLen + longestChunk source) ↔
      stopSize (whole (ε := ε) maxLen) ((content source).splitOn newline) ≤
        maxLen + longestChunk source := by
  have carried := run_carries step (fun _ along => (step_turn along.sound).leaves along)
    (along_new source maxLen)
  constructor
  · intro within
    by_contra beyond
    have ended := (lines_returned source maxLen (Nat.lt_succ_self (effort source + 1))).2
    have last := (carried (effort source + 2)).2 (by rw [ended]; exact Option.some_ne_none _)
    have bound := within (effort source + 2)
    have reached := last.reached (by omega)
    omega
  · intro short steps
    have bounded : (runFrom step (new source maxLen) steps).state.buf.length ≤
        max maxLen (stopSize (whole (ε := ε) maxLen) ((content source).splitOn newline)) := by
      by_cases going : (runFrom step (new source maxLen) steps).ending = none
      · exact ((carried steps).1 going).bounded
      · exact ((carried steps).2 going).bounded
    omega

/-- Five bytes that come one by one are buffered where the cap is three. -/
theorem line_buffered_in_full :
    ¬ ∀ (source : List (Delivery UInt8 Unit)) (maxLen steps : ℕ),
      (runFrom step (new source maxLen) steps).state.buf.length ≤ maxLen + longestChunk source := by
  intro within
  exact absurd (within (List.replicate 5 (.chunk 97 [])) 3 11) (by decide)

end LineReader

end ADesk.Viewer.Framing
