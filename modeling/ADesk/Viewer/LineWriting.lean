/- ADesk/Viewer/LineWriting
   digest: A line is written out exactly once, however short the writes of its sink are, and read
   back at the other end of the connection. -/

import ADesk.Viewer.Framing

set_option autoImplicit false

namespace ADesk.Viewer.LineWriting

open ADesk.Foundation.Reporting (runFrom)
open ADesk.Foundation.Streams
open ADesk.Viewer.Framing (LineReader newline isUtf8 splitLines)

universe u v

variable {σ : Type u} {ε : Type v}

/-- A writer with its state; a write answers how many bytes of its slices it accepted. -/
structure Sink (σ : Type u) (ε : Type v) where
  writeVectored : σ → List (List UInt8) → σ × Except ε ℕ
  flush : σ → σ × Except ε Unit

inductive Outcome (ε : Type v)
  | ok
  | io (error : ε)
  | writeZero
  -- An index was out of range.
  | panicked

structure Written (σ : Type u) where
  sink : σ
  emitted : List UInt8
  writes : ℕ

/-- `&bytes[start..]`, which panics where the start is beyond the end. -/
def sliceFrom (bytes : List UInt8) (start : ℕ) : Option (List UInt8) :=
  if start ≤ bytes.length then some (bytes.drop start) else none

/-- The loop of `write_line` with that many bytes written, and the flush after it. -/
def writeRest (sink : Sink σ ε) (bytes : List UInt8) (written : ℕ) (run : Written σ) :
    Written σ × Outcome ε :=
  if _short : written < bytes.length + 1 then
    match sliceFrom bytes written with
    | none => (run, .panicked)
    | some rest =>
      match sink.writeVectored run.sink [rest, [newline]] with
      | (after, .error error) => ({ run with sink := after }, .io error)
      | (after, .ok accepted) =>
        if _none : accepted = 0 then ({ run with sink := after }, .writeZero)
        else
          writeRest sink bytes (written + accepted)
            ⟨after, run.emitted ++ [rest, [newline]].flatten.take accepted, run.writes + 1⟩
  else
    match sink.flush run.sink with
    | (after, .error error) => ({ run with sink := after }, .io error)
    | (after, .ok _) => ({ run with sink := after }, .ok)
termination_by bytes.length + 1 - written

def writeLine (sink : Sink σ ε) (line : List UInt8) (start : σ) : Written σ × Outcome ε :=
  writeRest sink line 0 ⟨start, [], 0⟩

/-! ## What is emitted -/

/-- Every write accepts some bytes of what it is offered, and no more. -/
def Accepting (sink : Sink σ ε) : Prop :=
  ∀ state slices, slices.flatten ≠ [] → ∃ after accepted,
    sink.writeVectored state slices = (after, .ok accepted) ∧ 0 < accepted ∧
      accepted ≤ slices.flatten.length

/-- What a flush makes of the outcome. -/
def flushed (sink : Sink σ ε) (state : σ) : Outcome ε :=
  match (sink.flush state).2 with
  | .error error => .io error
  | .ok _ => .ok

/-- The two slices are what is left of the line with its terminator. -/
theorem offered_flatten {bytes : List UInt8} {written : ℕ} (inside : written ≤ bytes.length) :
    [bytes.drop written, [newline]].flatten = (bytes ++ [newline]).drop written := by
  rw [List.drop_append_of_le_length inside]
  rfl

/-- From a loop in which the line was written so far, the whole line is written. -/
theorem write_rest_emits {sink : Sink σ ε} (accepting : Accepting sink) {bytes : List UInt8}
    {written : ℕ} (inside : written ≤ bytes.length + 1) {run : Written σ}
    (emitted : run.emitted = (bytes ++ [newline]).take written) :
    (writeRest sink bytes written run).1.emitted = bytes ++ [newline] ∧
      (writeRest sink bytes written run).1.writes ≤ run.writes + (bytes.length + 1 - written) ∧
      ∃ state, (writeRest sink bytes written run).2 = flushed sink state := by
  induction left : bytes.length + 1 - written using Nat.strongRecOn
    generalizing written run with
  | ind gap ih =>
    rw [writeRest]
    by_cases short : written < bytes.length + 1
    · have within : written ≤ bytes.length := Nat.lt_succ_iff.mp short
      have offered := offered_flatten within
      have size : [bytes.drop written, [newline]].flatten.length = gap := by
        rw [offered, List.length_drop, List.length_append, ← left]
        rfl
      have some_left : [bytes.drop written, [newline]].flatten ≠ [] := by
        intro none
        rw [none, List.length_nil] at size
        omega
      obtain ⟨after, accepted, taken, positive, most⟩ := accepting run.sink _ some_left
      have sliced : sliceFrom bytes written = some (bytes.drop written) := if_pos within
      rw [dif_pos short, sliced]
      dsimp only
      rw [taken]
      dsimp only
      rw [dif_neg (Nat.ne_of_gt positive)]
      have further : (⟨after, run.emitted ++ [bytes.drop written, [newline]].flatten.take accepted,
          run.writes + 1⟩ : Written σ).emitted = (bytes ++ [newline]).take (written + accepted) := by
        rw [List.take_add, ← emitted, ← offered]
      obtain ⟨all, writes, ends⟩ := ih (bytes.length + 1 - (written + accepted)) (by omega)
        (by omega) further rfl
      dsimp only at writes
      exact ⟨all, by omega, ends⟩
    · have done : written = bytes.length + 1 := by omega
      have all : run.emitted = bytes ++ [newline] := by
        rw [emitted, done]
        exact List.take_of_length_le (Nat.le_of_eq List.length_append)
      rw [dif_neg short]
      rcases sink_flush : sink.flush run.sink with ⟨after, _ | _⟩
      · refine ⟨all, Nat.le_add_right _ _, run.sink, ?_⟩
        rw [flushed, sink_flush]
      · refine ⟨all, Nat.le_add_right _ _, run.sink, ?_⟩
        rw [flushed, sink_flush]

/-- Whatever the lengths of the writes, the line and its terminator are emitted once, in at most one
write for each byte, and no slice begins beyond the end. -/
theorem write_line_emits {sink : Sink σ ε} (accepting : Accepting sink) (line : List UInt8)
    (start : σ) :
    (writeLine sink line start).1.emitted = line ++ [newline] ∧
      (writeLine sink line start).1.writes ≤ line.length + 1 ∧
      (∃ state, (writeLine sink line start).2 = flushed sink state) ∧
      (writeLine sink line start).2 ≠ .panicked := by
  have nothing : (⟨start, [], 0⟩ : Written σ).emitted = (line ++ [newline]).take 0 := rfl
  obtain ⟨all, writes, state, ends⟩ := write_rest_emits accepting (Nat.zero_le _) nothing
  refine ⟨all, Nat.le_trans writes (Nat.le_of_eq (Nat.zero_add _)), ⟨state, ends⟩, ?_⟩
  unfold writeLine
  rw [ends, flushed]
  split <;> exact fun same => by cases same

/-- A sink that takes one byte of each write. -/
def byteByByte : Sink Unit Unit := ⟨fun _ _ => ((), .ok 1), fun _ => ((), .ok ())⟩

theorem write_line_byte_by_byte :
    (writeLine byteByByte [97, 98] ()).1.emitted = [97, 98, newline] ∧
      (writeLine byteByByte [97, 98] ()).2 ≠ .panicked := by
  have accepting : Accepting byteByByte := by
    intro state slices some_left
    exact ⟨(), 1, rfl, Nat.one_pos, List.length_pos_iff.mpr some_left⟩
  have written := write_line_emits accepting [97, 98] ()
  exact ⟨written.1, written.2.2.2⟩

/-! ## From one end of a connection to the other -/

/-- One line after the other, whatever their flushes say; the state and the bytes emitted. -/
def writeLines (sink : Sink σ ε) : List (List UInt8) → σ → σ × List UInt8
  | [], start => (start, [])
  | line :: rest, start =>
    let written := (writeLine sink line start).1
    let (after, bytes) := writeLines sink rest written.sink
    (after, written.emitted ++ bytes)

/-- A text without a line break, within the cap of the reader. -/
structure Sendable (maxLen : ℕ) (line : List UInt8) : Prop where
  free : newline ∉ line
  text : isUtf8 line = true
  short : line.length + 1 ≤ maxLen

/-- A stream of the lines breaks off behind so many of them, with the begin of the next one. -/
structure BrokenOff (lines : List (List UInt8)) (count : ℕ) (rest stream : List UInt8) : Prop where
  content : stream = (lines.take count).flatMap (· ++ [newline]) ++ rest
  begins : rest = [] ∨ ∃ next, lines[count]? = some next ∧ rest <+: next

theorem write_lines_emits {sink : Sink σ ε} (accepting : Accepting sink)
    (lines : List (List UInt8)) (start : σ) :
    (writeLines sink lines start).2 = lines.flatMap (· ++ [newline]) := by
  induction lines generalizing start with
  | nil => rfl
  | cons line rest ih =>
    have nothing : (⟨start, [], 0⟩ : Written σ).emitted = (line ++ [newline]).take 0 := rfl
    have all := (write_rest_emits accepting (Nat.zero_le _) nothing).1
    change (writeLine sink line start).1.emitted ++ (writeLines sink rest _).2 = _
    rw [ih, writeLine, all, List.flatMap_cons]

/-- Wherever a stream of lines is cut, it breaks off there. -/
theorem broken_off (lines : List (List UInt8)) {stream : List UInt8}
    (cut : stream <+: lines.flatMap (· ++ [newline])) :
    ∃ count rest, BrokenOff lines count rest stream := by
  induction lines generalizing stream with
  | nil => exact ⟨0, [], List.prefix_nil.mp cut, .inl rfl⟩
  | cons line others ih =>
    rw [List.flatMap_cons] at cut
    rcases Nat.lt_or_ge line.length stream.length with longer | shorter
    · have whole : line ++ [newline] <+: stream := List.prefix_of_prefix_length_le
        (List.prefix_append _ _) cut (by rw [List.length_append]; exact longer)
      obtain ⟨left, rfl⟩ := whole
      obtain ⟨count, rest, content, begins⟩ := ih ((List.prefix_append_right_inj _).mp cut)
      refine ⟨count + 1, rest, ?_, begins⟩
      rw [List.take_succ_cons, List.flatMap_cons, List.append_assoc _ _ rest, ← content]
    · rw [List.append_assoc] at cut
      exact ⟨0, stream, rfl, .inr ⟨line, rfl,
        List.prefix_of_prefix_length_le cut (List.prefix_append _ _) shorter⟩⟩

/-- Whole lines are read as they are, and what follows them as what it is. -/
theorem verdict_lines {lines : List (List UInt8)} {maxLen : ℕ}
    (sendable : ∀ line ∈ lines, Sendable maxLen line) {rest : List UInt8} (free : newline ∉ rest)
    (broken : Option ε) :
    verdict (Framing.whole maxLen) (Framing.tail maxLen broken) newline
        (lines.flatMap (· ++ [newline]) ++ rest) =
      (lines ++ (Framing.tail maxLen broken rest).1, (Framing.tail maxLen broken rest).2) := by
  induction lines with
  | nil => exact verdict_open free
  | cons line others ih =>
    obtain ⟨own, later⟩ := List.forall_mem_cons.mp sendable
    have taken : Framing.whole (ε := ε) maxLen line = none := by
      unfold Framing.whole Framing.refusal
      rw [if_neg (Nat.not_lt.mpr own.short), if_pos own.text]
    rw [List.flatMap_cons, List.append_assoc, List.append_assoc, List.singleton_append,
      verdict_taken own.free _ taken, ih later, List.cons_append]

/-- What is written line by line arrives line by line: however short the writes are, however the
bytes are delivered, wherever reads are dropped and wherever the stream breaks off, the reader hands
out the lines that arrived whole, in order and once each, and only then what the end makes of the
begin of the next one. -/
theorem lines_carried {sink : Sink σ ε} (accepting : Accepting sink) {lines : List (List UInt8)}
    {maxLen : ℕ} (sendable : ∀ line ∈ lines, Sendable maxLen line) (start : σ)
    {source : List (Delivery UInt8 ε)}
    (arrived : content source <+: (writeLines sink lines start).2) {steps : ℕ}
    (enough : effort source + 1 < steps) :
    (∃ count rest, BrokenOff lines count rest (content source) ∧
      (runFrom LineReader.step (.new source maxLen) steps).items =
        lines.take count ++ (Framing.tail maxLen (fault source) rest).1 ∧
      (runFrom LineReader.step (.new source maxLen) steps).ending =
        some (Framing.tail maxLen (fault source) rest).2) ∧
      (content source = (writeLines sink lines start).2 → fault source = none →
        (runFrom LineReader.step (.new source maxLen) steps).items = lines ∧
          (runFrom LineReader.step (.new source maxLen) steps).ending = some .eof) := by
  obtain ⟨items, ending⟩ := LineReader.lines_returned source maxLen enough
  rw [write_lines_emits accepting] at arrived ⊢
  rw [items, ending]
  unfold splitLines
  constructor
  · obtain ⟨count, rest, cut⟩ := broken_off lines arrived
    have free : newline ∉ rest := by
      rcases cut.begins with rfl | ⟨next, present, begins⟩
      · exact List.not_mem_nil
      · exact fun inside => (sendable next (List.mem_of_getElem? present)).free
          (begins.subset inside)
    have taken : ∀ line ∈ lines.take count, Sendable maxLen line :=
      fun line member => sendable line (List.mem_of_mem_take member)
    have read := verdict_lines taken free (fault source)
    refine ⟨count, rest, cut, ?_⟩
    rw [cut.content, read]
    exact ⟨rfl, rfl⟩
  · intro all unbroken
    have read := verdict_lines sendable (List.not_mem_nil (a := newline)) (fault source)
    rw [List.append_nil] at read
    rw [all, read, unbroken]
    exact ⟨List.append_nil _, rfl⟩

/-- Two lines that arrive in three pieces, with a read dropped inside the second one. -/
def twoLines : List (Delivery UInt8 Unit) :=
  [.chunk 97 [newline, 98], .pending true, .chunk 99 [], .chunk newline []]

theorem lines_carried_two :
    (runFrom LineReader.step (.new twoLines 4) 40).items = [[97], [98, 99]] := by
  have accepting : Accepting byteByByte := fun _ _ some_left =>
    ⟨(), 1, rfl, Nat.one_pos, List.length_pos_iff.mpr some_left⟩
  have sendable : ∀ line ∈ [[97], [98, 99]], Sendable 4 line := by
    intro line member
    rcases List.mem_pair.mp member with rfl | rfl <;> exact ⟨by decide, by decide, by decide⟩
  have all : content twoLines = (writeLines byteByByte [[97], [98, 99]] ()).2 := by
    rw [write_lines_emits accepting]
    rfl
  have enough : effort twoLines + 1 < 40 := by decide
  exact ((lines_carried accepting sendable () (all ▸ List.prefix_rfl) enough).2 all rfl).1

end ADesk.Viewer.LineWriting
