/- ADesk/Client/LineReading
   digest: The client's line reader: the lines it returns of any delivery of a stream, beside those
   of the viewer's. -/

import ADesk.Viewer.Framing

set_option autoImplicit false

namespace ADesk.Client.LineReading

open ADesk.Foundation.Reporting
open ADesk.Foundation.Streams
open ADesk.Viewer.Framing (newline)

universe u

variable {ε : Type u}

/-- How the reads of a connection end. -/
inductive Ending (ε : Type u)
  | eof
  | io (error : ε)
  -- The connection closed in the middle of a frame.
  | unexpectedEof
  | tooLong (maxFrameLen : ℕ)
  deriving DecidableEq

/-- The reader, and the buffer that the calls share. -/
structure Inbound (ε : Type u) where
  reader : Buffered UInt8 ε
  buf : List UInt8
  maxFrameLen : ℕ
  -- A call of `read_line` is in progress.
  calling : Bool

namespace Inbound

def new (source : List (Delivery UInt8 ε)) (maxFrameLen : ℕ) : Inbound ε :=
  ⟨⟨[], source⟩, [], maxFrameLen, false⟩

/-- One turn of the loop of `read_line`, or the begin of the next call, which clears the buffer. -/
def step (inbound : Inbound ε) : Inbound ε × Option (Report (List UInt8) (Ending ε)) :=
  if inbound.calling then
    match inbound.reader.available, inbound.reader.source with
    | [], [] =>
      (inbound, if inbound.buf = [] then some (.ended .eof) else some (.ended .unexpectedEof))
    | [], .chunk first rest :: later =>
      ({ inbound with reader := ⟨first :: rest, later⟩ }, none)
    | [], .pending cancelled :: later =>
      ({ inbound with reader := ⟨[], later⟩, calling := !cancelled }, none)
    | [], .failed error :: later =>
      ({ inbound with reader := ⟨[], later⟩ }, some (.ended (.io error)))
    | first :: rest, source =>
      let available := first :: rest
      match available.idxOf? newline with
      | some index =>
        if inbound.maxFrameLen < inbound.buf.length + index then
          (inbound, some (.ended (.tooLong inbound.maxFrameLen)))
        else
          let line := inbound.buf ++ available.take index
          ({ inbound with
              reader := ⟨available.drop (index + 1), source⟩
              buf := line
              calling := false }, some (.item line))
      | none =>
        if inbound.maxFrameLen < inbound.buf.length + available.length then
          (inbound, some (.ended (.tooLong inbound.maxFrameLen)))
        else
          ({ inbound with reader := ⟨[], source⟩, buf := inbound.buf ++ available }, none)
  else ({ inbound with buf := [], calling := true }, none)

end Inbound

/-! ## What the pieces of a stream amount to -/

/-- A line is measured without its terminator. -/
def whole (maxFrameLen : ℕ) (line : List UInt8) : Option (Ending ε) :=
  if maxFrameLen < line.length then some (.tooLong maxFrameLen) else none

/-- What follows the last terminator is no line. -/
def tail (maxFrameLen : ℕ) (broken : Option ε) (line : List UInt8) :
    List (List UInt8) × Ending ε :=
  if maxFrameLen < line.length then ([], .tooLong maxFrameLen)
  else
    match broken with
    | some error => ([], .io error)
    | none => if line = [] then ([], .eof) else ([], .unexpectedEof)

def splitFrames (maxFrameLen : ℕ) (deliveries : List (Delivery UInt8 ε)) :
    List (List UInt8) × Ending ε :=
  verdict (whole maxFrameLen) (tail maxFrameLen (fault deliveries)) newline (content deliveries)

namespace Inbound

variable {inbound : Inbound ε}

/-- The bytes of the line that is being assembled. -/
def held (inbound : Inbound ε) : List UInt8 := if inbound.calling then inbound.buf else []

def foretold (inbound : Inbound ε) : List (List UInt8) × Ending ε :=
  verdict (whole inbound.maxFrameLen) (tail inbound.maxFrameLen (fault inbound.reader.source))
    newline (inbound.held ++ inbound.reader.content)

/-- No read is dropped while it waits. -/
def Uncancelled (source : List (Delivery UInt8 ε)) : Prop :=
  ∀ delivery ∈ source, delivery ≠ .pending true

structure Sound (inbound : Inbound ε) : Prop where
  free : newline ∉ inbound.held
  small : inbound.held.length ≤ inbound.maxFrameLen
  steady : Uncancelled inbound.reader.source

def weight (inbound : Inbound ε) : ℕ :=
  inbound.reader.effort + if inbound.calling then 0 else 1

/-- What has grown beyond the cap is refused whatever follows. -/
theorem verdict_too_long {maxFrameLen : ℕ} {start : List UInt8} (free : newline ∉ start)
    (long : maxFrameLen < start.length) (broken : Option ε) (rest : List UInt8) :
    verdict (whole maxFrameLen) (tail maxFrameLen broken) newline (start ++ rest) =
      ([], .tooLong maxFrameLen) := by
  have longer : ∀ more : List UInt8, maxFrameLen < (start ++ more).length := by
    intro more
    rw [List.length_append]
    omega
  refine verdict_begin free (fun more => ?_) (fun more => ?_) rest
  · rw [whole, if_pos (longer more)]
  · unfold tail
    rw [if_pos (longer more)]

theorem held_calling (calling : inbound.calling = true) : inbound.held = inbound.buf := by
  unfold held
  rw [if_pos calling]

/-- At the end of the stream there is no line left. -/
theorem does_end (sound : inbound.Sound) (calling : inbound.calling = true)
    (available : inbound.reader.available = []) (source : inbound.reader.source = []) :
    Does Sound weight foretold inbound
      (inbound, if inbound.buf = [] then some (.ended .eof) else some (.ended .unexpectedEof)) := by
  have held := held_calling calling
  have small : ¬ inbound.maxFrameLen < inbound.buf.length := by
    rw [← held]
    exact Nat.not_lt.mpr sound.small
  have told : inbound.foretold = if inbound.buf = [] then ([], .eof) else ([], .unexpectedEof) := by
    unfold foretold Buffered.content
    rw [available, source, content, List.append_nil, List.append_nil, verdict_open sound.free, held]
    unfold tail
    rw [if_neg small]
    rfl
  by_cases empty : inbound.buf = []
  · rw [if_pos empty] at told ⊢
    exact told
  · rw [if_neg empty] at told ⊢
    exact told

/-- A terminator ends the line, unless it is too long. -/
theorem does_line (sound : inbound.Sound) (calling : inbound.calling = true) {index : ℕ}
    (found : inbound.reader.available.idxOf? newline = some index) :
    Does Sound weight foretold inbound
      (if inbound.maxFrameLen < inbound.buf.length + index then
        (inbound, some (.ended (.tooLong inbound.maxFrameLen)))
      else
        ({ inbound with
            reader := ⟨inbound.reader.available.drop (index + 1), inbound.reader.source⟩
            buf := inbound.buf ++ inbound.reader.available.take index
            calling := false },
          some (.item (inbound.buf ++ inbound.reader.available.take index)))) := by
  have held := held_calling calling
  obtain ⟨inside, -⟩ := List.idxOf?_eq_some_iff.mp found
  obtain ⟨before, -, around⟩ := at_terminator found
  have free : newline ∉ inbound.buf ++ inbound.reader.available.take index := by
    rw [List.mem_append, not_or, ← held]
    exact ⟨sound.free, before⟩
  have size : (inbound.buf ++ inbound.reader.available.take index).length =
      inbound.buf.length + index := by
    rw [List.length_append, List.length_take]
    omega
  have stream : inbound.held ++ inbound.reader.content =
      (inbound.buf ++ inbound.reader.available.take index) ++ newline ::
        (inbound.reader.available.drop (index + 1) ++ content inbound.reader.source) := by
    unfold Buffered.content
    rw [held]
    nth_rewrite 1 [around]
    simp only [List.append_assoc, List.cons_append]
  by_cases long : inbound.maxFrameLen < inbound.buf.length + index
  · rw [if_pos long]
    show inbound.foretold = _
    unfold foretold
    rw [stream, verdict_too_long free (by rw [size]; exact long)]
  · have taken : whole (ε := ε) inbound.maxFrameLen
        (inbound.buf ++ inbound.reader.available.take index) = none := by
      unfold whole
      rw [size, if_neg long]
    rw [if_neg long]
    refine ⟨⟨List.not_mem_nil, Nat.zero_le _, sound.steady⟩, ?_, ?_⟩
    · unfold weight Buffered.effort
      rw [calling]
      simp only [List.length_drop, if_true, Bool.false_eq_true, if_false]
      omega
    · unfold foretold
      rw [stream, verdict_taken free _ taken]
      rfl

/-- Without a terminator the line goes on, unless it is too long. -/
theorem does_more (sound : inbound.Sound) (calling : inbound.calling = true)
    (some_left : inbound.reader.available ≠ [])
    (missing : inbound.reader.available.idxOf? newline = none) :
    Does Sound weight foretold inbound
      (if inbound.maxFrameLen < inbound.buf.length + inbound.reader.available.length then
        (inbound, some (.ended (.tooLong inbound.maxFrameLen)))
      else
        ({ inbound with
            reader := ⟨[], inbound.reader.source⟩
            buf := inbound.buf ++ inbound.reader.available }, none)) := by
  have held := held_calling calling
  have free : newline ∉ inbound.buf ++ inbound.reader.available := by
    rw [List.mem_append, not_or, ← held]
    exact ⟨sound.free, List.idxOf?_eq_none_iff.mp missing⟩
  have size : (inbound.buf ++ inbound.reader.available).length =
      inbound.buf.length + inbound.reader.available.length := List.length_append
  have stream : inbound.held ++ inbound.reader.content =
      (inbound.buf ++ inbound.reader.available) ++ content inbound.reader.source := by
    unfold Buffered.content
    rw [held, List.append_assoc]
  by_cases long : inbound.maxFrameLen < inbound.buf.length + inbound.reader.available.length
  · rw [if_pos long]
    show inbound.foretold = _
    unfold foretold
    rw [stream, verdict_too_long free (by omega)]
  · have after : Inbound.held { inbound with
        reader := ⟨[], inbound.reader.source⟩
        buf := inbound.buf ++ inbound.reader.available } =
        inbound.buf ++ inbound.reader.available := held_calling calling
    have some_bytes := List.length_pos_iff.mpr some_left
    rw [if_neg long]
    refine ⟨⟨?_, ?_, sound.steady⟩, ?_, ?_⟩
    · rw [after]
      exact free
    · rw [after]
      show _ ≤ inbound.maxFrameLen
      omega
    · unfold weight Buffered.effort
      rw [calling]
      simp only [List.length_nil, if_true]
      omega
    · unfold foretold
      rw [stream, after]
      rfl

theorem step_foretells : Foretells (step (ε := ε)) Sound weight foretold := by
  intro inbound sound
  unfold step
  by_cases calling : inbound.calling = true
  · rw [if_pos calling]
    have held := held_calling calling
    have stream : inbound.reader.content =
        inbound.reader.available ++ content inbound.reader.source := rfl
    have heavy : inbound.weight = 5 * inbound.reader.available.length +
        effort inbound.reader.source + 0 := by
      unfold weight
      rw [calling]
      rfl
    rcases available : inbound.reader.available with _ | ⟨first, rest⟩
    · rw [available] at stream heavy
      rcases source : inbound.reader.source with _ | ⟨_ | cancelled | error, later⟩
      · exact does_end sound calling available source
      · have steady := sound.steady
        rw [source] at stream heavy steady
        refine ⟨⟨sound.free, sound.small, fun delivery member => ?_⟩, ?_, ?_⟩
        · exact steady delivery (List.mem_cons_of_mem _ member)
        · rw [heavy]
          simp [weight, Buffered.effort, effort, calling]
        · unfold foretold
          rw [stream, source]
          rfl
      · have steady := sound.steady
        rw [source] at stream heavy steady
        have waits : cancelled = false := by
          cases cancelled
          · rfl
          · exact absurd rfl (steady _ List.mem_cons_self)
        rw [waits]
        have after : Inbound.held { inbound with reader := ⟨[], later⟩, calling := !false } =
            inbound.held := by
          rw [held]
          rfl
        refine ⟨⟨?_, ?_, fun delivery member => ?_⟩, ?_, ?_⟩
        · rw [after]
          exact sound.free
        · rw [after]
          exact sound.small
        · exact steady delivery (List.mem_cons_of_mem _ member)
        · rw [heavy]
          simp [weight, Buffered.effort, effort]
        · unfold foretold
          rw [after, stream, source]
          rfl
      · rw [source] at stream
        show inbound.foretold = _
        unfold foretold
        rw [stream, source, content, List.append_nil, List.append_nil, verdict_open sound.free]
        unfold tail
        rw [if_neg (Nat.not_lt.mpr sound.small)]
        rfl
    · dsimp only
      rw [← available]
      rcases found : inbound.reader.available.idxOf? newline with _ | index
      · exact does_more sound calling (by rw [available]; exact List.cons_ne_nil _ _) found
      · exact does_line sound calling found
  · have empty : inbound.held = [] := by
      unfold held
      rw [if_neg calling]
    rw [if_neg calling]
    refine ⟨⟨List.not_mem_nil, Nat.zero_le _, sound.steady⟩, ?_, ?_⟩
    · unfold weight
      rw [if_neg calling]
      exact Nat.lt_succ_self _
    · unfold foretold
      rw [empty]
      rfl

theorem step_buffered (small : inbound.buf.length ≤ inbound.maxFrameLen) :
    inbound.step.1.maxFrameLen = inbound.maxFrameLen ∧
      inbound.step.1.buf.length ≤ inbound.maxFrameLen := by
  unfold step
  by_cases calling : inbound.calling = true
  · rw [if_pos calling]
    rcases available : inbound.reader.available with _ | ⟨first, rest⟩
    · rcases source : inbound.reader.source with _ | ⟨_ | cancelled | error, later⟩ <;>
        exact ⟨rfl, small⟩
    · dsimp only
      rcases found : (first :: rest).idxOf? newline with _ | index
      · by_cases long : inbound.maxFrameLen < inbound.buf.length + (first :: rest).length
        · rw [if_pos long]
          exact ⟨rfl, small⟩
        · rw [if_neg long]
          refine ⟨rfl, ?_⟩
          rw [List.length_append]
          exact Nat.not_lt.mp long
      · dsimp only
        by_cases long : inbound.maxFrameLen < inbound.buf.length + index
        · rw [if_pos long]
          exact ⟨rfl, small⟩
        · rw [if_neg long]
          refine ⟨rfl, ?_⟩
          rw [List.length_append, List.length_take]
          omega
  · rw [if_neg calling]
    exact ⟨rfl, Nat.zero_le _⟩

/-- The client refuses a line before it is buffered in full. -/
theorem buffered_within_cap (source : List (Delivery UInt8 ε)) (maxFrameLen steps : ℕ) :
    (runFrom step (new source maxFrameLen) steps).state.buf.length ≤ maxFrameLen := by
  let Always (inbound : Inbound ε) : Prop :=
    inbound.maxFrameLen = maxFrameLen ∧ inbound.buf.length ≤ maxFrameLen
  have kept : ∀ inbound : Inbound ε, Always inbound → Always inbound.step.1 := by
    rintro inbound ⟨rfl, small⟩
    exact step_buffered small
  have start : Always (new source maxFrameLen) := ⟨rfl, Nat.zero_le _⟩
  exact (run_invariant kept start steps).2

theorem sound_new {source : List (Delivery UInt8 ε)} (uncancelled : Uncancelled source)
    (maxFrameLen : ℕ) : (new source maxFrameLen).Sound where
  free := List.not_mem_nil
  small := Nat.zero_le _
  steady := uncancelled

end Inbound

/-! ## Both readers -/

open Inbound (Uncancelled)
open Viewer.Framing (LineReader splitLines)

/-- However a stream is delivered, wherever the viewer's reads are dropped and where the client's
are not, both readers return the lines of the bytes and nothing else, in order. -/
theorem lines_of_bytes (source : List (Delivery UInt8 ε)) (cap : ℕ) :
    (∀ steps, (runFrom LineReader.step (LineReader.new source cap) steps).items <+:
        (splitLines cap source).1 ∧
      (effort source + 1 < steps →
        (runFrom LineReader.step (LineReader.new source cap) steps).items =
            (splitLines cap source).1 ∧
          (runFrom LineReader.step (LineReader.new source cap) steps).ending =
            some (splitLines cap source).2)) ∧
      (Uncancelled source → ∀ steps,
        (runFrom Inbound.step (Inbound.new source cap) steps).items <+:
          (splitFrames cap source).1 ∧
        (effort source + 1 < steps →
          (runFrom Inbound.step (Inbound.new source cap) steps).items =
              (splitFrames cap source).1 ∧
            (runFrom Inbound.step (Inbound.new source cap) steps).ending =
              some (splitFrames cap source).2)) := by
  constructor
  · intro steps
    exact ⟨LineReader.lines_so_far source cap steps, LineReader.lines_returned source cap⟩
  · intro uncancelled steps
    have sound := Inbound.sound_new uncancelled cap
    refine ⟨Inbound.step_foretells.reports_part sound steps, fun enough => ?_⟩
    exact Inbound.step_foretells.reports sound (by
      unfold Inbound.weight Buffered.effort
      simpa [Inbound.new] using enough)

/-- A line that arrives in three pieces, with a pause inside, and one that never ends. -/
def piecemeal : List (Delivery UInt8 Unit) :=
  [.chunk 97 [], .pending false, .chunk 98 [newline, 99], .chunk 100 []]

theorem lines_of_piecemeal :
    (runFrom Inbound.step (Inbound.new piecemeal 4) 60).items = [[97, 98]] ∧
      (runFrom Inbound.step (Inbound.new piecemeal 4) 60).ending = some .unexpectedEof := by
  have uncancelled : Uncancelled piecemeal := by
    intro delivery member
    simp only [piecemeal, List.mem_cons, List.not_mem_nil, or_false] at member
    rcases member with rfl | rfl | rfl | rfl <;> simp
  have enough : effort piecemeal + 1 < 60 := by decide
  have told : splitFrames 4 piecemeal = ([[97, 98]], .unexpectedEof) := by decide
  have both := ((lines_of_bytes piecemeal 4).2 uncancelled 60).2 enough
  rw [told] at both
  exact both

/-- The pieces of a stream between its terminators up to the first that is too long, where what
follows the last terminator is one if there is something. -/
def piecesUpTo (cap : ℕ) (stream : List UInt8) : List (List UInt8) :=
  let pieces := stream.splitOn newline
  let lines := if pieces.getLast? = some [] then pieces.dropLast else pieces
  lines.takeWhile fun line => line.length ≤ cap

/-- The client does not return what follows the last terminator. -/
theorem rest_not_returned :
    ¬ ∀ (source : List (Delivery UInt8 Unit)) (cap steps : ℕ), Uncancelled source →
      effort source + 1 < steps →
      (runFrom Inbound.step (Inbound.new source cap) steps).items =
        piecesUpTo cap (content source) := by
  intro same
  have uncancelled : Uncancelled (ε := Unit) [.chunk 97 [newline, 98]] := by
    intro delivery member
    rw [List.mem_singleton.mp member]
    simp
  have differ :
      (runFrom Inbound.step (Inbound.new (ε := Unit) [.chunk 97 [newline, 98]] 4) 20).items ≠
        piecesUpTo 4 (content (ε := Unit) [.chunk 97 [newline, 98]]) := by decide
  exact differ (same _ 4 20 uncancelled (by decide))

end ADesk.Client.LineReading
