/- ADesk/Foundation/Streams
   digest: Element streams that arrive in chunks with pauses and faults between them, and what their
   pieces between terminators amount to. -/

import Mathlib.Data.List.Basic

set_option autoImplicit false

namespace ADesk.Foundation.Streams

universe u v w

/-! ## Deliveries -/

/-- What a reader meets next; a pause may be the end of the read that waits. -/
inductive Delivery (α : Type u) (ε : Type v)
  | chunk (first : α) (rest : List α)
  | pending (cancelled : Bool)
  | failed (error : ε)

variable {α : Type u} {ε : Type v}

/-- Everything that is delivered, up to a fault. -/
def content : List (Delivery α ε) → List α
  | [] => []
  | .chunk first rest :: later => first :: rest ++ content later
  | .pending _ :: later => content later
  | .failed _ :: _ => []

/-- The fault that ends the stream; without one it ends after its last delivery. -/
def fault : List (Delivery α ε) → Option ε
  | [] => none
  | .chunk _ _ :: later => fault later
  | .pending _ :: later => fault later
  | .failed error :: _ => some error

/-- The length of the longest chunk. -/
def longestChunk : List (Delivery α ε) → ℕ
  | [] => 0
  | .chunk _ rest :: later => max (rest.length + 1) (longestChunk later)
  | .pending _ :: later => longestChunk later
  | .failed _ :: later => longestChunk later

/-- More than a reader takes to read the deliveries, when it looks at each element a bounded number
of times. -/
def effort : List (Delivery α ε) → ℕ
  | [] => 0
  | .chunk _ rest :: later => 5 * (rest.length + 1) + 1 + effort later
  | .pending _ :: later => 2 + effort later
  | .failed _ :: later => 1 + effort later

/-- The elements received and not consumed, and the deliveries to come. -/
structure Buffered (α : Type u) (ε : Type v) where
  available : List α
  source : List (Delivery α ε)

def Buffered.content (reader : Buffered α ε) : List α :=
  reader.available ++ Streams.content reader.source

def Buffered.effort (reader : Buffered α ε) : ℕ :=
  5 * reader.available.length + Streams.effort reader.source

/-! ## Pieces -/

section Pieces

variable {Ending : Type w} (whole : List α → Option Ending)
  (last : List α → List (List α) × Ending)

/-- What the pieces of a stream amount to: those before the first that is refused, or all of them,
the last of which no terminator follows. -/
def judge : List (List α) → List (List α) × Ending
  | [] => last []
  | [piece] => last piece
  | piece :: next :: later =>
    match whole piece with
    | some ending => ([], ending)
    | none =>
      let judged := judge (next :: later)
      (piece :: judged.1, judged.2)

variable [DecidableEq α] (terminator : α)

def verdict (stream : List α) : List (List α) × Ending :=
  judge whole last (stream.splitOn terminator)

/-- The size of the piece at which the judging stops. -/
def stopSize : List (List α) → ℕ
  | [] => 0
  | [piece] => piece.length
  | piece :: next :: later =>
    match whole piece with
    | some _ => piece.length + 1
    | none => stopSize (next :: later)

variable {whole last terminator}

theorem split_ne_nil (terminator : α) (stream : List α) : stream.splitOn terminator ≠ [] := by
  rw [List.splitOn_eq_splitOnP]
  exact List.splitOnP_ne_nil _ _

/-- A piece that ends is judged before what follows it. -/
theorem verdict_refused {piece : List α} (free : terminator ∉ piece) (rest : List α)
    {ending : Ending} (refused : whole piece = some ending) :
    verdict whole last terminator (piece ++ terminator :: rest) = ([], ending) := by
  obtain ⟨next, later, same⟩ := List.exists_cons_of_ne_nil (split_ne_nil terminator rest)
  unfold verdict
  rw [List.splitOn_append_cons_self_of_not_mem free, same, judge, refused]

theorem verdict_taken {piece : List α} (free : terminator ∉ piece) (rest : List α)
    (taken : whole piece = none) :
    verdict whole last terminator (piece ++ terminator :: rest) =
      (piece :: (verdict whole last terminator rest).1,
        (verdict whole last terminator rest).2) := by
  unfold verdict
  obtain ⟨next, later, same⟩ := List.exists_cons_of_ne_nil (split_ne_nil terminator rest)
  rw [List.splitOn_append_cons_self_of_not_mem free, same, judge, taken]

theorem verdict_open {piece : List α} (free : terminator ∉ piece) :
    verdict whole last terminator piece = last piece := by
  unfold verdict
  rw [List.splitOn_eq_singleton free, judge]

theorem stop_size_refused {piece : List α} (free : terminator ∉ piece) (rest : List α)
    {ending : Ending} (refused : whole piece = some ending) :
    stopSize whole ((piece ++ terminator :: rest).splitOn terminator) = piece.length + 1 := by
  obtain ⟨next, later, same⟩ := List.exists_cons_of_ne_nil (split_ne_nil terminator rest)
  rw [List.splitOn_append_cons_self_of_not_mem free, same, stopSize, refused]

theorem stop_size_taken {piece : List α} (free : terminator ∉ piece) (rest : List α)
    (taken : whole piece = none) :
    stopSize whole ((piece ++ terminator :: rest).splitOn terminator) =
      stopSize whole (rest.splitOn terminator) := by
  obtain ⟨next, later, same⟩ := List.exists_cons_of_ne_nil (split_ne_nil terminator rest)
  rw [List.splitOn_append_cons_self_of_not_mem free, same, stopSize, taken]

theorem stop_size_open {piece : List α} (free : terminator ∉ piece) :
    stopSize whole (piece.splitOn terminator) = piece.length := by
  rw [List.splitOn_eq_singleton free, stopSize]

/-- The first terminator of a list, and what is around it. -/
theorem at_terminator {list : List α} {index : ℕ} (found : list.idxOf? terminator = some index) :
    terminator ∉ list.take index ∧ list.take (index + 1) = list.take index ++ [terminator] ∧
      list = list.take index ++ terminator :: list.drop (index + 1) := by
  obtain ⟨inside, here, before⟩ := List.idxOf?_eq_some_iff.mp found
  refine ⟨?_, ?_, ?_⟩
  · intro member
    obtain ⟨position, low, same⟩ := List.mem_take_iff_getElem.mp member
    exact before position (by omega) same
  · rw [← here, List.take_append_getElem]
  · rw [← here, List.getElem_cons_drop, List.take_append_drop]

/-- What can only begin a piece that is refused is refused. -/
theorem verdict_begin {start : List α} (free : terminator ∉ start) {ending : Ending}
    (refused : ∀ more, whole (start ++ more) = some ending)
    (ends : ∀ more, last (start ++ more) = ([], ending)) (rest : List α) :
    verdict whole last terminator (start ++ rest) = ([], ending) := by
  rcases found : rest.idxOf? terminator with _ | index
  · have open_end : terminator ∉ start ++ rest := by
      rw [List.mem_append, not_or]
      exact ⟨free, List.idxOf?_eq_none_iff.mp found⟩
    rw [verdict_open open_end, ends]
  · obtain ⟨before, -, around⟩ := at_terminator found
    have piece : terminator ∉ start ++ rest.take index := by
      rw [List.mem_append, not_or]
      exact ⟨free, before⟩
    rw [around, ← List.append_assoc, verdict_refused piece _ (refused _)]

/-- The begin of a piece is as long as the piece where the judging stops, unless it goes on to one
that is taken. -/
theorem begin_le_stop_size (whole : List α → Option Ending) {start : List α}
    (free : terminator ∉ start) (rest : List α) :
    start.length ≤ stopSize whole ((start ++ rest).splitOn terminator) ∨
      ∃ more, whole (start ++ more) = none := by
  rcases found : rest.idxOf? terminator with _ | index
  · have open_end : terminator ∉ start ++ rest := by
      rw [List.mem_append, not_or]
      exact ⟨free, List.idxOf?_eq_none_iff.mp found⟩
    rw [stop_size_open open_end, List.length_append]
    exact Or.inl (Nat.le_add_right _ _)
  · obtain ⟨before, -, around⟩ := at_terminator found
    have piece : terminator ∉ start ++ rest.take index := by
      rw [List.mem_append, not_or]
      exact ⟨free, before⟩
    rcases judged : whole (start ++ rest.take index) with _ | ending
    · exact Or.inr ⟨_, judged⟩
    · rw [around, ← List.append_assoc, stop_size_refused piece _ judged, List.length_append]
      exact Or.inl (by omega)

end Pieces

end ADesk.Foundation.Streams
