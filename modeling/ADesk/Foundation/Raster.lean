/- ADesk/Foundation/Raster
   digest: Slices of a buffer, and buffers that are made of rows of one length. -/

import Mathlib.Data.List.Basic
import Mathlib.Tactic.Ring
import ADesk.Foundation.Counted

set_option autoImplicit false

namespace ADesk.Foundation.Raster

open ADesk.Foundation.Counted

universe u

variable {α : Type u}

/-- The slice of that length, where it is inside the buffer. -/
def slice (buffer : List α) (start length : ℕ) : Option (List α) :=
  if start + length ≤ buffer.length then some ((buffer.drop start).take length) else none

/-- The buffer with a block copied to a place inside it. -/
def splice (buffer : List α) (start : ℕ) (block : List α) : Option (List α) :=
  if start + block.length ≤ buffer.length then
    some (buffer.take start ++ block ++ buffer.drop (start + block.length))
  else none

/-- The rows one after the other. -/
def gather (count : ℕ) (row : ℕ → List α) : List α := (List.range count).flatMap row

/-- The loop that appends rows of a buffer to a new one. -/
def packRows (buffer : List α) (count width : ℕ) (start : ℕ → ℕ) : Option (List α) :=
  forRange 0 count (fun index out => do
    let row ← slice buffer (start index) width
    some (out ++ row)) []

/-- The loop that copies rows of a buffer into one that is there. -/
def copyRows (buffer : List α) (count width : ℕ) (start : ℕ → ℕ) (out : List α) :
    Option (List α) :=
  forRange 0 count (fun index out => do
    let row ← slice buffer (start index) width
    splice out (index * width) row) out

/-! ## Slices -/

theorem slice_inside {buffer : List α} {start length : ℕ}
    (inside : start + length ≤ buffer.length) :
    slice buffer start length = some ((buffer.drop start).take length) := if_pos inside

theorem slice_length {buffer part : List α} {start length : ℕ}
    (sliced : slice buffer start length = some part) : part.length = length := by
  unfold slice at sliced
  split at sliced
  · next inside =>
    rw [← Option.some.inj sliced, List.length_take, List.length_drop]
    omega
  · cases sliced

/-- A slice of a slice is a slice of the buffer. -/
theorem slice_slice {buffer part : List α} {start length offset size : ℕ}
    (sliced : slice buffer start length = some part) (inside : offset + size ≤ length) :
    slice part offset size = slice buffer (start + offset) size := by
  have whole := slice_length sliced
  unfold slice at sliced
  split at sliced
  · next within =>
    rw [slice_inside (by omega), slice_inside (by omega), ← Option.some.inj sliced,
      List.drop_take, List.take_take, List.drop_drop, Nat.min_eq_left (by omega)]
  · cases sliced

theorem slice_append_left {first second : List α} {start length : ℕ}
    (inside : start + length ≤ first.length) :
    slice (first ++ second) start length = slice first start length := by
  rw [slice_inside inside, slice_inside (by rw [List.length_append]; omega),
    List.drop_append_of_le_length (by omega), List.take_append_of_le_length]
  rw [List.length_drop]
  omega

theorem slice_append_right (first second : List α) (start length : ℕ) :
    slice (first ++ second) (first.length + start) length = slice second start length := by
  unfold slice
  rw [List.length_append, List.drop_append, List.drop_eq_nil_of_le (Nat.le_add_right _ _)]
  by_cases inside : start + length ≤ second.length
  · rw [if_pos inside, if_pos (by omega), List.nil_append, Nat.add_sub_cancel_left]
  · rw [if_neg inside, if_neg (by omega)]

/-- A block that is copied right behind what was written replaces what is there. -/
theorem splice_append {written rest block : List α} (room : block.length ≤ rest.length) :
    splice (written ++ rest) written.length block =
      some (written ++ block ++ rest.drop block.length) := by
  unfold splice
  rw [if_pos (by rw [List.length_append]; omega), List.take_left, List.drop_append,
    List.drop_eq_nil_of_le (Nat.le_add_right _ _), List.nil_append, Nat.add_sub_cancel_left]

/-- What a slice holds. -/
theorem slice_get {buffer part : List α} {start length index : ℕ}
    (sliced : slice buffer start length = some part) (low : index < length) :
    part[index]? = buffer[start + index]? := by
  unfold slice at sliced
  split at sliced
  · rw [← Option.some.inj sliced, List.getElem?_take, if_pos low, List.getElem?_drop]
  · cases sliced

theorem splice_inside {buffer block : List α} {start : ℕ}
    (inside : start + block.length ≤ buffer.length) :
    splice buffer start block =
      some (buffer.take start ++ block ++ buffer.drop (start + block.length)) := if_pos inside

/-- What a buffer holds after a copy: the block at its place, and else what was there. -/
theorem splice_get {buffer block out : List α} {start : ℕ}
    (spliced : splice buffer start block = some out) (index : ℕ) :
    out[index]? = if start ≤ index ∧ index < start + block.length then block[index - start]?
      else buffer[index]? := by
  unfold splice at spliced
  split at spliced
  · next inside =>
    have before : (buffer.take start).length = start := by
      rw [List.length_take]
      omega
    rw [← Option.some.inj spliced, List.append_assoc]
    by_cases earlier : index < start
    · rw [if_neg (by omega), List.getElem?_append_left (by omega), List.getElem?_take,
        if_pos earlier]
    · rw [List.getElem?_append_right (by omega), before]
      by_cases within : index < start + block.length
      · rw [if_pos ⟨by omega, within⟩, List.getElem?_append_left (by omega)]
      · rw [if_neg (by omega), List.getElem?_append_right (by omega), List.getElem?_drop]
        congr 1
        omega
  · cases spliced

theorem splice_length {buffer block out : List α} {start : ℕ}
    (spliced : splice buffer start block = some out) : out.length = buffer.length := by
  unfold splice at spliced
  split at spliced
  · next inside =>
    rw [← Option.some.inj spliced, List.length_append, List.length_append, List.length_take,
      List.length_drop]
    omega
  · cases spliced

/-! ## Rows -/

theorem gather_succ (count : ℕ) (row : ℕ → List α) :
    gather (count + 1) row = gather count row ++ row count := by
  unfold gather
  rw [List.range_succ, List.flatMap_append, List.flatMap_singleton]

theorem length_gather {count width : ℕ} {row : ℕ → List α}
    (even : ∀ index < count, (row index).length = width) :
    (gather count row).length = count * width := by
  induction count with
  | zero => rw [Nat.zero_mul]; rfl
  | succ count ih =>
    rw [gather_succ, List.length_append, ih fun index low => even index (Nat.lt_succ_of_lt low),
      even count (Nat.lt_succ_self count)]
    ring

/-- A slice within one row. -/
theorem slice_gather {count width : ℕ} {row : ℕ → List α}
    (even : ∀ index < count, (row index).length = width) {index start length : ℕ}
    (low : index < count) (inside : start + length ≤ width) :
    slice (gather count row) (index * width + start) length = slice (row index) start length := by
  induction count with
  | zero => exact absurd low (Nat.not_lt_zero _)
  | succ count ih =>
    have before : ∀ index < count, (row index).length = width := fun index low =>
      even index (Nat.lt_succ_of_lt low)
    have size := length_gather before
    rw [gather_succ]
    by_cases last : index = count
    · rw [last, ← size, slice_append_right]
    · have earlier : index < count := by omega
      have room : (index + 1) * width ≤ count * width := Nat.mul_le_mul_right width earlier
      rw [slice_append_left, ih before earlier]
      rw [size]
      have next : (index + 1) * width = index * width + width := by ring
      omega

theorem slice_whole (buffer : List α) : slice buffer 0 buffer.length = some buffer := by
  rw [slice_inside (by omega), List.drop_zero, List.take_length]

/-- A buffer is made of its rows. -/
theorem take_gather {buffer : List α} {count width : ℕ} {row : ℕ → List α}
    (rows : ∀ index < count, slice buffer (index * width) width = some (row index)) :
    buffer.take (count * width) = gather count row := by
  induction count with
  | zero => rw [Nat.zero_mul]; rfl
  | succ count ih =>
    have last := rows count (Nat.lt_succ_self count)
    have next : (count + 1) * width = count * width + width := by ring
    rw [gather_succ, ← ih fun index low => rows index (Nat.lt_succ_of_lt low), next, List.take_add]
    unfold slice at last
    split at last
    · rw [Option.some.inj last]
    · cases last

theorem gather_add (first second : ℕ) (row : ℕ → List α) :
    gather (first + second) row = gather first row ++ gather second fun index => row (first + index) := by
  induction second with
  | zero => exact (List.append_nil _).symm
  | succ second ih => rw [← Nat.add_assoc, gather_succ, gather_succ, ih, List.append_assoc]

/-- A slice of whole rows. -/
theorem slice_rows {count width : ℕ} {row : ℕ → List α}
    (even : ∀ index < count, (row index).length = width) {start number : ℕ}
    (inside : start + number ≤ count) :
    slice (gather count row) (start * width) (number * width) =
      some (gather number fun index => row (start + index)) := by
  obtain ⟨rest, rfl⟩ := Nat.exists_eq_add_of_le inside
  have before : (gather start row).length = start * width :=
    length_gather fun index low => even index (by omega)
  have middle : (gather number fun index => row (start + index)).length = number * width :=
    length_gather fun index low => even (start + index) (by omega)
  have whole := slice_whole (gather number fun index => row (start + index))
  rw [middle] at whole
  rw [Nat.add_assoc, gather_add start, ← before, ← Nat.add_zero (gather start row).length,
    slice_append_right, gather_add number, slice_append_left (by omega), whole]

/-! ## Loops over rows -/

variable {buffer : List α} {count width : ℕ} {start : ℕ → ℕ} {row : ℕ → List α}

theorem pack_rows_eq
    (rows : ∀ index < count, slice buffer (start index) width = some (row index)) :
    packRows buffer count width start = some (gather count row) := by
  let Inv (index : ℕ) (out : List α) : Prop := out = gather index row
  have first : Inv 0 [] := rfl
  obtain ⟨last, run, same⟩ := for_range_rule (fun index out => do
    let row ← slice buffer (start index) width
    some (out ++ row)) Inv (Nat.zero_le count) first (by
      intro index out _ low here
      refine ⟨gather (index + 1) row, ?_, rfl⟩
      simp only [Inv] at here
      rw [rows index low, here, gather_succ]
      rfl)
  exact run.trans (congrArg some same)

/-- Copying rows into a buffer of the right length gives what packing them gives. -/
theorem copy_rows_eq
    (rows : ∀ index < count, slice buffer (start index) width = some (row index)) {out : List α}
    (room : out.length = count * width) :
    copyRows buffer count width start out = some (gather count row) := by
  have even : ∀ index < count, (row index).length = width := fun index low =>
    slice_length (rows index low)
  let Inv (index : ℕ) (state : List α) : Prop :=
    state = gather index row ++ out.drop (index * width)
  have first : Inv 0 out := by
    simp [Inv, gather]
  obtain ⟨last, run, same⟩ := for_range_rule (fun index out => do
    let row ← slice buffer (start index) width
    splice out (index * width) row) Inv (Nat.zero_le count) first (by
      intro index state _ low here
      have size : (gather index row).length = index * width :=
        length_gather fun earlier before => even earlier (before.trans low)
      have below : (index + 1) * width ≤ count * width := Nat.mul_le_mul_right width low
      have next : (index + 1) * width = index * width + width := by ring
      refine ⟨gather (index + 1) row ++ out.drop ((index + 1) * width), ?_, rfl⟩
      simp only [Inv] at here
      rw [rows index low, here, Option.bind_eq_bind, Option.bind_some, ← size, splice_append, size,
        even index low, gather_succ, List.drop_drop, next]
      rw [even index low, List.length_drop]
      omega)
  refine run.trans (congrArg some (same.trans ?_))
  rw [← room, List.drop_length, List.append_nil]

end ADesk.Foundation.Raster
