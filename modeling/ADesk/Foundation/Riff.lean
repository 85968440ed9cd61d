/- ADesk/Foundation/Riff
   digest: Little-endian words and RIFF chunks over byte lists, with their round trips. -/

import Mathlib.Data.List.Basic
import Mathlib.Tactic.Ring

set_option autoImplicit false

namespace ADesk.Foundation.Riff

/-! ## Words -/

/-- The four bytes of a word; a number that does not fit is truncated. -/
def u32Bytes (value : ℕ) : List UInt8 :=
  [UInt8.ofNat value, UInt8.ofNat (value / 2 ^ 8), UInt8.ofNat (value / 2 ^ 16),
    UInt8.ofNat (value / 2 ^ 24)]

def u16Bytes (value : ℕ) : List UInt8 := [UInt8.ofNat value, UInt8.ofNat (value / 2 ^ 8)]

def u32Of (a b c d : UInt8) : ℕ :=
  a.toNat + 2 ^ 8 * b.toNat + 2 ^ 16 * c.toNat + 2 ^ 24 * d.toNat

/-- The bytes read as words; `none` when a word is cut short. -/
def words : List UInt8 → Option (List ℕ)
  | [] => some []
  | a :: b :: c :: d :: rest => (words rest).map (u32Of a b c d :: ·)
  | [_] | [_, _] | [_, _, _] => none

theorem u32_of_bytes (value : ℕ) :
    u32Of (UInt8.ofNat value) (UInt8.ofNat (value / 2 ^ 8)) (UInt8.ofNat (value / 2 ^ 16))
      (UInt8.ofNat (value / 2 ^ 24)) = value % 2 ^ 32 := by
  simp only [u32Of, UInt8.toNat_ofNat']
  omega

theorem byte_congr {a b : ℕ} (same : a % 2 ^ 8 = b % 2 ^ 8) : UInt8.ofNat a = UInt8.ofNat b := by
  apply UInt8.toNat_inj.mp
  rw [UInt8.toNat_ofNat', UInt8.toNat_ofNat', same]

/-- Truncating a value before it is written changes nothing. -/
theorem u32_bytes_mod (value : ℕ) : u32Bytes (value % 4294967296) = u32Bytes value := by
  have first : UInt8.ofNat (value % 4294967296) = UInt8.ofNat value := byte_congr (by omega)
  have second : UInt8.ofNat (value % 4294967296 / 2 ^ 8) = UInt8.ofNat (value / 2 ^ 8) :=
    byte_congr (by omega)
  have third : UInt8.ofNat (value % 4294967296 / 2 ^ 16) = UInt8.ofNat (value / 2 ^ 16) :=
    byte_congr (by omega)
  have fourth : UInt8.ofNat (value % 4294967296 / 2 ^ 24) = UInt8.ofNat (value / 2 ^ 24) :=
    byte_congr (by omega)
  simp only [u32Bytes, first, second, third, fourth]

theorem u16_bytes_mod (value : ℕ) : u16Bytes (value % 65536) = u16Bytes value := by
  have first : UInt8.ofNat (value % 65536) = UInt8.ofNat value := byte_congr (by omega)
  have second : UInt8.ofNat (value % 65536 / 2 ^ 8) = UInt8.ofNat (value / 2 ^ 8) :=
    byte_congr (by omega)
  simp only [u16Bytes, first, second]
@[simp] theorem u32_bytes_length (value : ℕ) : (u32Bytes value).length = 4 := rfl

@[simp] theorem u16_bytes_length (value : ℕ) : (u16Bytes value).length = 2 := rfl

@[simp] theorem words_nil : words [] = some [] := rfl

@[simp] theorem words_u32 (value : ℕ) (rest : List UInt8) :
    words (u32Bytes value ++ rest) = (words rest).map (value % 2 ^ 32 :: ·) := by
  show (words rest).map (u32Of _ _ _ _ :: ·) = _
  rw [u32_of_bytes]

/-- Two half words read as one word. -/
@[simp] theorem words_u16 (low high : ℕ) (rest : List UInt8) :
    words (u16Bytes low ++ (u16Bytes high ++ rest)) =
      (words rest).map ((low % 2 ^ 16 + 2 ^ 16 * (high % 2 ^ 16)) :: ·) := by
  have same : u32Of (UInt8.ofNat low) (UInt8.ofNat (low / 2 ^ 8)) (UInt8.ofNat high)
      (UInt8.ofNat (high / 2 ^ 8)) = low % 2 ^ 16 + 2 ^ 16 * (high % 2 ^ 16) := by
    simp only [u32Of, UInt8.toNat_ofNat']
    omega
  show (words rest).map (u32Of _ _ _ _ :: ·) = _
  rw [same]

/-! ## Chunks -/

/-- A chunk: four identifying bytes and a body. -/
structure Chunk where
  id : List UInt8
  body : List UInt8
  deriving DecidableEq

/-- The padding that keeps chunks at even positions. -/
def padding (length : ℕ) : List UInt8 := if length % 2 = 1 then [0] else []

@[simp] theorem padding_length (length : ℕ) : (padding length).length = length % 2 := by
  unfold padding
  split
  · next odd => rw [odd]; rfl
  · next even => show 0 = length % 2; omega

def Chunk.bytes (chunk : Chunk) : List UInt8 :=
  chunk.id ++ (u32Bytes chunk.body.length ++ (chunk.body ++ padding chunk.body.length))

/-- The first chunk, which must not run over the end, and the bytes after it. -/
def readChunk : List UInt8 → Option (Chunk × List UInt8)
  | a :: b :: c :: d :: e :: f :: g :: h :: rest =>
    let size := u32Of e f g h
    if size + size % 2 ≤ rest.length then
      some (⟨[a, b, c, d], rest.take size⟩, rest.drop (size + size % 2))
    else none
  | _ => none

def readChunksWithin : ℕ → List UInt8 → Option (List Chunk)
  | _, [] => some []
  | 0, _ :: _ => none
  | fuel + 1, bytes =>
    (readChunk bytes).bind fun read =>
      (readChunksWithin fuel read.2).map (read.1 :: ·)

/-- The chunks that fill the bytes. Every chunk takes more than one byte, so there are no more
of them than bytes. -/
def readChunks (bytes : List UInt8) : Option (List Chunk) := readChunksWithin bytes.length bytes

/-- A chunk whose size fits in its field. -/
structure Chunk.Fits (chunk : Chunk) : Prop where
  id : chunk.id.length = 4
  body : chunk.body.length < 2 ^ 32

theorem chunk_bytes_length {chunk : Chunk} (id : chunk.id.length = 4) :
    chunk.bytes.length = 8 + chunk.body.length + chunk.body.length % 2 := by
  simp only [Chunk.bytes, List.length_append, u32_bytes_length, padding_length, id]
  omega

theorem chunk_bytes_even {chunk : Chunk} {size : ℕ} (length : chunk.body.length = size)
    (even : size % 2 = 0) : chunk.bytes = chunk.id ++ (u32Bytes size ++ chunk.body) := by
  have unpadded : padding size = [] := if_neg (by omega)
  rw [Chunk.bytes, length, unpadded, List.append_nil]

theorem four_bytes {bytes : List UInt8} (length : bytes.length = 4) :
    ∃ a b c d, bytes = [a, b, c, d] := by
  rcases bytes with _ | ⟨a, _ | ⟨b, _ | ⟨c, _ | ⟨d, rest⟩⟩⟩⟩
  · cases length
  · cases length
  · cases length
  · cases length
  · cases rest with
    | nil => exact ⟨a, b, c, d, rfl⟩
    | cons => simp at length

theorem read_chunk {chunk : Chunk} (fits : chunk.Fits) (rest : List UInt8) :
    readChunk (chunk.bytes ++ rest) = some (chunk, rest) := by
  obtain ⟨id, body⟩ := chunk
  obtain ⟨named, short⟩ := fits
  obtain ⟨a, b, c, d, rfl⟩ := four_bytes named
  have size : u32Of (UInt8.ofNat body.length) (UInt8.ofNat (body.length / 2 ^ 8))
      (UInt8.ofNat (body.length / 2 ^ 16)) (UInt8.ofNat (body.length / 2 ^ 24)) =
        body.length := by
    rw [u32_of_bytes, Nat.mod_eq_of_lt short]
  have after : (body ++ padding body.length ++ rest).drop (body.length + body.length % 2) =
      rest := by
    apply List.drop_left'
    rw [List.length_append, padding_length]
  have first : (body ++ padding body.length ++ rest).take body.length = body := by
    rw [List.append_assoc]
    exact List.take_left
  have within : body.length + body.length % 2 ≤
      (body ++ padding body.length ++ rest).length := by
    simp only [List.length_append, padding_length]
    omega
  show (if u32Of _ _ _ _ + u32Of _ _ _ _ % 2 ≤ (body ++ padding body.length ++ rest).length
    then some (Chunk.mk [a, b, c, d] ((body ++ padding body.length ++ rest).take _),
      (body ++ padding body.length ++ rest).drop _) else none) = _
  rw [size, if_pos within, first, after]

theorem read_chunks_within {chunks : List Chunk} (fits : ∀ chunk ∈ chunks, chunk.Fits)
    {fuel : ℕ} (enough : chunks.length ≤ fuel) :
    readChunksWithin fuel (chunks.flatMap Chunk.bytes) = some chunks := by
  induction chunks generalizing fuel with
  | nil => cases fuel <;> rfl
  | cons chunk rest ih =>
    have first := fits chunk List.mem_cons_self
    cases fuel with
    | zero => cases enough
    | succ fuel =>
      have others := ih (fun later member => fits later (List.mem_cons_of_mem _ member))
        (Nat.le_of_succ_le_succ enough)
      have read := read_chunk first (rest.flatMap Chunk.bytes)
      rw [List.flatMap_cons]
      cases bytes : chunk.bytes ++ rest.flatMap Chunk.bytes with
      | nil =>
        have length := congrArg List.length bytes
        rw [List.length_append, chunk_bytes_length first.id] at length
        simp at length
      | cons byte later =>
        rw [bytes] at read
        simp only [readChunksWithin, read, Option.bind_some, others, Option.map_some]

/-- Chunks that fit are read back. -/
theorem read_chunks {chunks : List Chunk} (fits : ∀ chunk ∈ chunks, chunk.Fits) :
    readChunks (chunks.flatMap Chunk.bytes) = some chunks := by
  apply read_chunks_within fits
  induction chunks with
  | nil => exact Nat.le_refl _
  | cons chunk rest ih =>
    have first := fits chunk List.mem_cons_self
    have others := ih fun later member => fits later (List.mem_cons_of_mem _ member)
    rw [List.flatMap_cons, List.length_append, chunk_bytes_length first.id, List.length_cons]
    omega

/-- Bytes that are one chunk have its size in the size field. -/
theorem read_chunks_single {a b c d e f g h : UInt8} {rest : List UInt8} {chunk : Chunk}
    (read : readChunks (a :: b :: c :: d :: e :: f :: g :: h :: rest) = some [chunk]) :
    rest.length = u32Of e f g h + u32Of e f g h % 2 := by
  unfold readChunks at read
  simp only [List.length_cons, readChunksWithin, readChunk] at read
  split at read
  · next within =>
    simp only [Option.bind_some, Option.map_eq_some_iff, List.cons.injEq] at read
    obtain ⟨later, more, _, rfl⟩ := read
    cases left : rest.drop (u32Of e f g h + u32Of e f g h % 2) with
    | nil =>
      have beyond := List.drop_eq_nil_iff.mp left
      omega
    | cons byte bytes =>
      rw [left] at more
      simp only [readChunksWithin, Option.bind_eq_some_iff, Option.map_eq_some_iff] at more
      obtain ⟨_, _, _, _, impossible⟩ := more
      cases impossible
  · cases read

end ADesk.Foundation.Riff
