/- ADesk/Foundation/Scanning
   digest: Reading back text that was written piece by piece: prefixes, escapes, separators and
   decimals. -/

import Mathlib.Algebra.GroupWithZero.Nat
import Mathlib.Algebra.Ring.Int.Defs
import Mathlib.Data.List.Basic

set_option autoImplicit false

namespace ADesk.Foundation.Scanning

universe u

variable {α : Type u} [DecidableEq α]

/-! ## Prefixes -/

/-- What follows a prefix. -/
def strip : List α → List α → Option (List α)
  | [], text => some text
  | _ :: _, [] => none
  | key :: keys, head :: text => if key = head then strip keys text else none

theorem strip_append (key text : List α) : strip key (key ++ text) = some text := by
  induction key with
  | nil => rfl
  | cons head key ih => simp [strip, ih]

theorem strip_nil {key : List α} (some' : key ≠ []) : strip key [] = none := by
  cases key with
  | nil => exact absurd rfl some'
  | cons head key => rfl

theorem strip_differs {head key other : α} (keys text : List α) (differ : key ≠ other) :
    strip (head :: key :: keys) (head :: other :: text) = none := by
  simp [strip, differ]

/-! ## Escapes -/

/-- A quoted notation: some letters are written as the mark and another letter. -/
structure Escaping (α : Type u) where
  mark : α
  quote : α
  encode : α → Option α
  decode : α → Option α
  quote_differs : quote ≠ mark
  mark_encoded : encode mark ≠ none
  quote_encoded : encode quote ≠ none
  decode_encode : ∀ raw letter, encode raw = some letter → decode letter = some raw

namespace Escaping

variable (e : Escaping α)

def escape : List α → List α
  | [] => []
  | raw :: rest =>
    match e.encode raw with
    | some letter => e.mark :: letter :: escape rest
    | none => raw :: escape rest

/-- The text up to the closing quote, and what follows it. -/
def unescape : List α → Option (List α × List α)
  | [] => none
  | [head] => if head = e.quote then some ([], []) else none
  | head :: next :: rest =>
    if head = e.mark then
      (e.decode next).bind fun raw =>
        (unescape rest).map fun parts => (raw :: parts.1, parts.2)
    else if head = e.quote then some ([], next :: rest)
    else (unescape (next :: rest)).map fun parts => (head :: parts.1, parts.2)

theorem unescape_quote (text : List α) : e.unescape (e.quote :: text) = some ([], text) := by
  cases text with
  | nil => simp [unescape]
  | cons next rest => simp [unescape, e.quote_differs]

theorem unescape_plain {head : α} (text : List α) (notMark : head ≠ e.mark)
    (notQuote : head ≠ e.quote) :
    e.unescape (head :: text) =
      (e.unescape text).map fun parts => (head :: parts.1, parts.2) := by
  cases text with
  | nil => simp [unescape, notQuote]
  | cons next rest => simp [unescape, notMark, notQuote]

theorem unescape_escape (raw text : List α) :
    e.unescape (e.escape raw ++ e.quote :: text) = some (raw, text) := by
  induction raw with
  | nil => exact e.unescape_quote text
  | cons head raw ih =>
    unfold escape
    cases code : e.encode head with
    | some letter => simp [unescape, e.decode_encode head letter code, ih]
    | none =>
      have notMark : head ≠ e.mark := fun same => e.mark_encoded (same ▸ code)
      have notQuote : head ≠ e.quote := fun same => e.quote_encoded (same ▸ code)
      simp [e.unescape_plain _ notMark notQuote, ih]

omit [DecidableEq α] in
/-- A letter that is always written as another one does not occur. -/
theorem escape_free {letter : α} (notMark : letter ≠ e.mark) (encoded : e.encode letter ≠ none)
    (unused : ∀ raw, e.encode raw ≠ some letter) (raw : List α) : letter ∉ e.escape raw := by
  induction raw with
  | nil => simp [escape]
  | cons head raw ih =>
    unfold escape
    cases code : e.encode head with
    | some other =>
      have differs : letter ≠ other := fun same => unused head (same ▸ code)
      simp [notMark, differs, ih]
    | none =>
      have differs : letter ≠ head := fun same => encoded (same ▸ code)
      simp [differs, ih]

end Escaping

/-! ## Separators -/

/-- What stands before and after the last separator. -/
def breakLast (separator : α) (text : List α) : Option (List α × List α) :=
  match text.reverse.dropWhile fun letter => decide (letter ≠ separator) with
  | [] => none
  | _ :: front =>
    some (front.reverse,
      (text.reverse.takeWhile fun letter => decide (letter ≠ separator)).reverse)

theorem breakLast_append {separator : α} (content : List α) {tail : List α}
    (free : separator ∉ tail) :
    breakLast separator (content ++ separator :: tail) = some (content, tail) := by
  have plain : ∀ letter ∈ tail.reverse, decide (letter ≠ separator) = true := by
    intro letter member
    rw [decide_eq_true_eq]
    exact fun same => free (same ▸ List.mem_reverse.mp member)
  have back : (content ++ separator :: tail).reverse =
      tail.reverse ++ separator :: content.reverse := by simp
  unfold breakLast
  rw [back, List.dropWhile_append_of_pos plain, List.takeWhile_append_of_pos plain]
  simp

/-- One piece more than separators. -/
theorem length_splitOn (separator : α) (text : List α) :
    (text.splitOn separator).length = text.count separator + 1 := by
  induction text with
  | nil => simp [List.splitOn_nil]
  | cons head text ih =>
    rw [List.splitOn_cons_eq_if_modifyHead, List.count_cons]
    split
    · simp [ih]
    · simp [ih]

/-- No piece holds a separator. -/
theorem separator_free (separator : α) (text : List α) :
    ∀ piece ∈ text.splitOn separator, separator ∉ piece := by
  induction text with
  | nil => simp [List.splitOn_nil]
  | cons head text ih =>
    rw [List.splitOn_cons_eq_if_modifyHead]
    split
    · simpa using ih
    · next differs =>
      rw [beq_iff_eq] at differs
      cases pieces : text.splitOn separator with
      | nil => simp
      | cons first rest =>
        rw [pieces] at ih
        intro piece member
        rcases List.mem_cons.mp member with rfl | later
        · have free := ih first List.mem_cons_self
          simp [Ne.symm differs, free]
        · exact ih piece (List.mem_cons_of_mem _ later)

omit [DecidableEq α] in
theorem mem_intercalate {letter separator : α} {piece : List α} {pieces : List (List α)}
    (member : piece ∈ pieces) (inside : letter ∈ piece) :
    letter ∈ [separator].intercalate pieces := by
  induction pieces with
  | nil => cases member
  | cons first rest ih =>
    cases rest with
    | nil =>
      rw [List.intercalate_singleton]
      exact List.mem_singleton.mp member ▸ inside
    | cons second rest =>
      rw [List.intercalate_cons_cons]
      rcases List.mem_cons.mp member with rfl | later
      · simp [inside]
      · simp [ih later]

omit [DecidableEq α] in
theorem intercalate_free {letter separator : α} {pieces : List (List α)}
    (differs : letter ≠ separator) (free : ∀ piece ∈ pieces, letter ∉ piece) :
    letter ∉ [separator].intercalate pieces := by
  induction pieces with
  | nil => simp
  | cons first rest ih =>
    have later := ih fun piece member => free piece (List.mem_cons_of_mem _ member)
    cases rest with
    | nil =>
      rw [List.intercalate_singleton]
      exact free first List.mem_cons_self
    | cons second rest =>
      rw [List.intercalate_cons_cons]
      simp [free first List.mem_cons_self, differs, later]

/-- Joined pieces come apart in as many pieces as they were, and one for each separator inside. -/
theorem length_splitOn_intercalate (separator : α) {pieces : List (List α)}
    (some' : pieces ≠ []) :
    (([separator].intercalate pieces).splitOn separator).length =
      pieces.length + (pieces.map (List.count separator)).sum := by
  rw [length_splitOn]
  induction pieces with
  | nil => exact absurd rfl some'
  | cons first rest ih =>
    cases rest with
    | nil => simp [Nat.add_comm]
    | cons second rest =>
      rw [List.intercalate_cons_cons]
      simp only [List.count_append, List.length_cons, List.map_cons, List.sum_cons]
      have later := ih (by simp)
      simp only [List.length_cons, List.map_cons, List.sum_cons] at later
      simp
      omega

/-- Pieces that come apart in their number hold no separator. -/
theorem separator_free_of_length {separator : α} {pieces : List (List α)} (some' : pieces ≠ [])
    (length : (([separator].intercalate pieces).splitOn separator).length = pieces.length) :
    ∀ piece ∈ pieces, separator ∉ piece := by
  rw [length_splitOn_intercalate separator some'] at length
  have none' : (pieces.map (List.count separator)).sum = 0 := by omega
  intro piece member
  have count := List.sum_eq_zero_iff_forall_eq_nat.mp none' _ (List.mem_map_of_mem member)
  exact List.count_eq_zero.mp count

/-! ## Lists read item by item -/

section Items

variable {β γ : Type u}

theorem mapM_written {read : γ → Option β} {write : β → γ} {items : List β}
    (reads : ∀ item ∈ items, read (write item) = some item) :
    (items.map write).mapM read = some items := by
  induction items with
  | nil => rfl
  | cons item items ih =>
    have first := reads item List.mem_cons_self
    have rest := ih fun other member => reads other (List.mem_cons_of_mem _ member)
    simp [first, rest]

theorem mapM_origin {read : γ → Option β} {texts : List γ} {items : List β} {item : β}
    (reads : texts.mapM read = some items) (member : item ∈ items) :
    ∃ text ∈ texts, read text = some item := by
  induction texts generalizing items with
  | nil =>
    obtain rfl := Option.some.inj reads
    cases member
  | cons text texts ih =>
    rw [List.mapM_cons] at reads
    obtain ⟨first, head, tail⟩ := Option.bind_eq_some_iff.mp reads
    obtain ⟨rest, later, same⟩ := Option.bind_eq_some_iff.mp tail
    obtain rfl := Option.some.inj same
    rcases List.mem_cons.mp member with rfl | inside
    · exact ⟨text, List.mem_cons_self, head⟩
    · obtain ⟨other, there, found⟩ := ih later inside
      exact ⟨other, List.mem_cons_of_mem _ there, found⟩

end Items

/-! ## Decimals -/

def natural (text : List Char) : Option ℕ :=
  if text ≠ [] ∧ text.all Char.isDigit = true then some (Nat.ofDigitChars 10 text 0)
  else none

def showInteger : ℤ → List Char
  | .ofNat value => Nat.toDigits 10 value
  | .negSucc value => '-' :: Nat.toDigits 10 (value + 1)

def integer : List Char → Option ℤ
  | '-' :: text => (natural text).map fun value => -(value : ℤ)
  | text => (natural text).map fun value => (value : ℤ)

theorem digits_are_digits (value : ℕ) :
    ∀ letter ∈ Nat.toDigits 10 value, letter.isDigit = true :=
  fun _ member => Nat.isDigit_of_mem_toDigits (by decide) (by decide) member

theorem natural_digits (value : ℕ) : natural (Nat.toDigits 10 value) = some value := by
  unfold natural
  rw [if_pos ⟨Nat.toDigits_ne_nil, List.all_eq_true.mpr (digits_are_digits value)⟩,
    Nat.ofDigitChars_ten_toDigits]

theorem integer_show (value : ℤ) : integer (showInteger value) = some value := by
  cases value with
  | ofNat value =>
    cases digits : Nat.toDigits 10 value with
    | nil => exact absurd digits Nat.toDigits_ne_nil
    | cons first rest =>
      have positive : first ≠ '-' := by
        rintro rfl
        have digit := digits_are_digits value '-' (digits ▸ List.mem_cons_self)
        exact absurd digit (by decide)
      have plain : integer (first :: rest) = (natural (first :: rest)).map fun value => (value : ℤ) := by
        unfold integer
        split
        · next same => exact absurd (List.cons.inj same).1 positive
        · rfl
      rw [showInteger, digits, plain, ← digits, natural_digits]
      rfl
  | negSucc value =>
    rw [showInteger, integer, natural_digits]
    rfl

/-- A letter that is neither a digit nor the sign does not occur in a decimal. -/
theorem integer_free {letter : Char} (notDigit : letter.isDigit = false) (notSign : letter ≠ '-')
    (value : ℤ) : letter ∉ showInteger value := by
  have digits : ∀ value, letter ∉ Nat.toDigits 10 value := by
    intro value member
    rw [digits_are_digits value letter member] at notDigit
    cases notDigit
  cases value with
  | ofNat value => exact digits value
  | negSucc value =>
    intro member
    rcases List.mem_cons.mp member with same | later
    · exact notSign same
    · exact digits _ later

end ADesk.Foundation.Scanning
