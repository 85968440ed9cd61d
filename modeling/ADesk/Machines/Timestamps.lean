/- ADesk/Machines/Timestamps
   digest: The reader of a container's creation time: the day count behind it, what it makes of
   every written timestamp, and the texts that it takes for one although they are none. -/

import ADesk.Compositor.Keys
import ADesk.Foundation.Calendar
import ADesk.Machines.Backend
import Mathlib.Data.List.TakeWhile

set_option autoImplicit false

namespace ADesk.Machines.Timestamps

open ADesk.Compositor.Keys (isWhitespace trim trim_of_ends)
open ADesk.Foundation.Calendar
open ADesk.Machines.Backend (MachineError)

/-! ## The reader -/

/-- Days between the civil date and 1970-01-01, with years that begin in March. -/
def daysFromCivil (year : ℤ) (month day : ℕ) : ℤ :=
  let year := if month ≤ 2 then year - 1 else year
  let era := (if 0 ≤ year then year else year - 399).tdiv 400
  let yearOfEra := year - era * 400
  let monthPrime : ℤ := if 2 < month then month - 3 else month + 9
  let dayOfYear := (153 * monthPrime + 2).tdiv 5 + day - 1
  let dayOfEra := yearOfEra * 365 + yearOfEra.tdiv 4 - yearOfEra.tdiv 100 + dayOfYear
  era * 146097 + dayOfEra - 719468

/-- What keeps a timestamp from being read: a place outside the text, or an error. -/
inductive Stop
  | panic
  | error (error : MachineError)
  deriving DecidableEq

abbrev Reading (α : Type) := Except Stop α

def byteAt (text : List Char) (index : ℕ) : Reading Char :=
  match text[index]? with
  | some byte => .ok byte
  | none => .error .panic

def slice (text : List Char) (first last : ℕ) : Reading (List Char) :=
  if first ≤ last ∧ last ≤ text.length then .ok ((text.take last).drop first) else .error .panic

def isAscii (c : Char) : Bool := c.toNat < 128

def decimal (digits : List Char) : ℕ := digits.foldl (fun n c => 10 * n + (c.toNat - 48)) 0

def parseDigits (text : List Char) : Option ℕ :=
  if text ≠ [] ∧ text.all Char.isDigit = true then some (decimal text) else none

/-- `parse` of an unsigned number of a few characters, which none of the types overflows. -/
def parseUnsigned (text : List Char) : Option ℕ :=
  if text.head? = some '+' then parseDigits text.tail else parseDigits text

def parseSigned (text : List Char) : Option ℤ :=
  if text.head? = some '-' then (parseDigits text.tail).map fun n => -(n : ℤ)
  else (parseUnsigned text).map fun n => (n : ℤ)

section Reader

variable (invalid : Stop)

def orInvalid {α : Type} : Option α → Reading α
  | some value => .ok value
  | none => .error invalid

def field {α : Type} (parse : List Char → Option α) (text : List Char) (first last : ℕ) :
    Reading α := do
  let digits ← slice text first last
  orInvalid invalid (parse digits)

/-- The milliseconds of a fraction, and what follows it. -/
def fractionMillis (rest : List Char) : Reading (ℕ × List Char) :=
  match rest with
  | '.' :: fraction => do
    let digits := fraction.takeWhile Char.isDigit
    let rest ← slice fraction digits.length fraction.length
    let padded := digits ++ List.replicate (3 - digits.length) '0'
    let millis ← field invalid parseUnsigned padded 0 3
    return (millis, rest)
  | rest => .ok (0, rest)

/-- The seconds that the zone is ahead of UTC. -/
def offsetSeconds (rest : List Char) : Reading ℤ :=
  match rest.head? with
  | none => .ok 0
  | some sign =>
    if sign = 'Z' ∨ sign = 'z' then .ok 0
    else if sign = '+' ∨ sign = '-' then
      if rest.length ≠ 6 then .error invalid
      else do
        let colon ← byteAt rest 3
        if colon ≠ ':' then .error invalid
        else
          let hours ← field invalid parseSigned rest 1 3
          let minutes ← field invalid parseSigned rest 4 6
          let seconds := hours * 3600 + minutes * 60
          return if sign = '-' then -seconds else seconds
    else .error invalid

/-- The timestamp is all ASCII, so that its bytes are its characters. -/
def parseTimestamp (timestamp : List Char) : Reading ℕ :=
  if timestamp.all isAscii = false ∨ timestamp.length < 19 then .error invalid
  else do
    let separators ← [4, 7, 10, 13, 16].mapM (byteAt timestamp)
    if separators ∉ [['-', '-', 'T', ':', ':'], ['-', '-', 't', ':', ':']] then .error invalid
    else
      let year ← field invalid parseSigned timestamp 0 4
      let month ← field invalid parseUnsigned timestamp 5 7
      let day ← field invalid parseUnsigned timestamp 8 10
      let hour ← field invalid parseSigned timestamp 11 13
      let minute ← field invalid parseSigned timestamp 14 16
      let second ← field invalid parseSigned timestamp 17 19
      let rest ← slice timestamp 19 timestamp.length
      let (millis, rest) ← fractionMillis invalid rest
      let offset ← offsetSeconds invalid rest
      let seconds :=
        daysFromCivil year month day * 86400 + hour * 3600 + minute * 60 + second - offset
      if seconds < 0 then .error invalid else return seconds.toNat * 1000 + millis

end Reader

def parseRfc3339Millis (input : String) : Reading ℕ :=
  parseTimestamp (.error (.runtime s!"invalid `Created` timestamp `{input}`")) (trim input.toList)

example : parseRfc3339Millis " 2024-06-01T14:00:00.1239+02:00" = .ok 1717243200123 := by decide

/-! ## The day count -/

/-- The era is the quotient that is rounded down, also of a year before 0. -/
theorem era_eq (year : ℤ) : (if 0 ≤ year then year else year - 399).tdiv 400 = year / 400 := by
  split
  · next pos => exact Int.tdiv_eq_ediv_of_nonneg pos
  · next neg =>
    have flipped : year - 399 = -(399 - year) := by omega
    rw [flipped, Int.neg_tdiv, Int.tdiv_eq_ediv_of_nonneg (by omega)]
    omega

/-- The days of the years before one that begins in March, from the year 0. -/
def marchDays (year : ℤ) : ℤ := 365 * year + year / 4 - year / 100 + year / 400

theorem march_days_eq (year : ℤ) :
    year / 400 * 146097 + ((year - year / 400 * 400) * 365 + (year - year / 400 * 400).tdiv 4 -
        (year - year / 400 * 400).tdiv 100) = marchDays year := by
  have pos : 0 ≤ year - year / 400 * 400 := by omega
  unfold marchDays
  rw [Int.tdiv_eq_ediv_of_nonneg pos, Int.tdiv_eq_ediv_of_nonneg pos]
  omega

/-- January and February belong to the March year before. -/
theorem year_start_march (year : ℕ) : (yearStart year : ℤ) = marchDays (year - 1) + 366 := by
  have closed := year_start_eq year
  have fourth : (((year + 3) / 4 : ℕ) : ℤ) = ((year : ℤ) - 1) / 4 + 1 := by omega
  have century : (((year + 99) / 100 : ℕ) : ℤ) = ((year : ℤ) - 1) / 100 + 1 := by omega
  have era : (((year + 399) / 400 : ℕ) : ℤ) = ((year : ℤ) - 1) / 400 + 1 := by omega
  unfold marchDays
  omega

theorem march_start (year : ℕ) :
    (yearStart year : ℤ) + (if IsLeap year then 1 else 0 : ℕ) = marchDays year + 1 := by
  have later := year_start_march (year + 1)
  have same : ((year + 1 : ℕ) : ℤ) - 1 = year := by omega
  rw [same, year_start_succ] at later
  omega

theorem days_from_civil_eq (date : Date) :
    daysFromCivil date.year date.month date.day = (date.count : ℤ) - 719528 := by
  obtain ⟨year, month, day, monthPos, monthLe, dayPos, dayLe⟩ := date
  have start := month_start_eq year monthPos (by omega)
  unfold daysFromCivil Date.count
  dsimp only
  rw [era_eq]
  rcases Nat.lt_or_ge 2 month with spring | winter
  · have late : ¬ month ≤ 2 := by omega
    have march := march_start year
    have closed := march_days_eq year
    rw [if_neg late] at start
    rw [if_neg late, if_pos spring, start]
    have shifted : (153 * ((month : ℤ) - 3) + 2).tdiv 5 = ((153 * (month - 3) + 2) / 5 : ℕ) := by
      rw [Int.tdiv_eq_ediv_of_nonneg (by omega)]
      omega
    rw [shifted]
    generalize (153 * (month - 3) + 2) / 5 = elapsed
    omega
  · have early : ¬ 2 < month := by omega
    have january := year_start_march year
    have closed := march_days_eq ((year : ℤ) - 1)
    rw [if_pos winter] at start
    rw [if_pos winter, if_neg early, start]
    have shifted : (153 * ((month : ℤ) + 9) + 2).tdiv 5 = 306 + 31 * (month - 1) := by
      rw [Int.tdiv_eq_ediv_of_nonneg (by omega)]
      omega
    rw [shifted]
    omega

/-! ## Numbers of fixed width -/

def digit (d : ℕ) : Char := Char.ofNat (48 + d)

theorem digit_spec : ∀ d < 10, (digit d).isDigit = true ∧ (digit d).toNat - 48 = d := by decide

theorem digit_value {c : Char} (isDigit : c.isDigit = true) :
    c.toNat - 48 < 10 ∧ digit (c.toNat - 48) = c := by
  have range : 48 ≤ c.toNat ∧ c.toNat ≤ 57 := by
    simp only [Char.isDigit, Bool.and_eq_true, decide_eq_true_eq] at isDigit
    exact ⟨isDigit.1, isDigit.2⟩
  refine ⟨by omega, ?_⟩
  unfold digit
  rw [Nat.add_sub_cancel' range.1, Char.ofNat_toNat]

/-- The last digits of a number, as many as asked for. -/
def digitsOf : ℕ → ℕ → List Char
  | 0, _ => []
  | width + 1, n => digitsOf width (n / 10) ++ [digit (n % 10)]

theorem digits_of_length (width n : ℕ) : (digitsOf width n).length = width := by
  induction width generalizing n with
  | zero => rfl
  | succ width ih => rw [digitsOf, List.length_append, ih, List.length_singleton]

theorem digits_of_plain (width n : ℕ) : ∀ c ∈ digitsOf width n, c.isDigit = true := by
  induction width generalizing n with
  | zero => intro c member; cases member
  | succ width ih =>
    intro c member
    rcases List.mem_append.mp member with front | last
    · exact ih (n / 10) c front
    · rw [List.mem_singleton.mp last]
      exact (digit_spec (n % 10) (Nat.mod_lt n (by decide))).1

theorem decimal_concat (front : List Char) (c : Char) :
    decimal (front ++ [c]) = 10 * decimal front + (c.toNat - 48) := by
  unfold decimal
  rw [List.foldl_append]
  rfl

theorem decimal_digits_of (width n : ℕ) : decimal (digitsOf width n) = n % 10 ^ width := by
  induction width generalizing n with
  | zero => rw [Nat.pow_zero, Nat.mod_one]; rfl
  | succ width ih =>
    rw [digitsOf, decimal_concat, ih, (digit_spec (n % 10) (Nat.mod_lt n (by decide))).2,
      Nat.pow_succ, Nat.mul_comm (10 ^ width) 10, Nat.mod_mul]
    omega

theorem decimal_append (front back : List Char) :
    decimal (front ++ back) = decimal front * 10 ^ back.length + decimal back := by
  induction back using List.reverseRecOn with
  | nil => simp [decimal]
  | append_singleton back c ih =>
    rw [← List.append_assoc, decimal_concat, ih, decimal_concat, List.length_append,
      List.length_singleton, Nat.pow_succ]
    ring

theorem decimal_lt {text : List Char} (plain : ∀ c ∈ text, c.isDigit = true) :
    decimal text < 10 ^ text.length := by
  induction text using List.reverseRecOn with
  | nil => decide
  | append_singleton front c ih =>
    have below := ih fun other member => plain other (List.mem_append_left _ member)
    have last := (digit_value (plain c (List.mem_append_right _ List.mem_cons_self))).1
    rw [decimal_concat, List.length_append, List.length_singleton, Nat.pow_succ]
    omega

/-- Digits are the digits of their number. -/
theorem digits_of_decimal {text : List Char} (plain : ∀ c ∈ text, c.isDigit = true) :
    digitsOf text.length (decimal text) = text := by
  induction text using List.reverseRecOn with
  | nil => rfl
  | append_singleton front c ih =>
    obtain ⟨small, same⟩ := digit_value (plain c (List.mem_append_right _ List.mem_cons_self))
    rw [List.length_append, List.length_singleton, digitsOf, decimal_concat]
    have quotient : (10 * decimal front + (c.toNat - 48)) / 10 = decimal front := by omega
    have remainder : (10 * decimal front + (c.toNat - 48)) % 10 = c.toNat - 48 := by omega
    rw [quotient, remainder, same,
      ih fun other member => plain other (List.mem_append_left _ member)]

/-- Digits, and at least one of them. -/
def Plain (text : List Char) : Prop := text ≠ [] ∧ ∀ c ∈ text, c.isDigit = true

instance (text : List Char) : Decidable (Plain text) :=
  decidable_of_iff (text ≠ [] ∧ text.all Char.isDigit = true) (by rw [Plain, List.all_eq_true])

theorem Plain.head {text : List Char} (plain : Plain text) {sign : Char}
    (other : sign.isDigit = false) : text.head? ≠ some sign := by
  intro first
  have isDigit := plain.2 sign (List.mem_of_head? first)
  rw [other] at isDigit
  cases isDigit

theorem parse_digits_plain {text : List Char} (plain : Plain text) :
    parseDigits text = some (decimal text) :=
  if_pos ⟨plain.1, List.all_eq_true.mpr plain.2⟩

theorem parse_unsigned_plain {text : List Char} (plain : Plain text) :
    parseUnsigned text = some (decimal text) := by
  unfold parseUnsigned
  rw [if_neg (plain.head (by decide)), parse_digits_plain plain]

theorem parse_signed_plain {text : List Char} (plain : Plain text) :
    parseSigned text = some (decimal text : ℤ) := by
  unfold parseSigned
  rw [if_neg (plain.head (by decide)), parse_unsigned_plain plain]
  rfl

/-! ## The places of a timestamp -/

/-- What stands in the places of a timestamp, and what comes after them. -/
structure Fields where
  year : List Char
  month : List Char
  day : List Char
  joint : Char
  hour : List Char
  minute : List Char
  second : List Char
  tail : List Char

namespace Fields

def text (f : Fields) : List Char :=
  f.year ++ '-' :: (f.month ++ '-' :: (f.day ++ f.joint :: (f.hour ++ ':' :: (f.minute ++ ':' ::
    (f.second ++ f.tail)))))

/-- The fields have their widths, and nothing but ASCII stands in the text. -/
structure Placed (f : Fields) : Prop where
  year : f.year.length = 4
  month : f.month.length = 2
  day : f.day.length = 2
  joint : f.joint = 'T' ∨ f.joint = 't'
  hour : f.hour.length = 2
  minute : f.minute.length = 2
  second : f.second.length = 2
  ascii : f.text.all isAscii = true

end Fields

/-- The digits of the fraction that a tail begins with. -/
def fractionOf (tail : List Char) : List Char :=
  if tail.head? = some '.' then tail.tail.takeWhile Char.isDigit else []

/-- What follows the fraction of a tail. -/
def zoneOf (tail : List Char) : List Char :=
  if tail.head? = some '.' then tail.tail.dropWhile Char.isDigit else tail

def millisOf (fraction : List Char) : ℕ :=
  decimal ((fraction ++ List.replicate (3 - fraction.length) '0').take 3)

/-- The offset that a zone stands for; its numbers may carry signs of their own. -/
def readOffset (zone : List Char) : Option ℤ :=
  match zone.head? with
  | none => some 0
  | some sign =>
    if sign = 'Z' ∨ sign = 'z' then some 0
    else if (sign = '+' ∨ sign = '-') ∧ zone.length = 6 ∧ zone[3]? = some ':' then do
      let hours ← parseSigned ((zone.take 3).drop 1)
      let minutes ← parseSigned ((zone.take 6).drop 4)
      return if sign = '-' then -(hours * 3600 + minutes * 60) else hours * 3600 + minutes * 60
    else none

section Reader

variable {invalid : Stop}

theorem slice_ok {text : List Char} {first last : ℕ} (order : first ≤ last)
    (inside : last ≤ text.length) : slice text first last = .ok ((text.take last).drop first) :=
  if_pos ⟨order, inside⟩

theorem field_ok {α : Type} (parse : List Char → Option α) {text : List Char} {first last : ℕ}
    (order : first ≤ last) (inside : last ≤ text.length) :
    field invalid parse text first last =
      orInvalid invalid (parse ((text.take last).drop first)) := by
  unfold field
  rw [slice_ok order inside]
  rfl

/-- The fraction never stops the reader. -/
theorem fraction_millis_eq (tail : List Char) :
    fractionMillis invalid tail = .ok (millisOf (fractionOf tail), zoneOf tail) := by
  unfold fractionMillis
  split
  · next fraction =>
    have digits : ∀ c ∈ fraction.takeWhile Char.isDigit, c.isDigit = true := fun c member =>
      List.mem_takeWhile_imp member
    have prefixed : (fraction.takeWhile Char.isDigit).length ≤ fraction.length :=
      (List.takeWhile_prefix _).length_le
    have rest : (fraction.take fraction.length).drop (fraction.takeWhile Char.isDigit).length =
        fraction.dropWhile Char.isDigit := by
      rw [List.take_length]
      conv_lhs => arg 2; rw [← List.takeWhile_append_dropWhile (p := Char.isDigit) (l := fraction)]
      exact List.drop_left
    have long : 3 ≤ (fraction.takeWhile Char.isDigit ++
        List.replicate (3 - (fraction.takeWhile Char.isDigit).length) '0').length := by
      rw [List.length_append, List.length_replicate]
      omega
    have plain : Plain ((fraction.takeWhile Char.isDigit ++
        List.replicate (3 - (fraction.takeWhile Char.isDigit).length) '0').take 3) := by
      refine ⟨fun empty => ?_, fun c member => ?_⟩
      · have none := congrArg List.length empty
        rw [List.length_take, Nat.min_eq_left long] at none
        cases none
      · rcases List.mem_append.mp (List.mem_of_mem_take member) with own | added
        · exact digits c own
        · rw [List.eq_of_mem_replicate added]
          rfl
    dsimp only
    rw [slice_ok prefixed (Nat.le_refl _), field_ok _ (by decide) long, List.drop_zero,
      parse_unsigned_plain plain, rest]
    rfl
  · next bare =>
    have other : tail.head? ≠ some '.' := by
      intro point
      obtain ⟨fraction, whole⟩ := List.head?_eq_some_iff.mp point
      exact bare fraction whole
    unfold fractionOf zoneOf
    rw [if_neg other, if_neg other]
    rfl

theorem offset_seconds_eq (zone : List Char) :
    offsetSeconds invalid zone = orInvalid invalid (readOffset zone) := by
  unfold offsetSeconds readOffset
  cases zone.head? with
  | none => rfl
  | some sign =>
    dsimp only
    by_cases utc : sign = 'Z' ∨ sign = 'z'
    · rw [if_pos utc, if_pos utc]
      rfl
    · rw [if_neg utc, if_neg utc]
      by_cases signed : sign = '+' ∨ sign = '-'
      · by_cases six : zone.length = 6
        · have there : 3 < zone.length := by omega
          have at_three : byteAt zone 3 = .ok zone[3] := by
            unfold byteAt
            rw [List.getElem?_eq_getElem there]
          rw [if_pos signed, if_neg (not_not_intro six), at_three, List.getElem?_eq_getElem there]
          by_cases colon : zone[3] = ':'
          · rw [if_pos ⟨signed, six, congrArg some colon⟩]
            change (if zone[3] ≠ ':' then _ else _) = _
            rw [if_neg (not_not_intro colon), field_ok _ (by decide) (by omega),
              field_ok _ (by decide) (by omega)]
            cases parseSigned ((zone.take 3).drop 1) with
            | none => rfl
            | some hours =>
              cases parseSigned ((zone.take 6).drop 4) <;> rfl
          · rw [if_neg fun all => colon (Option.some.inj all.2.2)]
            change (if zone[3] ≠ ':' then _ else _) = _
            rw [if_pos colon]
            rfl
        · rw [if_pos signed, if_pos six, if_neg fun all => six all.2.1]
          rfl
      · rw [if_neg signed, if_neg fun all => signed all.1]
        rfl

/-- The first bytes of a text that is long enough, one by one. -/
theorem first_bytes {text : List Char} (long : 19 ≤ text.length) :
    ∃ y₀ y₁ y₂ y₃ s₀ m₀ m₁ s₁ d₀ d₁ joint h₀ h₁ s₂ n₀ n₁ s₃ c₀ c₁ tail,
      text = [y₀, y₁, y₂, y₃] ++ s₀ :: ([m₀, m₁] ++ s₁ :: ([d₀, d₁] ++ joint :: ([h₀, h₁] ++
        s₂ :: ([n₀, n₁] ++ s₃ :: ([c₀, c₁] ++ tail))))) := by
  have front : 10 ≤ text.length := by omega
  match text, front with
  | y₀ :: y₁ :: y₂ :: y₃ :: s₀ :: m₀ :: m₁ :: s₁ :: d₀ :: d₁ :: rest, _ =>
    have back : 9 ≤ rest.length := by
      simp only [List.length_cons] at long
      omega
    match rest, back with
    | joint :: h₀ :: h₁ :: s₂ :: n₀ :: n₁ :: s₃ :: c₀ :: c₁ :: tail, _ =>
      exact ⟨y₀, y₁, y₂, y₃, s₀, m₀, m₁, s₁, d₀, d₁, joint, h₀, h₁, s₂, n₀, n₁, s₃, c₀, c₁, tail,
        rfl⟩

theorem separators_iff {s₀ s₁ joint s₂ s₃ : Char} :
    [s₀, s₁, joint, s₂, s₃] ∈ [['-', '-', 'T', ':', ':'], ['-', '-', 't', ':', ':']] ↔
      s₀ = '-' ∧ s₁ = '-' ∧ (joint = 'T' ∨ joint = 't') ∧ s₂ = ':' ∧ s₃ = ':' := by
  simp only [List.mem_cons, List.not_mem_nil, or_false, List.cons.injEq, and_true]
  tauto

/-- A text that is not laid out as a timestamp is an error. -/
theorem parse_timestamp_cases (timestamp : List Char) :
    parseTimestamp invalid timestamp = .error invalid ∨
      ∃ f : Fields, f.Placed ∧ timestamp = f.text := by
  by_cases short : timestamp.all isAscii = false ∨ timestamp.length < 19
  · exact Or.inl (if_pos short)
  · have ascii : timestamp.all isAscii = true := by
      simpa using fun bad => short (Or.inl bad)
    have long : 19 ≤ timestamp.length := Nat.le_of_not_lt fun less => short (Or.inr less)
    obtain ⟨y₀, y₁, y₂, y₃, s₀, m₀, m₁, s₁, d₀, d₁, joint, h₀, h₁, s₂, n₀, n₁, s₃, c₀, c₁, tail,
      rfl⟩ := first_bytes long
    by_cases separated : [s₀, s₁, joint, s₂, s₃] ∈
        [['-', '-', 'T', ':', ':'], ['-', '-', 't', ':', ':']]
    · obtain ⟨rfl, rfl, which, rfl, rfl⟩ := separators_iff.mp separated
      exact Or.inr ⟨⟨[y₀, y₁, y₂, y₃], [m₀, m₁], [d₀, d₁], joint, [h₀, h₁], [n₀, n₁], [c₀, c₁],
        tail⟩, ⟨rfl, rfl, rfl, which, rfl, rfl, rfl, ascii⟩, rfl⟩
    · refine Or.inl ?_
      unfold parseTimestamp
      rw [if_neg short]
      exact if_pos separated

/-- The seconds since the Unix epoch that the numbers of a timestamp stand for. -/
def epochSeconds (year : ℤ) (month day : ℕ) (hour minute second offset : ℤ) : ℤ :=
  daysFromCivil year month day * 86400 + hour * 3600 + minute * 60 + second - offset

/-- What the reader makes of fields that are in their places. -/
def Fields.millis (f : Fields) : Option ℕ := do
  let year ← parseSigned f.year
  let month ← parseUnsigned f.month
  let day ← parseUnsigned f.day
  let hour ← parseSigned f.hour
  let minute ← parseSigned f.minute
  let second ← parseSigned f.second
  let offset ← readOffset (zoneOf f.tail)
  let seconds := epochSeconds year month day hour minute second offset
  if seconds < 0 then none else return seconds.toNat * 1000 + millisOf (fractionOf f.tail)

theorem parse_placed {f : Fields} (placed : f.Placed) :
    parseTimestamp invalid f.text = orInvalid invalid f.millis := by
  obtain ⟨year, month, day, joint, hour, minute, second, tail⟩ := f
  obtain ⟨y, m, d, which, h, n, c, ascii⟩ := placed
  obtain ⟨y₀, y₁, y₂, y₃, rfl⟩ : ∃ a b c d, year = [a, b, c, d] := by
    match year, y with
    | [a, b, c, d], _ => exact ⟨a, b, c, d, rfl⟩
  obtain ⟨m₀, m₁, rfl⟩ := List.length_eq_two.mp m
  obtain ⟨d₀, d₁, rfl⟩ := List.length_eq_two.mp d
  obtain ⟨h₀, h₁, rfl⟩ := List.length_eq_two.mp h
  obtain ⟨n₀, n₁, rfl⟩ := List.length_eq_two.mp n
  obtain ⟨c₀, c₁, rfl⟩ := List.length_eq_two.mp c
  generalize whole : Fields.text ⟨[y₀, y₁, y₂, y₃], [m₀, m₁], [d₀, d₁], joint, [h₀, h₁], [n₀, n₁],
    [c₀, c₁], tail⟩ = text at ascii
  have long : 19 ≤ text.length := by
    rw [← whole]
    simp [Fields.text]
  have bytes : [4, 7, 10, 13, 16].mapM (byteAt text) = .ok ['-', '-', joint, ':', ':'] := by
    rw [← whole]
    rfl
  have year : (text.take 4).drop 0 = [y₀, y₁, y₂, y₃] := by rw [← whole]; rfl
  have month : (text.take 7).drop 5 = [m₀, m₁] := by rw [← whole]; rfl
  have day : (text.take 10).drop 8 = [d₀, d₁] := by rw [← whole]; rfl
  have hour : (text.take 13).drop 11 = [h₀, h₁] := by rw [← whole]; rfl
  have minute : (text.take 16).drop 14 = [n₀, n₁] := by rw [← whole]; rfl
  have second : (text.take 19).drop 17 = [c₀, c₁] := by rw [← whole]; rfl
  have rest : slice text 19 text.length = .ok tail := by
    rw [slice_ok long (Nat.le_refl _), List.take_length, ← whole]
    rfl
  have laid : ¬ (text.all isAscii = false ∨ text.length < 19) := by
    rintro (other | short)
    · rw [ascii] at other
      cases other
    · omega
  unfold parseTimestamp Fields.millis
  rw [if_neg laid, bytes, rest, field_ok _ (by decide) (by omega),
    field_ok _ (by decide) (by omega),
    field_ok _ (by decide) (by omega), field_ok _ (by decide) (by omega),
    field_ok _ (by decide) (by omega), field_ok _ (by decide) (by omega), year, month, day, hour,
    minute, second]
  change (if ['-', '-', joint, ':', ':'] ∉ _ then _ else _) = _
  rw [if_neg (not_not_intro (separators_iff.mpr ⟨rfl, rfl, which, rfl, rfl⟩))]
  dsimp only
  cases parseSigned [y₀, y₁, y₂, y₃] with
  | none => rfl
  | some year =>
  cases parseUnsigned [m₀, m₁] with
  | none => rfl
  | some month =>
  cases parseUnsigned [d₀, d₁] with
  | none => rfl
  | some day =>
  cases parseSigned [h₀, h₁] with
  | none => rfl
  | some hour =>
  cases parseSigned [n₀, n₁] with
  | none => rfl
  | some minute =>
  cases parseSigned [c₀, c₁] with
  | none => rfl
  | some second =>
  change (fractionMillis invalid tail >>= _) = _
  rw [fraction_millis_eq]
  change (offsetSeconds invalid (zoneOf tail) >>= _) = _
  rw [offset_seconds_eq]
  cases readOffset (zoneOf tail) with
  | none => rfl
  | some offset =>
    change (if epochSeconds year month day hour minute second offset < 0 then _ else _) =
      orInvalid invalid (if epochSeconds year month day hour minute second offset < 0 then _ else _)
    split <;> rfl

end Reader

/-! ## Written timestamps -/

/-- The ways to end a timestamp; `Z`, and no zone at all, stand for UTC. -/
inductive Zone
  | missing
  | utc (lower : Bool)
  | offset (west : Bool) (hours minutes : ℕ) (hoursLt : hours < 100) (minutesLt : minutes < 100)

def Zone.text : Zone → List Char
  | .missing => []
  | .utc lower => [if lower then 'z' else 'Z']
  | .offset west hours minutes _ _ =>
    (if west then '-' else '+') :: (digitsOf 2 hours ++ ':' :: digitsOf 2 minutes)

/-- The seconds that the zone is ahead of UTC. -/
def Zone.seconds : Zone → ℤ
  | .missing | .utc _ => 0
  | .offset west hours minutes _ _ =>
    if west then -(hours * 3600 + minutes * 60) else hours * 3600 + minutes * 60

/-- A timestamp of the form `YYYY-MM-DDTHH:MM:SS[.fraction][Z|±HH:MM]`, of a day that exists. -/
structure Written where
  date : Date
  yearLe : date.year ≤ 9999
  lower : Bool
  hour : ℕ
  minute : ℕ
  second : ℕ
  hourLt : hour < 24
  minuteLt : minute < 60
  secondLt : second < 60
  fraction : List Char
  digits : ∀ c ∈ fraction, c.isDigit = true
  zone : Zone

namespace Written

def fields (w : Written) : Fields where
  year := digitsOf 4 w.date.year
  month := digitsOf 2 w.date.month
  day := digitsOf 2 w.date.day
  joint := if w.lower then 't' else 'T'
  hour := digitsOf 2 w.hour
  minute := digitsOf 2 w.minute
  second := digitsOf 2 w.second
  tail := (if w.fraction = [] then [] else '.' :: w.fraction) ++ w.zone.text

def text (w : Written) : List Char := w.fields.text

theorem epoch_is_date : IsDate 1970 1 1 := by decide

/-- The first day of the Unix epoch. -/
def epoch : Date := epoch_is_date.date

/-- The whole seconds from the start of the epoch to the instant. -/
def seconds (w : Written) : ℤ :=
  ((w.date.count : ℤ) - epoch.count) * 86400 + w.hour * 3600 + w.minute * 60 + w.second -
    w.zone.seconds

/-- The milliseconds since the Unix epoch; what the fraction has beyond them is cut off. -/
def millis (w : Written) : ℕ :=
  w.seconds.toNat * 1000 + decimal w.fraction * 1000 / 10 ^ w.fraction.length

end Written

theorem epoch_count : Written.epoch.count = 719528 := by
  have newYear : ∀ {date : Date}, date.month = 1 → date.day = 1 →
      date.count = yearStart date.year := by
    intro date month day
    unfold Date.count
    rw [month, day]
    rfl
  have years := year_start_eq Written.epoch.year
  have year : Written.epoch.year = 1970 := rfl
  rw [newYear rfl rfl]
  omega

theorem plain_digits_of {width : ℕ} (some_width : width ≠ 0) (n : ℕ) :
    Plain (digitsOf width n) := by
  refine ⟨fun empty => some_width ?_, digits_of_plain width n⟩
  rw [← digits_of_length width n, empty]
  rfl

/-- The characters that a written timestamp may have besides digits. -/
def marks : List Char := ['-', 'T', 't', ':', '.', 'Z', 'z', '+']

theorem zone_chars (zone : Zone) : ∀ c ∈ zone.text, c.isDigit = true ∨ c ∈ marks := by
  intro c member
  cases zone with
  | missing => cases member
  | utc lower =>
    rw [List.mem_singleton.mp member]
    cases lower <;> exact Or.inr (by decide)
  | offset west hours minutes =>
    rcases List.mem_cons.mp member with rfl | member
    · cases west <;> exact Or.inr (by decide)
    · rcases List.mem_append.mp member with inHours | member
      · exact Or.inl (digits_of_plain 2 hours c inHours)
      · rcases List.mem_cons.mp member with rfl | inMinutes
        · exact Or.inr (by decide)
        · exact Or.inl (digits_of_plain 2 minutes c inMinutes)

theorem written_chars (w : Written) : ∀ c ∈ w.text, c.isDigit = true ∨ c ∈ marks := by
  intro c member
  unfold Written.text Fields.text Written.fields at member
  simp only [List.mem_append, List.mem_cons] at member
  have plain : ∀ width n, c ∈ digitsOf width n → c.isDigit = true ∨ c ∈ marks :=
    fun width n inside => Or.inl (digits_of_plain width n c inside)
  rcases member with h | rfl | h | rfl | h | rfl | h | rfl | h | rfl | h | h | h
  · exact plain _ _ h
  · exact Or.inr (by decide)
  · exact plain _ _ h
  · exact Or.inr (by decide)
  · exact plain _ _ h
  · cases w.lower <;> exact Or.inr (by decide)
  · exact plain _ _ h
  · exact Or.inr (by decide)
  · exact plain _ _ h
  · exact Or.inr (by decide)
  · exact plain _ _ h
  · split at h
    · cases h
    · rcases List.mem_cons.mp h with rfl | inside
      · exact Or.inr (by decide)
      · exact Or.inl (w.digits c inside)
  · exact zone_chars w.zone c h

/-- Digits and marks are ASCII, and no white space. -/
theorem mark_or_digit {c : Char} (known : c.isDigit = true ∨ c ∈ marks) :
    isAscii c = true ∧ isWhitespace c = false := by
  rcases known with isDigit | mark
  · obtain ⟨small, same⟩ := digit_value isDigit
    have checked : ∀ d < 10, isAscii (digit d) = true ∧ isWhitespace (digit d) = false := by decide
    rw [← same]
    exact checked _ small
  · have checked : marks.all (fun c => isAscii c && !isWhitespace c) = true := by decide
    simpa using List.all_eq_true.mp checked c mark

theorem written_placed (w : Written) : w.fields.Placed where
  year := digits_of_length 4 _
  month := digits_of_length 2 _
  day := digits_of_length 2 _
  joint := by
    change (if w.lower then 't' else 'T') = 'T' ∨ (if w.lower then 't' else 'T') = 't'
    cases w.lower
    · exact Or.inl rfl
    · exact Or.inr rfl
  hour := digits_of_length 2 _
  minute := digits_of_length 2 _
  second := digits_of_length 2 _
  ascii := List.all_eq_true.mpr fun c member => (mark_or_digit (written_chars w c member)).1

/-- No zone begins like a fraction, or goes on with its digits. -/
theorem zone_apart (zone : Zone) :
    zone.text.head? ≠ some '.' ∧ zone.text.takeWhile Char.isDigit = [] := by
  cases zone with
  | missing => exact ⟨by decide, rfl⟩
  | utc lower => cases lower <;> exact ⟨by decide, rfl⟩
  | offset west hours minutes =>
    cases west
    · exact ⟨fun first => absurd (Option.some.inj first) (by decide), rfl⟩
    · exact ⟨fun first => absurd (Option.some.inj first) (by decide), rfl⟩

theorem written_tail (w : Written) :
    fractionOf w.fields.tail = w.fraction ∧ zoneOf w.fields.tail = w.zone.text := by
  obtain ⟨apart, ended⟩ := zone_apart w.zone
  have rest : w.zone.text.dropWhile Char.isDigit = w.zone.text := by
    conv_rhs => rw [← List.takeWhile_append_dropWhile (p := Char.isDigit) (l := w.zone.text), ended]
    rfl
  change fractionOf ((if w.fraction = [] then [] else '.' :: w.fraction) ++ w.zone.text) = _ ∧
    zoneOf ((if w.fraction = [] then [] else '.' :: w.fraction) ++ w.zone.text) = _
  unfold fractionOf zoneOf
  by_cases none : w.fraction = []
  · rw [if_pos none, List.nil_append, if_neg apart, if_neg apart, none]
    exact ⟨rfl, rfl⟩
  · rw [if_neg none, List.cons_append, List.head?_cons, if_pos rfl, if_pos rfl, List.tail_cons]
    constructor
    · rw [List.takeWhile_append_of_pos w.digits, ended, List.append_nil]
    · rw [List.dropWhile_append_of_pos w.digits, rest]

theorem read_offset_text (zone : Zone) : readOffset zone.text = some zone.seconds := by
  cases zone with
  | missing => rfl
  | utc lower => cases lower <;> rfl
  | offset west hours minutes hoursLt minutesLt =>
    have first := parse_signed_plain (plain_digits_of (by decide : 2 ≠ 0) hours)
    have second := parse_signed_plain (plain_digits_of (by decide : 2 ≠ 0) minutes)
    rw [decimal_digits_of, Nat.mod_eq_of_lt (by omega)] at first second
    cases west
    · change (parseSigned (digitsOf 2 hours) >>= fun _ =>
        parseSigned (digitsOf 2 minutes) >>= _) = _
      rw [first, second]
      rfl
    · change (parseSigned (digitsOf 2 hours) >>= fun _ =>
        parseSigned (digitsOf 2 minutes) >>= _) = _
      rw [first, second]
      rfl

/-- The first three digits, padded with zeros, are the fraction in whole thousandths. -/
theorem millis_of_eq {fraction : List Char} (plain : ∀ c ∈ fraction, c.isDigit = true) :
    millisOf fraction = decimal fraction * 1000 / 10 ^ fraction.length := by
  unfold millisOf
  rcases Nat.lt_or_ge fraction.length 3 with short | long
  · have zeros : decimal (List.replicate (3 - fraction.length) '0') = 0 := by
      interval_cases fraction.length <;> rfl
    have all : (fraction ++ List.replicate (3 - fraction.length) '0').length = 3 := by
      rw [List.length_append, List.length_replicate]
      omega
    have scale : 1000 = 10 ^ fraction.length * 10 ^ (3 - fraction.length) := by
      rw [← Nat.pow_add, Nat.add_sub_cancel' short.le]
    rw [List.take_of_length_le all.le, decimal_append, zeros, List.length_replicate, scale,
      Nat.mul_left_comm, Nat.mul_div_cancel_left _ (Nat.pow_pos (by decide))]
    rfl
  · have split := decimal_append (fraction.take 3) (fraction.drop 3)
    have small : decimal (fraction.drop 3) < 10 ^ (fraction.drop 3).length :=
      decimal_lt fun c member => plain c (List.mem_of_mem_drop member)
    rw [List.take_append_drop, List.length_drop] at split
    rw [List.length_drop] at small
    have scale : 10 ^ fraction.length = 10 ^ (fraction.length - 3) * 1000 := by
      have parts : fraction.length = fraction.length - 3 + 3 := by omega
      conv_lhs => rw [parts, Nat.pow_add]
    rw [Nat.sub_eq_zero_of_le long, List.replicate_zero, List.append_nil, split, scale,
      Nat.mul_div_mul_right _ _ (by decide), Nat.mul_comm (decimal (fraction.take 3)),
      Nat.mul_add_div (Nat.pow_pos (by decide)), Nat.div_eq_of_lt small, Nat.add_zero]

/-- The fields of a written timestamp stand for its instant. -/
theorem written_millis (w : Written) :
    w.fields.millis = if w.seconds < 0 then none else some w.millis := by
  have numbers : ∀ {width n : ℕ}, width ≠ 0 → n < 10 ^ width →
      parseUnsigned (digitsOf width n) = some n ∧
        parseSigned (digitsOf width n) = some (n : ℤ) := by
    intro width n some_width below
    have plain := plain_digits_of some_width n
    have value : decimal (digitsOf width n) = n := by
      rw [decimal_digits_of, Nat.mod_eq_of_lt below]
    rw [parse_unsigned_plain plain, parse_signed_plain plain, value]
    exact ⟨rfl, rfl⟩
  have monthLe := w.date.monthLe
  have dayLe := w.date.dayLe.trans (days_in_month_le _ _)
  have yearLe := w.yearLe
  have hourLt := w.hourLt
  have minuteLt := w.minuteLt
  have secondLt := w.secondLt
  have year := (numbers (by decide : 4 ≠ 0) (by omega : w.date.year < 10 ^ 4)).2
  have month := (numbers (by decide : 2 ≠ 0) (by omega : w.date.month < 10 ^ 2)).1
  have day := (numbers (by decide : 2 ≠ 0) (by omega : w.date.day < 10 ^ 2)).1
  have hour := (numbers (by decide : 2 ≠ 0) (by omega : w.hour < 10 ^ 2)).2
  have minute := (numbers (by decide : 2 ≠ 0) (by omega : w.minute < 10 ^ 2)).2
  have second := (numbers (by decide : 2 ≠ 0) (by omega : w.second < 10 ^ 2)).2
  obtain ⟨fraction, zone⟩ := written_tail w
  have total : epochSeconds w.date.year w.date.month w.date.day w.hour w.minute w.second
      w.zone.seconds = w.seconds := by
    unfold epochSeconds Written.seconds
    rw [days_from_civil_eq, epoch_count]
    rfl
  unfold Fields.millis
  rw [fraction, zone, read_offset_text, millis_of_eq w.digits]
  change (parseSigned (digitsOf 4 w.date.year) >>= fun _ => _) = _
  rw [year]
  change (parseUnsigned (digitsOf 2 w.date.month) >>= fun _ => _) = _
  rw [month]
  change (parseUnsigned (digitsOf 2 w.date.day) >>= fun _ => _) = _
  rw [day]
  change (parseSigned (digitsOf 2 w.hour) >>= fun _ => _) = _
  rw [hour]
  change (parseSigned (digitsOf 2 w.minute) >>= fun _ => _) = _
  rw [minute]
  change (parseSigned (digitsOf 2 w.second) >>= fun _ => _) = _
  rw [second]
  change (if epochSeconds w.date.year w.date.month w.date.day w.hour w.minute w.second
    w.zone.seconds < 0 then none else some (_ * 1000 + _)) = _
  rw [total]
  rfl

theorem trim_written (w : Written) : trim (String.ofList w.text).toList = w.text := by
  have noWhite : ∀ c ∈ w.text, isWhitespace c = false := fun c member =>
    (mark_or_digit (written_chars w c member)).2
  rw [String.toList_ofList]
  apply trim_of_ends
  · exact fun c first => noWhite c (List.mem_of_head? first)
  · exact fun c last => noWhite c (List.mem_of_getLast? last)

/-- The day count starts at the epoch and grows by one with every day of the calendar, and every
written timestamp that is not before the epoch reads as its milliseconds. -/
theorem timestamps_exact :
    daysFromCivil 1970 1 1 = 0 ∧
      (∀ date : Date, daysFromCivil date.next.year date.next.month date.next.day =
        daysFromCivil date.year date.month date.day + 1) ∧
      ∀ w : Written, 0 ≤ w.seconds →
        parseRfc3339Millis (String.ofList w.text) = .ok w.millis := by
  refine ⟨by decide, fun date => ?_, fun w since => ?_⟩
  · rw [days_from_civil_eq, days_from_civil_eq, Date.count_next]
    omega
  · unfold parseRfc3339Millis
    rw [trim_written]
    unfold Written.text
    rw [parse_placed (written_placed w), written_millis, if_neg (by omega)]
    rfl

/-- One second before the leap day of 2000, two hours east of UTC. -/
def leapEve : Written where
  date := ⟨2000, 2, 28, by decide, by decide, by decide, by decide⟩
  yearLe := by decide
  lower := false
  hour := 23
  minute := 59
  second := 59
  hourLt := by decide
  minuteLt := by decide
  secondLt := by decide
  fraction := "1239".toList
  digits := List.all_eq_true.mp (by decide)
  zone := .offset false 2 0 (by decide) (by decide)

theorem leap_eve_exact :
    parseRfc3339Millis (String.ofList leapEve.text) = .ok leapEve.millis := by
  have since : 0 ≤ leapEve.seconds := by
    have days := days_from_civil_eq leapEve.date
    have value : daysFromCivil leapEve.date.year leapEve.date.month leapEve.date.day = 11015 := by
      decide
    unfold Written.seconds
    rw [epoch_count]
    change 0 ≤ ((leapEve.date.count : ℤ) - (719528 : ℕ)) * 86400 + (23 : ℕ) * 3600 + (59 : ℕ) * 60 +
      (59 : ℕ) - 7200
    omega
  exact timestamps_exact.2.2 leapEve since

/-! ## Texts that are misread -/

/-- The text is a timestamp of the documented form. -/
def Documented (text : List Char) : Prop := ∃ w : Written, text = w.text

/-- Every field is a number, if need be with a sign, the end is one of the known ones as far as it
is looked at, and the instant is not before the epoch. -/
def Fields.Reads (f : Fields) : Prop :=
  ∃ year month day hour minute second offset, parseSigned f.year = some year ∧
    parseUnsigned f.month = some month ∧ parseUnsigned f.day = some day ∧
    parseSigned f.hour = some hour ∧ parseSigned f.minute = some minute ∧
    parseSigned f.second = some second ∧ readOffset (zoneOf f.tail) = some offset ∧
    0 ≤ epochSeconds year month day hour minute second offset

theorem reads_of_millis {f : Fields} {millis : ℕ} (read : f.millis = some millis) : f.Reads := by
  simp only [Fields.millis, Option.bind_eq_bind, Option.bind_eq_some_iff] at read
  obtain ⟨year, y, month, m, day, d, hour, h, minute, n, second, c, offset, o, rest⟩ := read
  refine ⟨year, month, day, hour, minute, second, offset, y, m, d, h, n, c, o, ?_⟩
  split at rest
  · cases rest
  · omega

theorem Fields.Reads.millis {f : Fields} (reads : f.Reads) :
    ∃ millis, f.millis = some millis := by
  obtain ⟨year, month, day, hour, minute, second, offset, y, m, d, h, n, c, o, since⟩ := reads
  refine ⟨(epochSeconds year month day hour minute second offset).toNat * 1000 +
    millisOf (fractionOf f.tail), ?_⟩
  simp only [Fields.millis, Option.bind_eq_bind, Option.bind_eq_some_iff]
  refine ⟨year, y, month, m, day, d, hour, h, minute, n, second, c, offset, o, ?_⟩
  rw [if_neg (by omega)]
  rfl

/-- The zone is an offset with a sign in front of its hours or of its minutes. -/
def SignedOffset (zone : List Char) : Prop :=
  (zone.head? = some '+' ∨ zone.head? = some '-') ∧
    ¬ (Plain ((zone.take 3).drop 1) ∧ Plain ((zone.take 6).drop 4))

/-- Ways to be no timestamp that the reader does not look for. -/
inductive Fields.Misread (f : Fields) : Prop
  | sign (signed : ¬ (Plain f.year ∧ Plain f.month ∧ Plain f.day ∧ Plain f.hour ∧ Plain f.minute ∧
      Plain f.second))
  | date (missing : ¬ IsDate (decimal f.year) (decimal f.month) (decimal f.day))
  | time (beyond : ¬ (decimal f.hour < 24 ∧ decimal f.minute < 60 ∧ decimal f.second < 60))
  | point (bare : f.tail.head? = some '.' ∧ fractionOf f.tail = [])
  | trailing (more : ((zoneOf f.tail).head? = some 'Z' ∨ (zoneOf f.tail).head? = some 'z') ∧
      (zoneOf f.tail).length ≠ 1)
  | offset (signed : SignedOffset (zoneOf f.tail))

/-- Fields in their places are determined by the text. -/
theorem fields_inj {f g : Fields} (placed : f.Placed) (others : g.Placed) (same : f.text = g.text) :
    f = g := by
  obtain ⟨year, month, day, joint, hour, minute, second, tail⟩ := f
  obtain ⟨year', month', day', joint', hour', minute', second', tail'⟩ := g
  unfold Fields.text at same
  dsimp only at same
  obtain ⟨rfl, afterYear⟩ := List.append_inj same (placed.year.trans others.year.symm)
  obtain ⟨rfl, afterMonth⟩ := List.append_inj (List.cons.inj afterYear).2
    (placed.month.trans others.month.symm)
  obtain ⟨rfl, afterDay⟩ := List.append_inj (List.cons.inj afterMonth).2
    (placed.day.trans others.day.symm)
  obtain ⟨rfl, time⟩ := List.cons.inj afterDay
  obtain ⟨rfl, afterHour⟩ := List.append_inj time (placed.hour.trans others.hour.symm)
  obtain ⟨rfl, afterMinute⟩ := List.append_inj (List.cons.inj afterHour).2
    (placed.minute.trans others.minute.symm)
  obtain ⟨rfl, rfl⟩ := List.append_inj (List.cons.inj afterMinute).2
    (placed.second.trans others.second.symm)
  rfl

theorem decimal_of {width n : ℕ} (below : n < 10 ^ width) : decimal (digitsOf width n) = n := by
  rw [decimal_digits_of, Nat.mod_eq_of_lt below]

theorem written_not_misread (w : Written) : ¬ w.fields.Misread := by
  have plain : ∀ n, Plain (digitsOf 2 n) := plain_digits_of (by decide)
  have value : ∀ {n : ℕ}, n < 100 → decimal (digitsOf 2 n) = n := fun below => decimal_of below
  have hourLt := w.hourLt
  have minuteLt := w.minuteLt
  have secondLt := w.secondLt
  obtain ⟨fraction, zone⟩ := written_tail w
  intro misread
  cases misread with
  | sign signed =>
    exact signed ⟨plain_digits_of (by decide) _, plain _, plain _, plain _, plain _, plain _⟩
  | date missing =>
    have monthLe := w.date.monthLe
    have dayLe := w.date.dayLe.trans (days_in_month_le _ _)
    have yearLe := w.yearLe
    have year : decimal (digitsOf 4 w.date.year) = w.date.year := decimal_of (by omega)
    change ¬ IsDate (decimal (digitsOf 4 w.date.year)) (decimal (digitsOf 2 w.date.month))
      (decimal (digitsOf 2 w.date.day)) at missing
    rw [year, value (by omega), value (by omega)] at missing
    exact missing ⟨w.date.monthPos, w.date.monthLe, w.date.dayPos, w.date.dayLe⟩
  | time beyond =>
    change ¬ (decimal (digitsOf 2 w.hour) < 24 ∧ decimal (digitsOf 2 w.minute) < 60 ∧
      decimal (digitsOf 2 w.second) < 60) at beyond
    rw [value (by omega), value (by omega), value (by omega)] at beyond
    exact beyond ⟨hourLt, minuteLt, secondLt⟩
  | point bare =>
    obtain ⟨point, empty⟩ := bare
    rw [fraction] at empty
    change ((if w.fraction = [] then [] else '.' :: w.fraction) ++ w.zone.text).head? = _ at point
    rw [if_pos empty, List.nil_append] at point
    exact (zone_apart w.zone).1 point
  | trailing more =>
    rw [zone] at more
    obtain ⟨first, long⟩ := more
    cases known : w.zone with
    | missing => rw [known] at first; rcases first with first | first <;> cases first
    | utc lower => rw [known] at long; exact long rfl
    | offset west hours minutes =>
      rw [known] at first
      cases west <;> rcases first with first | first <;>
        exact absurd (Option.some.inj first) (by decide)
  | offset signed =>
    rw [zone] at signed
    obtain ⟨first, apart⟩ := signed
    cases known : w.zone with
    | missing => rw [known] at first; rcases first with first | first <;> cases first
    | utc lower =>
      rw [known] at first
      cases lower <;> rcases first with first | first <;>
        exact absurd (Option.some.inj first) (by decide)
    | offset west hours minutes =>
      rw [known] at apart
      exact apart ⟨plain hours, plain minutes⟩

/-- A zone that is read as an offset, and neither goes on after `Z` nor has signs of its own. -/
theorem zone_of_read {zone : List Char} {offset : ℤ} (read : readOffset zone = some offset)
    (ends : ¬ ((zone.head? = some 'Z' ∨ zone.head? = some 'z') ∧ zone.length ≠ 1))
    (unsigned : ¬ SignedOffset zone) : ∃ known : Zone, known.text = zone := by
  cases zone with
  | nil => exact ⟨.missing, rfl⟩
  | cons sign rest =>
    unfold readOffset at read
    rw [List.head?_cons] at read
    dsimp only at read
    by_cases utc : sign = 'Z' ∨ sign = 'z'
    · have single : rest = [] := by
        by_contra more
        refine ends ⟨?_, fun one => more ?_⟩
        · rcases utc with rfl | rfl
          · exact Or.inl rfl
          · exact Or.inr rfl
        · rw [List.length_cons] at one
          exact List.length_eq_zero_iff.mp (by omega)
      rcases utc with rfl | rfl
      · exact ⟨.utc false, by rw [single]; rfl⟩
      · exact ⟨.utc true, by rw [single]; rfl⟩
    · rw [if_neg utc] at read
      split at read
      · next laid =>
        obtain ⟨which, six, colon⟩ := laid
        match rest, six with
        | [a, b, c, d, e], _ =>
          have apart : c = ':' := Option.some.inj colon
          have plain : Plain [a, b] ∧ Plain [d, e] := by
            by_contra bad
            refine unsigned ⟨?_, bad⟩
            rcases which with rfl | rfl
            · exact Or.inl rfl
            · exact Or.inr rfl
          have hours : digitsOf 2 (decimal [a, b]) = [a, b] := digits_of_decimal plain.1.2
          have minutes : digitsOf 2 (decimal [d, e]) = [d, e] := digits_of_decimal plain.2.2
          have hoursLt : decimal [a, b] < 100 := decimal_lt plain.1.2
          have minutesLt : decimal [d, e] < 100 := decimal_lt plain.2.2
          refine ⟨.offset (sign = '-') (decimal [a, b]) (decimal [d, e]) hoursLt minutesLt, ?_⟩
          change (if decide (sign = '-') = true then '-' else '+') ::
            (digitsOf 2 (decimal [a, b]) ++ ':' :: digitsOf 2 (decimal [d, e])) = _
          rw [hours, minutes, apart]
          rcases which with rfl | rfl <;> rfl
      · cases read

theorem tail_parts {tail : List Char} (pointed : ¬ (tail.head? = some '.' ∧ fractionOf tail = [])) :
    (if fractionOf tail = [] then [] else '.' :: fractionOf tail) ++ zoneOf tail = tail := by
  unfold fractionOf zoneOf at *
  by_cases point : tail.head? = some '.'
  · rw [if_pos point] at pointed
    have some_digits : tail.tail.takeWhile Char.isDigit ≠ [] := fun none => pointed ⟨point, none⟩
    obtain ⟨rest, rfl⟩ := List.head?_eq_some_iff.mp point
    rw [if_pos point, if_pos point, if_neg some_digits, List.cons_append,
      List.takeWhile_append_dropWhile]
    rfl
  · rw [if_neg point, if_neg point]
    rfl

/-- What reads and is not misread is a written timestamp. -/
theorem written_of_reads {f : Fields} (placed : f.Placed) (reads : f.Reads)
    (regular : ¬ f.Misread) : ∃ w : Written, w.fields = f := by
  obtain ⟨_, _, _, _, _, _, offset, _, _, _, _, _, _, zoned, _⟩ := reads
  have numbers := not_not.mp fun signed => regular (.sign signed)
  have dated := not_not.mp fun missing => regular (.date missing)
  have timed := not_not.mp fun beyond => regular (.time beyond)
  obtain ⟨known, zone⟩ := zone_of_read zoned (fun more => regular (.trailing more))
    fun signed => regular (.offset signed)
  obtain ⟨yearP, monthP, dayP, hourP, minuteP, secondP⟩ := numbers
  obtain ⟨monthPos, monthLe, dayPos, dayLe⟩ := dated
  have fraction : ∀ c ∈ fractionOf f.tail, c.isDigit = true := by
    unfold fractionOf
    split
    · exact fun c member => List.mem_takeWhile_imp member
    · intro c member
      cases member
  have yearLt := decimal_lt yearP.2
  rw [placed.year] at yearLt
  refine ⟨⟨⟨decimal f.year, decimal f.month, decimal f.day, monthPos, monthLe, dayPos, dayLe⟩,
    Nat.le_of_lt_succ yearLt, f.joint = 't', decimal f.hour, decimal f.minute, decimal f.second,
    timed.1, timed.2.1, timed.2.2, fractionOf f.tail, fraction, known⟩, ?_⟩
  have joint : (if decide (f.joint = 't') = true then 't' else 'T') = f.joint := by
    rcases placed.joint with upper | lower
    · rw [upper]; rfl
    · rw [lower]; rfl
  have tail := tail_parts fun bare => regular (.point bare)
  unfold Written.fields
  dsimp only
  rw [joint, zone, tail, ← placed.year, ← placed.month, digits_of_decimal yearP.2,
    digits_of_decimal monthP.2, placed.month, ← placed.day, digits_of_decimal dayP.2, placed.day,
    ← placed.hour, digits_of_decimal hourP.2, placed.hour, ← placed.minute,
    digits_of_decimal minuteP.2, placed.minute, ← placed.second, digits_of_decimal secondP.2]

/-- The input is read or is an error that names it, never a panic, and it is read only when it is a
timestamp of the documented form. -/
structure RejectsRest (input : String) : Prop where
  error : ∀ stop, parseRfc3339Millis input = .error stop →
    stop = .error (.runtime s!"invalid `Created` timestamp `{input}`")
  documented : ∀ millis, parseRfc3339Millis input = .ok millis → Documented (trim input.toList)

end ADesk.Machines.Timestamps
