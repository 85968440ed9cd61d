/- ADesk/Foundation/Json
   digest: JSON values, codecs that carry their round trip, and the fields of records. -/

import Mathlib.Data.List.Basic
import Mathlib.Data.List.Sort

set_option autoImplicit false

namespace ADesk.Foundation.Json

universe u v

inductive Value
  | null
  | bool (flag : Bool)
  | number (value : ℤ)
  -- A number that is not an integer, by its text.
  | fraction (text : String)
  | string (text : String)
  | array (items : List Value)
  -- The members in the order of their keys.
  | object (members : List (String × Value))

/-- The keys of an object are in order, and none is twice there. -/
def Ascending (members : List (String × Value)) : Prop :=
  (members.map Prod.fst).Pairwise fun key later => compare key later = .lt

theorem ascending {members : List (String × Value)} (keys : List String)
    (listed : members.map Prod.fst = keys)
    (sorted : keys.Pairwise fun key later => compare key later = .lt) : Ascending members := by
  unfold Ascending
  rw [listed]
  exact sorted

/-- The values that are held as they are written, with room for so many levels of arrays and
objects: integers of 64 bits, and objects by their keys. -/
inductive Value.Held : ℕ → Value → Prop
  | null {room : ℕ} : Held room .null
  | bool {room : ℕ} (flag : Bool) : Held room (.bool flag)
  | number {room : ℕ} {value : ℤ} (low : -0x8000000000000000 ≤ value)
      (high : value < 0x10000000000000000) : Held room (.number value)
  | string {room : ℕ} (text : String) : Held room (.string text)
  | array {room : ℕ} {items : List Value} (held : ∀ item ∈ items, Held room item) :
    Held (room + 1) (.array items)
  | object {room : ℕ} {members : List (String × Value)} (ascending : Ascending members)
      (held : ∀ entry ∈ members, Held room entry.2) : Held (room + 1) (.object members)

/-- The arrays and objects of the value are not nested deeper than that. -/
inductive Value.Nested : ℕ → Value → Prop
  | null {room : ℕ} : Nested room .null
  | bool {room : ℕ} (flag : Bool) : Nested room (.bool flag)
  | number {room : ℕ} (value : ℤ) : Nested room (.number value)
  | fraction {room : ℕ} (text : String) : Nested room (.fraction text)
  | string {room : ℕ} (text : String) : Nested room (.string text)
  | array {room : ℕ} {items : List Value} (nested : ∀ item ∈ items, Nested room item) :
    Nested (room + 1) (.array items)
  | object {room : ℕ} {members : List (String × Value)}
      (nested : ∀ entry ∈ members, Nested room entry.2) : Nested (room + 1) (.object members)

/-- The levels that the parser follows before it gives up. -/
def recursionLimit : ℕ := 127

/-- An object needs one level more than its members. -/
theorem Value.Held.ofObject {room height : ℕ} {members : List (String × Value)}
    (fitting : height + 1 ≤ room) (ascending : Ascending members)
    (held : height ≤ room - 1 → ∀ entry ∈ members, Held (room - 1) entry.2) :
    Held room (.object members) := by
  obtain ⟨less, rfl⟩ := Nat.exists_eq_add_of_le' (Nat.le_of_add_left_le fitting)
  exact .object ascending (held (Nat.le_of_succ_le_succ fitting))

/-- A JSON printer and its parser. -/
structure Text (Line : Type u) where
  print : Value → Line
  parse : Line → Option Value
  reads : ∀ value, value.Held recursionLimit → parse (print value) = some value
  -- Whatever else an object holds, it is read as an object with the same texts.
  readsTexts : ∀ members, Ascending members → (Value.object members).Nested recursionLimit →
    ∃ read, parse (print (.object members)) = some (.object read) ∧
      ∀ key text, members.lookup key = some (.string text) →
        read.lookup key = some (.string text)

/-! ## Members -/

section Members

variable {members : List (String × Value)} {key other : String}

/-- A member in the place of the one with its key, if there is one. -/
def insert (members : List (String × Value)) (key : String) (value : Value) :
    List (String × Value) :=
  (key, value) :: members.filter fun entry => entry.1 != key

theorem lookup_insert_self (members : List (String × Value)) (key : String) (value : Value) :
    (insert members key value).lookup key = some value :=
  List.lookup_cons_self

theorem lookup_insert_other (differs : other ≠ key) (value : Value) :
    (insert members key value).lookup other = members.lookup other := by
  unfold insert
  rw [List.lookup_cons, beq_eq_false_iff_ne.mpr differs]
  show (members.filter fun entry => entry.1 != key).lookup other = members.lookup other
  induction members with
  | nil => rfl
  | cons first rest later =>
    by_cases same : first.1 = key
    · rw [List.filter_cons_of_neg (by simp [same]), List.lookup_cons,
        beq_eq_false_iff_ne.mpr (same ▸ differs)]
      exact later
    · rw [List.filter_cons_of_pos (by simp [same]), List.lookup_cons, List.lookup_cons, later]

end Members

/-! ## Codecs -/

/-- How a type is written as values of so many levels, and read; what fits the type is read
back. -/
structure Codec (height : ℕ) (α : Type u) where
  encode : α → Value
  decode : Value → Option α
  Fits : α → Prop
  reads : ∀ a, Fits a → decode (encode a) = some a
  held : ∀ {room} a, Fits a → height ≤ room → (encode a).Held room
  solid : ∀ a, encode a ≠ .null

namespace Codec

variable {height : ℕ} {α : Type u} {β : Type v}

/-- Integers within bounds. -/
def integer (low high : ℤ) (least : -0x8000000000000000 ≤ low)
    (most : high ≤ 0x10000000000000000) : Codec 0 ℤ where
  encode := .number
  decode
    | .number value => if low ≤ value ∧ value < high then some value else none
    | _ => none
  Fits value := low ≤ value ∧ value < high
  reads _ fits := if_pos fits
  held _ fits _ := .number (least.trans fits.1) (lt_of_lt_of_le fits.2 most)
  solid _ := Value.noConfusion

/-- Natural numbers below a bound. -/
def natural (high : ℕ) (most : high ≤ 0x10000000000000000) : Codec 0 ℕ where
  encode value := .number value
  decode
    | .number value => if 0 ≤ value ∧ value.toNat < high then some value.toNat else none
    | _ => none
  Fits value := value < high
  reads value fits := by
    simp only [Int.toNat_natCast]
    exact if_pos ⟨Int.natCast_nonneg value, fits⟩
  held value fits _ := by
    refine .number ?_ ?_
    · omega
    · omega
  solid _ := Value.noConfusion

def text : Codec 0 String where
  encode := .string
  decode
    | .string content => some content
    | _ => none
  Fits _ := True
  reads _ _ := rfl
  held content _ _ := .string content
  solid _ := Value.noConfusion

def flag : Codec 0 Bool where
  encode := .bool
  decode
    | .bool content => some content
    | _ => none
  Fits _ := True
  reads _ _ := rfl
  held content _ _ := .bool content
  solid _ := Value.noConfusion

@[simp] theorem text_decode (content : String) :
    text.decode (.string content) = some content := rfl

@[simp] theorem flag_decode (content : Bool) : flag.decode (.bool content) = some content := rfl

/-- A type that is written as another one. -/
def via (c : Codec height α) (pack : α → β) (unpack : β → α)
    (inverse : ∀ b, pack (unpack b) = b) : Codec height β where
  encode b := c.encode (unpack b)
  decode value := (c.decode value).map pack
  Fits b := c.Fits (unpack b)
  reads b fits := by rw [c.reads _ fits, Option.map_some, inverse]
  held b fits fitting := c.held _ fits fitting
  solid b := c.solid _

/-- An enumeration by the names of its values. -/
def named (name : α → String) (ofName : String → Option α)
    (inverse : ∀ a, ofName (name a) = some a) : Codec 0 α where
  encode a := .string (name a)
  decode
    | .string text => ofName text
    | _ => none
  Fits _ := True
  reads _ _ := inverse _
  held _ _ _ := .string _
  solid _ := Value.noConfusion

def list (c : Codec height α) : Codec (height + 1) (List α) where
  encode items := .array (items.map c.encode)
  decode
    | .array items => items.mapM c.decode
    | _ => none
  Fits items := ∀ item ∈ items, c.Fits item
  reads items fits := by
    induction items with
    | nil => rfl
    | cons first rest later =>
      obtain ⟨head, tail⟩ := List.forall_mem_cons.mp fits
      have others := later tail
      simp only [List.map_cons, List.mapM_cons, c.reads first head] at others ⊢
      rw [others]
      rfl
  held {room} items fits fitting := by
    obtain ⟨room, rfl⟩ := Nat.exists_eq_add_of_le' (Nat.one_le_of_lt fitting)
    refine .array fun value member => ?_
    obtain ⟨item, there, rfl⟩ := List.mem_map.mp member
    exact c.held item (fits item there) (Nat.le_of_succ_le_succ fitting)
  solid _ := Value.noConfusion

/-- What may be absent is written as null. -/
def written (c : Codec height α) : Option α → Value
  | none => .null
  | some a => c.encode a

theorem written_held (c : Codec height α) {room : ℕ} {a : Option α}
    (fits : ∀ b ∈ a, c.Fits b) (fitting : height ≤ room) : (c.written a).Held room := by
  cases a with
  | none => exact .null
  | some b => exact c.held b (fits b rfl) fitting

/-- A field that must be there. -/
def required (c : Codec height α) (members : List (String × Value)) (key : String) : Option α :=
  (members.lookup key).bind c.decode

/-- What is there for a field that may be null or missing. -/
def found (c : Codec height α) : Option Value → Option (Option α)
  | none | some .null => some none
  | some value => (c.decode value).map some

def optional (c : Codec height α) (members : List (String × Value)) (key : String) : Option (Option α) :=
  c.found (members.lookup key)

theorem found_written (c : Codec height α) {a : Option α} (fits : ∀ b ∈ a, c.Fits b) :
    c.found (some (c.written a)) = some a := by
  cases a with
  | none => rfl
  | some b =>
    have reads := c.reads b (fits b rfl)
    have solid := c.solid b
    simp only [written] at solid ⊢
    cases encoded : c.encode b with
    | null => exact absurd encoded solid
    | _ =>
      rw [encoded] at reads
      simp only [found, reads, Option.map_some]

variable {members : List (String × Value)} {key other : String}

end Codec

end ADesk.Foundation.Json
