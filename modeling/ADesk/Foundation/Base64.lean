/- ADesk/Foundation/Base64
   digest: Bytes written with the standard base64 alphabet and padding are read back. -/

import Mathlib.Data.Nat.Notation

set_option autoImplicit false

namespace ADesk.Foundation.Base64

/-- The symbol of a number below 64. -/
def symbol (value : ℕ) : Char :=
  if value < 26 then Char.ofNat (65 + value)
  else if value < 52 then Char.ofNat (71 + value)
  else if value < 62 then Char.ofNat (value - 4)
  else if value = 62 then '+'
  else '/'

def value (char : Char) : Option ℕ :=
  let code := char.toNat
  if 65 ≤ code ∧ code ≤ 90 then some (code - 65)
  else if 97 ≤ code ∧ code ≤ 122 then some (code - 71)
  else if 48 ≤ code ∧ code ≤ 57 then some (code + 4)
  else if char = '+' then some 62
  else if char = '/' then some 63
  else none

def padding : Char := '='

/-- Three bytes as four symbols; the last group is filled up with padding. -/
def encodeBytes : List UInt8 → List Char
  | [] => []
  | [a] => [symbol (a.toNat / 4), symbol (a.toNat % 4 * 16), padding, padding]
  | [a, b] =>
    [symbol (a.toNat / 4), symbol (a.toNat % 4 * 16 + b.toNat / 16), symbol (b.toNat % 16 * 4),
      padding]
  | a :: b :: c :: rest =>
    symbol (a.toNat / 4) :: symbol (a.toNat % 4 * 16 + b.toNat / 16) ::
      symbol (b.toNat % 16 * 4 + c.toNat / 64) :: symbol (c.toNat % 64) :: encodeBytes rest

/-- The bytes of the symbols; bits behind the last byte have to be zero. -/
def decodeBytes : List Char → Option (List UInt8)
  | [] => some []
  | w :: x :: y :: z :: rest => do
    let first ← value w
    let second ← value x
    if z = padding ∧ rest = [] then
      if y = padding then
        if second % 16 = 0 then some [UInt8.ofNat (first * 4 + second / 16)] else none
      else do
        let third ← value y
        if third % 4 = 0 then
          some [UInt8.ofNat (first * 4 + second / 16), UInt8.ofNat (second % 16 * 16 + third / 4)]
        else none
    else do
      let third ← value y
      let fourth ← value z
      let bytes ← decodeBytes rest
      some (UInt8.ofNat (first * 4 + second / 16) :: UInt8.ofNat (second % 16 * 16 + third / 4) ::
        UInt8.ofNat (third % 4 * 64 + fourth) :: bytes)
  | _ => none

def encode (bytes : List UInt8) : String := String.ofList (encodeBytes bytes)

def decode (text : String) : Option (List UInt8) := decodeBytes text.toList

/-! ## Round trip -/

theorem value_symbol {number : ℕ} (low : number < 64) : value (symbol number) = some number := by
  have all : ∀ number < 64, value (symbol number) = some number := by decide
  exact all number low

theorem symbol_ne_padding {number : ℕ} (low : number < 64) : symbol number ≠ padding := by
  have all : ∀ number < 64, symbol number ≠ padding := by decide
  exact all number low

theorem byte_eq (byte : UInt8) {number : ℕ} (same : number = byte.toNat) :
    UInt8.ofNat number = byte := by
  rw [same]
  exact UInt8.ofNat_toNat

theorem decode_encode_bytes (bytes : List UInt8) :
    decodeBytes (encodeBytes bytes) = some bytes := by
  induction bytes using encodeBytes.induct with
  | case1 => rfl
  | case2 a =>
    have byte := a.toNat_lt
    simp only [encodeBytes, decodeBytes]
    rw [value_symbol (by omega), value_symbol (by omega)]
    simp only [Option.bind_eq_bind, Option.bind_some, and_self, if_true]
    rw [if_pos (by omega), byte_eq a (by omega)]
  | case3 a b =>
    have first := a.toNat_lt
    have second := b.toNat_lt
    simp only [encodeBytes, decodeBytes]
    rw [value_symbol (by omega), value_symbol (by omega), value_symbol (by omega)]
    simp only [Option.bind_eq_bind, Option.bind_some, and_self, if_true]
    rw [if_neg (symbol_ne_padding (by omega)), if_pos (by omega), byte_eq a (by omega),
      byte_eq b (by omega)]
  | case4 a b c rest ih =>
    have first := a.toNat_lt
    have second := b.toNat_lt
    have third := c.toNat_lt
    have unpadded : symbol (c.toNat % 64) ≠ padding := symbol_ne_padding (by omega)
    simp only [encodeBytes, decodeBytes]
    rw [value_symbol (by omega), value_symbol (by omega), value_symbol (by omega),
      value_symbol (by omega), ih]
    simp only [Option.bind_eq_bind, Option.bind_some, unpadded, false_and, if_false]
    rw [byte_eq a (by omega), byte_eq b (by omega), byte_eq c (by omega)]

theorem decode_encode (bytes : List UInt8) : decode (encode bytes) = some bytes := by
  unfold decode encode
  rw [String.toList_ofList, decode_encode_bytes]

end ADesk.Foundation.Base64
