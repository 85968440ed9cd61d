/- ADesk/Compositor/Keys
   digest: Key names and chords, and the keysym table of a compiled keymap. -/

import Mathlib.Data.List.Infix
import Mathlib.Logic.Function.Basic

set_option autoImplicit false

namespace ADesk.Compositor.Keys

/-! ## Key names -/

/-- The functions of libxkbcommon on keysyms; a keysym is its number, `0` is `NoSymbol`. -/
structure Xkb where
  keysymFromName : List Char → ℕ
  utf32ToKeysym : Char → ℕ
  keysymGetName : ℕ → List Char
  keysymToUtf32 : ℕ → Option Char

/-- A resolved keysym with its canonical name. -/
structure Keysym where
  name : List Char
  value : ℕ
  deriving DecidableEq

/-- One key, or a chord that is tapped. -/
inductive KeyCode
  | single (keysym : Keysym)
  | chord (keysyms : List Keysym)
  deriving DecidableEq

inductive KeyState
  | pressed | released
  deriving DecidableEq

inductive ParseError
  | emptyName
  | unknownName (name : List Char)
  | emptyChord
  | releasedChord
  deriving DecidableEq

def quoteChar : Char := Char.ofNat 34
def escapeChar : Char := Char.ofNat 92

/-- A string as `{:?}` prints it, when all its characters are printable. -/
def debugString (text : List Char) : List Char :=
  let escape := fun c : Char =>
    if c = quoteChar ∨ c = escapeChar then [escapeChar, c] else [c]
  quoteChar :: text.flatMap escape ++ [quoteChar]

def ParseError.message : ParseError → List Char
  | .emptyName => "key name is empty".toList
  | .unknownName name => "unknown key name ".toList ++ debugString name
  | .emptyChord => "a chord needs at least one key".toList
  | .releasedChord => "a chord is a tap and cannot be released; send `pressed`".toList

/-- The Unicode `White_Space` property, which `trim` removes on both sides. -/
def isWhitespace (c : Char) : Bool :=
  let code := c.toNat
  (9 ≤ code && code ≤ 13) || code == 0x20 || code == 0x85 || code == 0xA0 || code == 0x1680 ||
    (0x2000 ≤ code && code ≤ 0x200A) || code == 0x2028 || code == 0x2029 || code == 0x202F ||
    code == 0x205F || code == 0x3000

def trim (name : List Char) : List Char :=
  ((name.dropWhile isWhitespace).reverse.dropWhile isWhitespace).reverse

theorem drop_white {text : List Char} (first : ∀ c ∈ text.head?, isWhitespace c = false) :
    text.dropWhile isWhitespace = text := by
  cases text with
  | nil => rfl
  | cons c rest =>
    apply List.dropWhile_cons_of_neg
    rw [first c rfl]
    exact Bool.false_ne_true

/-- A text is trimmed when it neither begins nor ends with white space. -/
theorem trim_of_ends {text : List Char} (first : ∀ c ∈ text.head?, isWhitespace c = false)
    (last : ∀ c ∈ text.getLast?, isWhitespace c = false) : trim text = text := by
  have back : ∀ c ∈ text.reverse.head?, isWhitespace c = false := by
    rw [List.head?_reverse]
    exact last
  unfold trim
  rw [drop_white first, drop_white back, List.reverse_reverse]

/-- Protocol name to xkb keysym name. -/
def aliases : List (List Char × List Char) :=
  [("CTRL".toList, "Control_L".toList), ("CONTROL".toList, "Control_L".toList),
    ("ALT".toList, "Alt_L".toList), ("SHIFT".toList, "Shift_L".toList),
    ("SUPER".toList, "Super_L".toList), ("META".toList, "Super_L".toList),
    ("LOGO".toList, "Super_L".toList), ("RETURN".toList, "Return".toList),
    ("ENTER".toList, "Return".toList), ("ESC".toList, "Escape".toList),
    ("ESCAPE".toList, "Escape".toList), ("PAGEUP".toList, "Prior".toList),
    ("PAGEDOWN".toList, "Next".toList), ("BACKSPACE".toList, "BackSpace".toList)]

def eqIgnoreAsciiCase (a b : List Char) : Bool := a.map Char.toLower == b.map Char.toLower

def aliasOf (name : List Char) : Option (List Char) :=
  (aliases.find? fun entry => eqIgnoreAsciiCase entry.1 name).map Prod.snd

def singleChar : List Char → Option Char
  | [c] => some c
  | _ => none

def hexDigits (value : ℕ) : List Char := Nat.toDigits 16 value

/-- The canonical xkb name of a keysym, with a hex fallback for one without a name. -/
def canonicalName (xkb : Xkb) (value : ℕ) : List Char :=
  let name := xkb.keysymGetName value
  if name.isEmpty then "0x".toList ++ hexDigits value else name

/-- `Keysym::parse`. -/
def parseKeysym (xkb : Xkb) (name : List Char) : Except ParseError Keysym :=
  let trimmed := trim name
  if trimmed.isEmpty then .error .emptyName
  else
    let named := xkb.keysymFromName ((aliasOf trimmed).getD trimmed)
    -- xkb knows names only; a single character without one falls back to its code point
    let value :=
      if named = 0 then ((singleChar trimmed).map xkb.utf32ToKeysym).getD 0 else named
    if value = 0 then .error (.unknownName name) else .ok ⟨canonicalName xkb value, value⟩

/-- `KeyCode::parse`. -/
def parseKey (xkb : Xkb) (name : List Char) : Except ParseError KeyCode :=
  (parseKeysym xkb name).map .single

def parseChord (xkb : Xkb) (keys : List (List Char)) : Except ParseError KeyCode :=
  match keys.mapM (parseKeysym xkb) with
  | .error error => .error error
  | .ok [] => .error .emptyChord
  | .ok keysyms => .ok (.chord keysyms)

/-- A chord is pressed in order and released in reverse. -/
def chordSequence (key : KeyCode) (state : KeyState) :
    Except ParseError (List (Keysym × KeyState)) :=
  match key with
  | .single keysym => .ok [(keysym, state)]
  | .chord [] => .error .emptyChord
  | .chord keysyms =>
    match state with
    | .released => .error .releasedChord
    | .pressed => .ok (keysyms.map (·, .pressed) ++ keysyms.reverse.map (·, .released))

/-- Names of keysyms that are not written as one letter or digit. -/
def latinNames : List (List Char × ℕ) :=
  [("space".toList, 0x20), ("exclam".toList, 0x21), ("plus".toList, 0x2b),
    ("underscore".toList, 0x5f), ("Return".toList, 0xff0d), ("Shift_L".toList, 0xffe1),
    ("Control_L".toList, 0xffe3), ("ISO_Level3_Shift".toList, 0xfe03)]

/-- A part of libxkbcommon on which the model can be run: Latin letters and digits, and the names
above. -/
def latinXkb : Xkb where
  keysymFromName name :=
    match singleChar name with
    | some c => if c.isAlphanum then c.toLower.toNat else 0
    | none =>
      ((latinNames.find? fun entry => eqIgnoreAsciiCase entry.1 name).map Prod.snd).getD 0
  utf32ToKeysym c :=
    if (0x20 ≤ c.toNat && c.toNat ≤ 0x7e) || (0xa0 ≤ c.toNat && c.toNat ≤ 0xff) then c.toNat
    else 0x01000000 + c.toNat
  keysymGetName value :=
    ((latinNames.find? fun entry => entry.2 == value).map Prod.fst).getD
      (if (Char.ofNat value).isAlphanum then [Char.ofNat value] else [])
  keysymToUtf32 value :=
    if (0x20 ≤ value && value ≤ 0x7e) || (0xa0 ≤ value && value ≤ 0xff) then
      some (Char.ofNat value)
    else if value = 0xff0d then some (Char.ofNat 0x0d)
    else if 0x01000100 ≤ value then some (Char.ofNat (value - 0x01000000))
    else none

/-! ## The keysym table -/

/-- A compiled keymap: the keysyms of each key, layout and level, and the level that the type of a
key selects while the level modifiers are held or not. -/
structure Keymap where
  minKeycode : ℕ
  maxKeycode : ℕ
  numLayouts : ℕ
  numLevels : ℕ → ℕ → ℕ
  symsByLevel : ℕ → ℕ → ℕ → List ℕ
  levelOf : ℕ → ℕ → Bool → Bool → ℕ

/-- A physical key and the shift level that produces a keysym. -/
structure ResolvedKey where
  keycode : ℕ
  level : ℕ
  deriving DecidableEq

/-- Every keysym of the keymap with its key and level, in the order of the scan. -/
def scanKeymap (keymap : Keymap) : List (ℕ × ResolvedKey) :=
  (List.range' keymap.minKeycode (keymap.maxKeycode + 1 - keymap.minKeycode)).flatMap
    fun keycode => (List.range keymap.numLayouts).flatMap fun layout =>
      (List.range (keymap.numLevels keycode layout)).flatMap fun level =>
        (keymap.symsByLevel keycode layout level).map fun keysym => (keysym, ⟨keycode, level⟩)

abbrev KeymapTable := ℕ → Option ResolvedKey

/-- The lower level wins; on one level the first key of the scan stays. -/
def indexKeysym (table : KeymapTable) (entry : ℕ × ResolvedKey) : KeymapTable :=
  if entry.1 = 0 then table
  else
    match table entry.1 with
    | none => Function.update table entry.1 (some entry.2)
    | some found =>
      if entry.2.level < found.level then Function.update table entry.1 (some entry.2) else table

def indexKeymap (keymap : Keymap) : KeymapTable :=
  (scanKeymap keymap).foldl indexKeysym fun _ => none

def shiftKeysym : List Char := "Shift_L".toList
def level3Keysym : List Char := "ISO_Level3_Shift".toList

/-- The table and the level modifiers resolved at startup. -/
structure InputInjector where
  keymap : KeymapTable
  shift : Option ℕ
  level3 : Option ℕ

def resolveModifier (xkb : Xkb) (table : KeymapTable) (name : List Char) : Option ℕ :=
  match parseKeysym xkb name with
  | .ok keysym => (table keysym.value).map ResolvedKey.keycode
  | .error _ => none

def InputInjector.new (xkb : Xkb) (keymap : Keymap) : InputInjector where
  keymap := indexKeymap keymap
  shift := resolveModifier xkb (indexKeymap keymap) shiftKeysym
  level3 := resolveModifier xkb (indexKeymap keymap) level3Keysym

end ADesk.Compositor.Keys
