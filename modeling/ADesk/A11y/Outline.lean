/- ADesk/A11y/Outline
   digest: The text outline of an accessibility tree, and a reader of its grammar. -/

import ADesk.A11y.Role
import ADesk.Core.Accessibility
import ADesk.Foundation.Scanning

set_option autoImplicit false

namespace ADesk.A11y.Outline

open ADesk.A11y.Role
open ADesk.Core.Accessibility
open ADesk.Core.Geometry (Rect)
open ADesk.Foundation.Scanning

/-! ## Rendering -/

structure TextOptions where
  indent : ℕ
  includeIds : Bool
  includeBounds : Bool
  includeStates : Bool
  includeActions : Bool

def TextOptions.default : TextOptions := ⟨2, true, true, true, true⟩

/-- The letter that follows the backslash of an escape. -/
def escapeLetter : Char → Option Char
  | '\\' => some '\\'
  | '"' => some '"'
  | '\n' => some 'n'
  | '\t' => some 't'
  | _ => none

def escapedLetter : Char → Option Char
  | '\\' => some '\\'
  | '"' => some '"'
  | 'n' => some '\n'
  | 't' => some '\t'
  | _ => none

theorem escaped_letter {raw letter : Char} (code : escapeLetter raw = some letter) :
    escapedLetter letter = some raw := by
  unfold escapeLetter at code
  split at code <;> cases code <;> rfl

def quoting : Escaping Char where
  mark := '\\'
  quote := '"'
  encode := escapeLetter
  decode := escapedLetter
  quote_differs := by decide
  mark_encoded := by decide
  quote_encoded := by decide
  decode_encode _ _ := escaped_letter

def escape (raw : String) : List Char := quoting.escape raw.toList

/-- The wire name of a state flag. -/
def stateName : AccessibleState → String
  | .enabled => "enabled"
  | .sensitive => "sensitive"
  | .showing => "showing"
  | .visible => "visible"
  | .focusable => "focusable"
  | .focused => "focused"
  | .checkable => "checkable"
  | .checked => "checked"
  | .selected => "selected"
  | .selectable => "selectable"
  | .expandable => "expandable"
  | .expanded => "expanded"
  | .collapsed => "collapsed"
  | .editable => "editable"
  | .multiline => "multiline"
  | .readOnly => "read_only"
  | .pressed => "pressed"
  | .active => "active"
  | .busy => "busy"
  | .modal => "modal"
  | .defunct => "defunct"
  | .invalid => "invalid"

def valueSection : Option String → List Char
  | some value => " value=\"".toList ++ (escape value ++ ['"'])
  | none => []

/-- The items of a list as they are, with commas between them. -/
def listSection (key : String) (items : List (List Char)) : List Char :=
  if items = [] then [] else key.toList ++ ([','].intercalate items ++ [']'])

def statesSection (states : List AccessibleState) : List Char :=
  listSection " states=[" (states.map fun state => (stateName state).toList)

def actionsSection (actions : List String) : List Char :=
  listSection " actions=[" (actions.map String.toList)

def numbers (bounds : Rect) : List (List Char) :=
  [showInteger bounds.x, showInteger bounds.y, Nat.toDigits 10 bounds.w, Nat.toDigits 10 bounds.h]

def boundsSection : Option Rect → List Char
  | some bounds => " bounds=".toList ++ [','].intercalate (numbers bounds)
  | none => []

def idSection (id : AccessibleId) : List Char := " id=".toList ++ Nat.toDigits 10 id.val

/-- One node on one line. -/
def renderLine (node : AccessibleNode) (depth : ℕ) (opts : TextOptions) : List Char :=
  -- The product saturates only where no line that long could be built.
  List.replicate (depth * opts.indent) ' ' ++ (node.role.toList ++ (" \"".toList ++
    (escape node.name ++ ('"' :: (valueSection node.value ++
      ((if opts.includeStates then statesSection node.states else []) ++
        ((if opts.includeActions then actionsSection node.actions else []) ++
          ((if opts.includeBounds then boundsSection node.bounds else []) ++
            (if opts.includeIds then idSection node.id else [])))))))))

/-- One line for each node, in pre-order. -/
def pushLines (node : AccessibleNode) (depth : ℕ) (opts : TextOptions) : List (List Char) :=
  (node.outline depth).map fun entry => renderLine entry.2 entry.1 opts

def renderText (tree : AccessibleTree) (opts : TextOptions) : String :=
  String.ofList (['\n'].intercalate (pushLines tree.root 0 opts))

/-! ## Reading -/

/-- What the options leave of a node, at its depth. -/
structure Line where
  depth : ℕ
  role : String
  name : String
  value : Option String
  states : List AccessibleState
  actions : List String
  bounds : Option Rect
  id : Option AccessibleId
  deriving DecidableEq

def included (opts : TextOptions) (depth : ℕ) (node : AccessibleNode) : Line where
  depth := depth
  role := node.role
  name := node.name
  value := node.value
  states := if opts.includeStates then node.states else []
  actions := if opts.includeActions then node.actions else []
  bounds := if opts.includeBounds then node.bounds else none
  id := if opts.includeIds then some node.id else none

/-- The indent and the role, up to the quote that opens the name; a role may be empty. -/
def readRole (indent : ℕ) (text : List Char) : Option ((ℕ × String) × List Char) :=
  let spaces := (text.takeWhile fun letter => decide (letter = ' ')).length
  let rest := text.dropWhile fun letter => decide (letter = ' ')
  if rest.head? = some '"' then some (((spaces - 1) / indent, ""), rest.tail)
  else
    (strip " \"".toList (rest.dropWhile fun letter => decide (letter ≠ ' '))).map fun text =>
      ((spaces / indent, String.ofList (rest.takeWhile fun letter => decide (letter ≠ ' '))), text)

def readQuoted (text : List Char) : Option (String × List Char) :=
  (quoting.unescape text).map fun parts => (String.ofList parts.1, parts.2)

def readValue (text : List Char) : Option (Option String × List Char) :=
  match strip " value=\"".toList text with
  | some text => (readQuoted text).map fun parts => (some parts.1, parts.2)
  | none => some (none, text)

def allStates : List AccessibleState :=
  [.enabled, .sensitive, .showing, .visible, .focusable, .focused, .checkable, .checked, .selected,
    .selectable, .expandable, .expanded, .collapsed, .editable, .multiline, .readOnly, .pressed,
    .active, .busy, .modal, .defunct, .invalid]

def stateOf (name : List Char) : Option AccessibleState :=
  allStates.find? fun state => (stateName state).toList = name

def readStates (text : List Char) : Option (List AccessibleState × List Char) :=
  match strip " states=[".toList text with
  | some text =>
    let names := text.takeWhile fun letter => decide (letter ≠ ']')
    ((names.splitOn ',').mapM stateOf).map fun states =>
      (states, (text.dropWhile fun letter => decide (letter ≠ ']')).tail)
  | none => some ([], text)

/-- Action names may hold anything but a comma; the list ends at the last bracket. -/
def readActions (text : List Char) : Option (List String × List Char) :=
  match strip " actions=[".toList text with
  | some text =>
    (breakLast ']' text).map fun parts => ((parts.1.splitOn ',').map String.ofList, parts.2)
  | none => some ([], text)

def readRect : List (List Char) → Option Rect
  | [x, y, w, h] => do
    return ⟨← integer x, ← integer y, ← natural w, ← natural h⟩
  | _ => none

def readBounds (text : List Char) : Option (Option Rect × List Char) :=
  match strip " bounds=".toList text with
  | some text =>
    let pieces := text.takeWhile fun letter => decide (letter ≠ ' ')
    (readRect (pieces.splitOn ',')).map fun bounds =>
      (some bounds, text.dropWhile fun letter => decide (letter ≠ ' '))
  | none => some (none, text)

def readId (text : List Char) : Option (Option AccessibleId) :=
  match strip " id=".toList text with
  | some text => (natural text).map fun value => some ⟨value⟩
  | none => if text = [] then some none else none

def parseLine (indent : ℕ) (text : List Char) : Option Line := do
  let ((depth, role), text) ← readRole indent text
  let (name, text) ← readQuoted text
  let (value, text) ← readValue text
  let (states, text) ← readStates text
  let (actions, text) ← readActions text
  let (bounds, text) ← readBounds text
  let id ← readId text
  return ⟨depth, role, name, value, states, actions, bounds, id⟩

def lines (text : String) : List (List Char) := text.toList.splitOn '\n'

def parseText (indent : ℕ) (text : String) : Option (List Line) :=
  (lines text).mapM (parseLine indent)

end ADesk.A11y.Outline
