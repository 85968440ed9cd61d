/- ADesk/Registry/Parser
   digest: Desktop files are read into the pairs of their entry group, and a written group is read
   back as long as no value begins or ends with white space that the escapes leave out. -/

import ADesk.Compositor.Keys
import ADesk.Registry.Exec
import Mathlib.Data.List.DropRight

set_option autoImplicit false

namespace ADesk.Registry.Parser

open ADesk.Compositor.Keys (isWhitespace trim trim_of_ends)
open ADesk.Registry.Exec (backslash)

/-! ## The raw group -/

/-- The pairs of the group in file order; of a repeated key the last one counts. -/
structure RawEntry where
  values : List (List Char × List Char)
  deriving DecidableEq

inductive ParseError
  | missingGroup
  deriving DecidableEq

def desktopEntryGroup : List Char := "Desktop Entry".toList

def byteOrderMark : Char := Char.ofNat 0xFEFF

/-- What stands before and after the first separator. -/
def splitOnce (separator : Char) (text : List Char) : Option (List Char × List Char) :=
  match text.dropWhile (· ≠ separator) with
  | [] => none
  | _ :: rest => some (text.takeWhile (· ≠ separator), rest)

def stripReturn (line : List Char) : List Char :=
  if line.getLast? = some '\r' then line.dropLast else line

/-- The lines of a text, behind what was read of the first of them; what follows the last line
feed is a line of its own unless it is empty. -/
def linesFrom (current : List Char) : List Char → List (List Char)
  | [] => if current = [] then [] else [current]
  | c :: rest =>
    if c = '\n' then stripReturn current :: linesFrom [] rest else linesFrom (current ++ [c]) rest

/-- The name of a `[group]` header. -/
def groupName (line : List Char) : Option (List Char) :=
  match line with
  | '[' :: rest => if rest.getLast? = some ']' then some (trim rest.dropLast) else none
  | _ => none

/-- What an escaped character stands for; an unknown escape stays as it is. -/
def resolveEscape (c : Char) : List Char :=
  if c = 's' then [' ']
  else if c = 'n' then ['\n']
  else if c = 't' then ['\t']
  else if c = 'r' then ['\r']
  else if c = backslash then [backslash]
  else [backslash, c]

def unescape : List Char → List Char
  | [] => []
  | c :: rest =>
    if c ≠ backslash then c :: unescape rest
    else
      match rest with
      | [] => [backslash]
      | other :: rest => resolveEscape other ++ unescape rest

/-- The locals of the loop over the lines. -/
structure Reading where
  values : List (List Char × List Char)
  inEntryGroup : Bool
  sawEntryGroup : Bool

def Reading.start : Reading := ⟨[], false, false⟩

def Reading.line (reading : Reading) (line : List Char) : Reading :=
  let line := trim line
  if line = [] ∨ line.head? = some '#' then reading
  else
    match groupName line with
    | some group =>
      { reading with
        inEntryGroup := group = desktopEntryGroup
        sawEntryGroup := reading.sawEntryGroup || group = desktopEntryGroup }
    | none =>
      if reading.inEntryGroup then
        match splitOnce '=' line with
        | none => reading
        | some (key, value) =>
          if trim key = [] then reading
          else { reading with values := reading.values ++ [(trim key, unescape (trim value))] }
      else reading

def stripMark (text : List Char) : List Char :=
  if text.head? = some byteOrderMark then text.tail else text

def parseStr (text : List Char) : Except ParseError RawEntry :=
  let reading := (linesFrom [] (stripMark text)).foldl Reading.line .start
  if reading.sawEntryGroup then .ok ⟨reading.values⟩ else .error .missingGroup

/-- The value of the last pair with the key. -/
def RawEntry.get (raw : RawEntry) (key : List Char) : Option (List Char) :=
  (raw.values.reverse.find? fun pair => pair.1 = key).map Prod.snd

/-- Locale suffixes in the order in which they are tried: `lang_COUNTRY@MODIFIER`, `lang@MODIFIER`,
`lang_COUNTRY`, `lang`, as far as the locale has the parts. -/
def localeCandidates : Option (List Char) → List (List Char)
  | none => []
  | some locale =>
    let (core, modifier) := match splitOnce '@' locale with
      | some (core, modifier) => (core, some modifier)
      | none => (locale, none)
    let core := match splitOnce '.' core with
      | some (core, _) => core
      | none => core
    let modifier := modifier.filter (· ≠ [])
    let (lang, country) := match splitOnce '_' core with
      | some (lang, country) => (lang, some country)
      | none => (core, none)
    let country := country.filter (· ≠ [])
    if lang = [] then []
    else
      (country.bind fun c => modifier.map fun m => lang ++ '_' :: c ++ '@' :: m).toList ++
        (modifier.map fun m => lang ++ '@' :: m).toList ++
        (country.map fun c => lang ++ '_' :: c).toList ++ [lang]

/-- The first localized value that is not empty, and else the plain one. -/
def RawEntry.localized (raw : RawEntry) (key : List Char) (locale : Option (List Char)) :
    Option (List Char) :=
  ((localeCandidates locale).findSome? fun suffix =>
    (raw.get (key ++ '[' :: suffix ++ [']'])).filter (· ≠ [])).or (raw.get key)

/-! ## The typed entry -/

inductive EntryError
  | missingType
  | notApplication (entryType : List Char)
  | missingName
  deriving DecidableEq

/-- A validated application entry, with the path of its file. -/
structure DesktopEntry (Path : Type) where
  id : List Char
  path : Path
  name : List Char
  exec : Option (List Char)
  icon : Option (List Char)
  terminal : Bool
  noDisplay : Bool
  hidden : Bool
  categories : List (List Char)
  startupWmClass : Option (List Char)
  dbusActivatable : Bool
  tryExec : Option (List Char)
  deriving DecidableEq

def nonEmpty (value : Option (List Char)) : Option (List Char) := value.filter (· ≠ [])

/-- Only `true`, in any case, is true. -/
def boolean (value : Option (List Char)) : Bool :=
  value.any fun value => value.map Char.toLower = "true".toList

def splitCategories (value : Option (List Char)) : List (List Char) :=
  (((value.getD []).splitOn ';').map trim).filter (· ≠ [])

namespace DesktopEntry

variable {Path : Type}

def fromRaw (id : List Char) (path : Path) (raw : RawEntry) (locale : Option (List Char)) :
    Except EntryError (DesktopEntry Path) :=
  match (raw.get "Type".toList).filter (trim · ≠ []) with
  | none => .error .missingType
  | some entryType =>
    if entryType ≠ "Application".toList then .error (.notApplication entryType)
    else
      match (raw.localized "Name".toList locale).filter (trim · ≠ []) with
      | none => .error .missingName
      | some name => .ok {
          id := id
          path := path
          name := name
          exec := raw.get "Exec".toList
          icon := nonEmpty (raw.get "Icon".toList)
          terminal := boolean (raw.get "Terminal".toList)
          noDisplay := boolean (raw.get "NoDisplay".toList)
          hidden := boolean (raw.get "Hidden".toList)
          categories := splitCategories (raw.get "Categories".toList)
          startupWmClass := nonEmpty (raw.get "StartupWMClass".toList)
          dbusActivatable := boolean (raw.get "DBusActivatable".toList)
          tryExec := nonEmpty (raw.get "TryExec".toList) }

def isListable (entry : DesktopEntry Path) (includeHidden : Bool) : Bool :=
  includeHidden || !(entry.hidden || entry.noDisplay)

/-- An entry keeps the id and the path it was made with. -/
theorem from_raw_keeps {id : List Char} {path : Path} {raw : RawEntry}
    {locale : Option (List Char)} {entry : DesktopEntry Path}
    (typed : fromRaw id path raw locale = .ok entry) : entry.id = id ∧ entry.path = path := by
  unfold fromRaw at typed
  split at typed
  · cases typed
  · split at typed
    · cases typed
    · split at typed
      · cases typed
      · cases typed
        exact ⟨rfl, rfl⟩

end DesktopEntry

/-! ## Lines -/

theorem lines_from_line {line : List Char} (single : '\n' ∉ line) (current rest : List Char) :
    linesFrom current (line ++ '\n' :: rest) =
      stripReturn (current ++ line) :: linesFrom [] rest := by
  induction line generalizing current with
  | nil =>
    rw [List.nil_append, List.append_nil, linesFrom]
    exact if_pos rfl
  | cons c line ih =>
    obtain ⟨apart, rest_single⟩ : '\n' ≠ c ∧ '\n' ∉ line := by simpa using single
    rw [List.cons_append, linesFrom, if_neg apart.symm, ih rest_single, List.append_assoc,
      List.singleton_append]

theorem lines_from_joined {lines : List (List Char)} (single : ∀ line ∈ lines, '\n' ∉ line) :
    linesFrom [] (lines.flatMap (· ++ ['\n'])) = lines.map stripReturn := by
  induction lines with
  | nil => rfl
  | cons line rest ih =>
    rw [List.flatMap_cons, List.append_assoc, List.singleton_append,
      lines_from_line (single line List.mem_cons_self), List.nil_append,
      ih fun other member => single other (List.mem_cons_of_mem line member), List.map_cons]

/-- A carriage return at the end of a line is white space anyway. -/
theorem trim_strip_return (line : List Char) : trim (stripReturn line) = trim line := by
  unfold stripReturn
  split
  · next ends =>
    obtain ⟨front, rfl⟩ := List.getLast?_eq_some_iff.mp ends
    rw [List.dropLast_concat]
    unfold trim
    by_cases white : ∀ c ∈ front, isWhitespace c = true
    · have all : ∀ c ∈ front ++ ['\r'], isWhitespace c = true := by
        intro c member
        rcases List.mem_append.mp member with inside | last
        · exact white c inside
        · rw [List.mem_singleton.mp last]
          rfl
      rw [List.dropWhile_eq_nil_iff.mpr white, List.dropWhile_eq_nil_iff.mpr all]
    · have kept : (front ++ ['\r']).dropWhile isWhitespace =
          front.dropWhile isWhitespace ++ ['\r'] := by
        rw [List.dropWhile_append, if_neg]
        rw [List.isEmpty_iff, List.dropWhile_eq_nil_iff]
        exact white
      rw [kept, List.reverse_append, List.reverse_singleton, List.singleton_append,
        List.dropWhile_cons_of_pos (by decide)]
  · rfl

theorem line_strip_return (reading : Reading) (line : List Char) :
    reading.line (stripReturn line) = reading.line line := by
  unfold Reading.line
  rw [trim_strip_return]

/-! ## Escaped values -/

def escapeChar (c : Char) : List Char :=
  if c = backslash then [backslash, backslash]
  else if c = '\n' then [backslash, 'n']
  else if c = '\t' then [backslash, 't']
  else if c = '\r' then [backslash, 'r']
  else [c]

def escapeSpaces (spaces : List Char) : List Char := spaces.flatMap fun _ => [backslash, 's']

/-- The value as a writer puts it: with the spaces it begins and ends with escaped too. -/
def escape (value : List Char) : List Char :=
  let rest := value.dropWhile (· = ' ')
  escapeSpaces (value.takeWhile (· = ' ')) ++
    ((rest.rdropWhile (· = ' ')).flatMap escapeChar ++ escapeSpaces (rest.rtakeWhile (· = ' ')))

theorem unescape_pair (c : Char) (rest : List Char) :
    unescape (backslash :: c :: rest) = resolveEscape c ++ unescape rest := by
  rw [unescape, if_neg (not_not_intro rfl)]

theorem unescape_spaces {spaces : List Char} (all : ∀ c ∈ spaces, c = ' ') (rest : List Char) :
    unescape (escapeSpaces spaces ++ rest) = spaces ++ unescape rest := by
  induction spaces with
  | nil => rfl
  | cons c spaces ih =>
    have own := all c List.mem_cons_self
    subst own
    change unescape (backslash :: 's' :: (escapeSpaces spaces ++ rest)) = _
    rw [unescape_pair, ih fun other member => all other (List.mem_cons_of_mem _ member)]
    rfl

theorem unescape_char (c : Char) (rest : List Char) :
    unescape (escapeChar c ++ rest) = c :: unescape rest := by
  unfold escapeChar
  split
  · next slash => rw [slash]; exact unescape_pair backslash rest
  · next plain =>
    split
    · next feed => rw [feed]; exact unescape_pair 'n' rest
    · split
      · next tab => rw [tab]; exact unescape_pair 't' rest
      · split
        · next return_ => rw [return_]; exact unescape_pair 'r' rest
        · rw [List.singleton_append, unescape.eq_def]
          exact if_pos plain

theorem unescape_chars (text rest : List Char) :
    unescape (text.flatMap escapeChar ++ rest) = text ++ unescape rest := by
  induction text with
  | nil => rfl
  | cons c text ih => rw [List.flatMap_cons, List.append_assoc, unescape_char, ih, List.cons_append]

theorem unescape_escape (value : List Char) : unescape (escape value) = value := by
  have leading : ∀ c ∈ value.takeWhile (· = ' '), c = ' ' := fun c member => by
    simpa using List.mem_takeWhile_imp member
  have trailing : ∀ c ∈ (value.dropWhile (· = ' ')).rtakeWhile (· = ' '), c = ' ' :=
    fun c member => by simpa using List.mem_rtakeWhile_imp member
  have none : unescape [] = [] := rfl
  unfold escape
  dsimp only
  rw [unescape_spaces leading, unescape_chars,
    ← List.append_nil (escapeSpaces ((value.dropWhile (· = ' ')).rtakeWhile (· = ' '))),
    unescape_spaces trailing, none, List.append_nil, List.rdropWhile_append_rtakeWhile,
    List.takeWhile_append_dropWhile]

/-- The value begins and ends with no white space but what the escapes cover. -/
def Framed (value : List Char) : Prop :=
  (∀ c ∈ value.head?, isWhitespace c = true → c ∈ [' ', '\t', '\n', '\r']) ∧
    ∀ c ∈ value.getLast?, isWhitespace c = true → c ∈ [' ', '\t', '\n', '\r']

instance (value : List Char) : Decidable (Framed value) :=
  @instDecidableAnd _ _ (Option.decidableForallMem value.head?)
    (Option.decidableForallMem value.getLast?)

theorem escape_spaces_visible {spaces : List Char} :
    ∀ c ∈ escapeSpaces spaces, isWhitespace c = false := by
  intro c member
  obtain ⟨_, _, inside⟩ := List.mem_flatMap.mp member
  have checked : [backslash, 's'].all (fun c => !isWhitespace c) = true := by decide
  simpa using List.all_eq_true.mp checked c inside

/-- A character is escaped by a letter or a second backslash, or it stays as it is. -/
theorem escape_char_cases (c : Char) :
    (∃ letter ∈ [backslash, 'n', 't', 'r'], escapeChar c = [backslash, letter]) ∨
      escapeChar c = [c] ∧ c ≠ '\n' ∧ c ≠ '\t' ∧ c ≠ '\r' := by
  unfold escapeChar
  split
  · exact Or.inl ⟨backslash, by decide, rfl⟩
  · split
    · exact Or.inl ⟨'n', by decide, rfl⟩
    · next feed =>
      split
      · exact Or.inl ⟨'t', by decide, rfl⟩
      · next tab =>
        split
        · exact Or.inl ⟨'r', by decide, rfl⟩
        · next carriage => exact Or.inr ⟨rfl, feed, tab, carriage⟩

theorem letter_visible : ∀ c ∈ [backslash, 'n', 't', 'r'], isWhitespace c = false ∧ c ≠ '\n' := by
  intro c member
  simp only [List.mem_cons, List.not_mem_nil, or_false] at member
  rcases member with rfl | rfl | rfl | rfl <;> decide

theorem escape_char_visible {c : Char}
    (covered : isWhitespace c = true → c ∈ [' ', '\t', '\n', '\r']) (other : c ≠ ' ') :
    ∀ d ∈ escapeChar c, isWhitespace d = false := by
  intro d member
  rcases escape_char_cases c with ⟨letter, known, escaped⟩ | ⟨same, feed, tab, carriage⟩
  · rw [escaped] at member
    rcases List.mem_cons.mp member with rfl | last
    · exact (letter_visible backslash (by decide)).1
    · rw [List.mem_singleton.mp last]
      exact (letter_visible letter known).1
  · rw [same] at member
    rw [List.mem_singleton.mp member]
    by_contra white
    have inside := covered (by simpa using white)
    simp [other, feed, tab, carriage] at inside

theorem escape_char_ne_nil (c : Char) : escapeChar c ≠ [] := by
  rcases escape_char_cases c with ⟨_, _, escaped⟩ | ⟨same, _⟩
  · rw [escaped]
    exact List.cons_ne_nil _ _
  · rw [same]
    exact List.cons_ne_nil _ _

theorem escape_no_feed (value : List Char) : '\n' ∉ escape value := by
  have spaces : ∀ other : List Char, '\n' ∉ escapeSpaces other := by
    intro other member
    obtain ⟨_, _, inside⟩ := List.mem_flatMap.mp member
    exact absurd inside (by decide)
  intro member
  unfold escape at member
  rcases List.mem_append.mp member with lead | rest
  · exact spaces _ lead
  · rcases List.mem_append.mp rest with middle | trail
    · obtain ⟨c, _, inside⟩ := List.mem_flatMap.mp middle
      rcases escape_char_cases c with ⟨letter, known, escaped⟩ | ⟨same, feed, _⟩
      · rw [escaped] at inside
        rcases List.mem_cons.mp inside with first | last
        · exact absurd first (by decide)
        · exact (letter_visible letter known).2 (List.mem_singleton.mp last).symm
      · rw [same] at inside
        exact feed (List.mem_singleton.mp inside).symm
    · exact spaces _ trail

/-- A value is cut into the spaces it begins with, those it ends with, and what is between. -/
theorem escape_cut (value : List Char) :
    ∃ lead middle trail, value = lead ++ (middle ++ trail) ∧
      (∀ c ∈ middle.head?, c ≠ ' ') ∧ (∀ c ∈ middle.getLast?, c ≠ ' ') ∧
      escape value = escapeSpaces lead ++ (middle.flatMap escapeChar ++ escapeSpaces trail) := by
  refine ⟨value.takeWhile (· = ' '), (value.dropWhile (· = ' ')).rdropWhile (· = ' '),
    (value.dropWhile (· = ' ')).rtakeWhile (· = ' '), ?_, ?_, ?_, rfl⟩
  · rw [List.rdropWhile_append_rtakeWhile, List.takeWhile_append_dropWhile]
  · intro c first space
    have inside : c ∈ (value.dropWhile (· = ' ')).head? := by
      obtain ⟨trail, split⟩ := List.rdropWhile_prefix (fun c => decide (c = ' '))
        (value.dropWhile (· = ' '))
      rw [← split, List.head?_append, first]
      rfl
    have kept := List.head?_dropWhile_not (fun c => decide (c = ' ')) value
    rw [inside] at kept
    exact absurd space (by simpa using kept)
  · intro c last space
    have some_middle : (value.dropWhile (· = ' ')).rdropWhile (· = ' ') ≠ [] := by
      intro none
      rw [none] at last
      cases last
    have kept := List.rdropWhile_last_not (fun c => decide (c = ' ')) _ some_middle
    rw [List.getLast?_eq_getLast_of_ne_nil some_middle] at last
    rw [Option.some.inj last] at kept
    exact absurd space (by simpa using kept)

/-- An escaped value of that kind neither begins nor ends with white space. -/
theorem escape_ends {value : List Char} (framed : Framed value) :
    (∀ c ∈ (escape value).head?, isWhitespace c = false) ∧
      ∀ c ∈ (escape value).getLast?, isWhitespace c = false := by
  obtain ⟨lead, middle, trail, whole, notFirst, notLast, escaped⟩ := escape_cut value
  obtain ⟨first, last⟩ := framed
  rw [escaped]
  constructor
  · intro c begins
    cases lead with
    | cons space lead =>
      exact escape_spaces_visible c (List.mem_of_head? (l := escapeSpaces (space :: lead)) begins)
    | nil =>
      cases middle with
      | nil => exact escape_spaces_visible c (List.mem_of_head? begins)
      | cons d middle =>
        have covered := first d (by rw [whole]; rfl)
        refine escape_char_visible covered (notFirst d rfl) c ?_
        change c ∈ (escapeChar d ++ middle.flatMap escapeChar ++ escapeSpaces trail).head? at begins
        rw [List.append_assoc, List.head?_append_of_ne_nil _ (escape_char_ne_nil d)] at begins
        exact List.mem_of_head? begins
  · intro c ends
    rcases trail.eq_nil_or_concat' with rfl | ⟨_, _, rfl⟩
    · change c ∈ (escapeSpaces lead ++ (middle.flatMap escapeChar ++ [])).getLast? at ends
      rw [List.append_nil] at ends
      rcases middle.eq_nil_or_concat' with rfl | ⟨middle, d, rfl⟩
      · rw [List.flatMap_nil, List.append_nil] at ends
        exact escape_spaces_visible c (List.mem_of_getLast? ends)
      · have covered := last d (by
          rw [whole, List.append_nil, ← List.append_assoc, List.getLast?_concat]
          rfl)
        refine escape_char_visible covered (notLast d List.getLast?_concat) c ?_
        rw [List.flatMap_append, List.flatMap_singleton, ← List.append_assoc,
          List.getLast?_append_of_ne_nil _ (escape_char_ne_nil d)] at ends
        exact List.mem_of_getLast? ends
    · have some_spaces : ∀ spaces : List Char, ∀ space,
          escapeSpaces (spaces ++ [space]) ≠ [] := by
        intro spaces space none
        unfold escapeSpaces at none
        simp at none
      rw [← List.append_assoc, List.getLast?_append_of_ne_nil _ (some_spaces _ _)] at ends
      exact escape_spaces_visible c (List.mem_of_getLast? ends)

/-! ## Written files -/

/-- A key as writers use it. -/
structure Key (key : List Char) : Prop where
  nonempty : key ≠ []
  trimmed : trim key = key
  noEquals : '=' ∉ key
  noFeed : '\n' ∉ key
  noComment : key.head? ≠ some '#'
  noHeader : key.head? ≠ some '['

/-- One line of the entry group: a pair, or a comment or blank line. -/
inductive Item
  | pair (key value : List Char) (ok : Key key)
  | filler (line : List Char) (single : '\n' ∉ line)
      (ignored : trim line = [] ∨ (trim line).head? = some '#')

def Item.text : Item → List Char
  | .pair key value _ => key ++ '=' :: escape value
  | .filler line _ _ => line

def Item.written : Item → Option (List Char × List Char)
  | .pair key value _ => some (key, value)
  | .filler .. => none

def entryHeader : List Char := '[' :: (desktopEntryGroup ++ [']'])

/-- A desktop file: the entry group among any other lines that name it nowhere. Lines after it
begin with the header of another group. -/
structure Document where
  marked : Bool
  before : List (List Char)
  body : List Item
  after : List (List Char)
  single : ∀ line ∈ before ++ after, '\n' ∉ line
  foreign : ∀ line ∈ before ++ after, groupName (trim line) ≠ some desktopEntryGroup
  closed : ∀ line ∈ after.head?, (groupName (trim line)).isSome
  unmarked : marked = false → ∀ line ∈ before.head?, line.head? ≠ some byteOrderMark

namespace Document

def lines (doc : Document) : List (List Char) :=
  doc.before ++ entryHeader :: (doc.body.map Item.text ++ doc.after)

def text (doc : Document) : List Char :=
  (if doc.marked then [byteOrderMark] else []) ++ doc.lines.flatMap (· ++ ['\n'])

/-- The pairs of the entry group, in order. -/
def pairs (doc : Document) : List (List Char × List Char) := doc.body.filterMap Item.written

end Document

theorem trimmed_first {text : List Char} (trimmed : trim text = text) :
    ∀ c ∈ text.head?, isWhitespace c = false := by
  intro c first
  cases text with
  | nil => cases first
  | cons d rest =>
    cases first
    by_contra white
    have shorter : (trim (c :: rest)).length ≤ rest.length := by
      unfold trim
      rw [List.dropWhile_cons_of_pos (by simpa using white), List.length_reverse]
      refine (List.dropWhile_suffix _).length_le.trans ?_
      rw [List.length_reverse]
      exact (List.dropWhile_suffix _).length_le
    rw [trimmed, List.length_cons] at shorter
    omega

theorem split_once_joined {separator : Char} {front : List Char} (apart : separator ∉ front)
    (back : List Char) : splitOnce separator (front ++ separator :: back) = some (front, back) := by
  have kept : ∀ c ∈ front, decide (c ≠ separator) = true := by
    intro c member
    refine decide_eq_true fun same => apart ?_
    rw [← same]
    exact member
  unfold splitOnce
  rw [List.dropWhile_append_of_pos kept, List.takeWhile_append_of_pos kept,
    List.dropWhile_cons_of_neg (by simp), List.takeWhile_cons_of_neg (by simp), List.append_nil]

/-- A pair that was written is read as it was. -/
theorem line_pair {reading : Reading} (inside : reading.inEntryGroup = true) {key value : List Char}
    (ok : Key key) (framed : Framed value) :
    reading.line (Item.pair key value ok).text =
      { reading with values := reading.values ++ [(key, value)] } := by
  obtain ⟨begins, ends⟩ := escape_ends framed
  have filled : (key ++ '=' :: escape value).head? = key.head? :=
    List.head?_append_of_ne_nil _ ok.nonempty
  have whole : trim (key ++ '=' :: escape value) = key ++ '=' :: escape value := by
    refine trim_of_ends ?_ fun c last => ?_
    · rw [filled]
      exact trimmed_first ok.trimmed
    · rw [List.getLast?_append_of_ne_nil _ (List.cons_ne_nil _ _), Option.mem_def,
        List.getLast?_cons] at last
      cases tail : (escape value).getLast? with
      | none =>
        rw [tail] at last
        cases last
        rfl
      | some d =>
        rw [tail] at last
        cases last
        exact ends _ tail
  have pair : ¬ (key ++ '=' :: escape value = [] ∨
      (key ++ '=' :: escape value).head? = some '#') := by
    rw [filled]
    rintro (none | comment)
    · exact ok.nonempty (List.append_eq_nil_iff.mp none).1
    · exact ok.noComment comment
  have noGroup : groupName (key ++ '=' :: escape value) = none := by
    unfold groupName
    split
    · next rest header =>
      rw [header] at filled
      exact absurd filled.symm ok.noHeader
    · rfl
  have visible : trim (escape value) = escape value := trim_of_ends begins ends
  have text : (Item.pair key value ok).text = key ++ '=' :: escape value := rfl
  unfold Reading.line
  rw [text, whole]
  dsimp only
  rw [if_neg pair, noGroup]
  dsimp only
  rw [if_pos inside, split_once_joined ok.noEquals]
  dsimp only
  rw [ok.trimmed, if_neg ok.nonempty, visible, unescape_escape]

/-- Outside the entry group every line is skipped that does not begin it. -/
theorem line_foreign {reading : Reading} (outside : reading.inEntryGroup = false) {line : List Char}
    (foreign : groupName (trim line) ≠ some desktopEntryGroup) : reading.line line = reading := by
  unfold Reading.line
  dsimp only
  split
  · rfl
  · cases header : groupName (trim line) with
    | none =>
      dsimp only
      rw [outside]
      rfl
    | some group =>
      have other : group ≠ desktopEntryGroup := by
        rintro rfl
        exact foreign header
      obtain ⟨values, inEntryGroup, sawEntryGroup⟩ := reading
      cases outside
      simp [other]

theorem fold_foreign {reading : Reading} (outside : reading.inEntryGroup = false)
    {lines : List (List Char)}
    (foreign : ∀ line ∈ lines, groupName (trim line) ≠ some desktopEntryGroup) :
    lines.foldl Reading.line reading = reading := by
  induction lines with
  | nil => rfl
  | cons line rest ih =>
    rw [List.foldl_cons, line_foreign outside (foreign line List.mem_cons_self)]
    exact ih fun other member => foreign other (List.mem_cons_of_mem line member)

theorem fold_body (body : List Item) {reading : Reading} (inside : reading.inEntryGroup = true)
    (framed : ∀ pair ∈ body.filterMap Item.written, Framed pair.2) :
    (body.map Item.text).foldl Reading.line reading =
      { reading with values := reading.values ++ body.filterMap Item.written } := by
  induction body generalizing reading with
  | nil => rw [List.filterMap_nil, List.append_nil]; rfl
  | cons item rest ih =>
    rw [List.map_cons, List.foldl_cons]
    cases item with
    | pair key value ok =>
      have own : Framed value := framed (key, value) List.mem_cons_self
      have others : ∀ pair ∈ rest.filterMap Item.written, Framed pair.2 :=
        fun pair member => framed pair (List.mem_cons_of_mem _ member)
      rw [line_pair inside ok own, ih (by exact inside) others]
      simp [Item.written]
    | filler line single ignored =>
      have skipped : reading.line line = reading := by
        unfold Reading.line
        exact if_pos ignored
      change List.foldl Reading.line (reading.line line) _ = _
      rw [skipped, ih inside fun pair member => framed pair member]
      rfl

theorem header_line {reading : Reading} :
    reading.line entryHeader = { reading with inEntryGroup := true, sawEntryGroup := true } := by
  have header : groupName (trim entryHeader) = some desktopEntryGroup := by decide
  have bare : ¬ (trim entryHeader = [] ∨ (trim entryHeader).head? = some '#') := by decide
  unfold Reading.line
  dsimp only
  rw [if_neg bare, header]
  simp

/-- The header of another group ends the entry group. -/
theorem line_closed {reading : Reading} {line : List Char}
    (closed : (groupName (trim line)).isSome)
    (foreign : groupName (trim line) ≠ some desktopEntryGroup) :
    reading.line line = { reading with inEntryGroup := false } := by
  obtain ⟨group, header⟩ := Option.isSome_iff_exists.mp closed
  have other : group ≠ desktopEntryGroup := by
    rintro rfl
    exact foreign header
  have bare : ¬ (trim line = [] ∨ (trim line).head? = some '#') := by
    rintro (none | comment)
    · rw [none] at header
      cases header
    · obtain ⟨rest, begins⟩ := List.head?_eq_some_iff.mp comment
      rw [begins] at header
      cases header
  unfold Reading.line
  dsimp only
  rw [if_neg bare, header]
  simp [other]

theorem fold_after (reading : Reading) {lines : List (List Char)}
    (foreign : ∀ line ∈ lines, groupName (trim line) ≠ some desktopEntryGroup)
    (closed : ∀ line ∈ lines.head?, (groupName (trim line)).isSome) :
    (lines.foldl Reading.line reading).values = reading.values ∧
      (lines.foldl Reading.line reading).sawEntryGroup = reading.sawEntryGroup := by
  cases lines with
  | nil => exact ⟨rfl, rfl⟩
  | cons line rest =>
    rw [List.foldl_cons, line_closed (closed line rfl) (foreign line List.mem_cons_self),
      fold_foreign rfl fun other member => foreign other (List.mem_cons_of_mem line member)]
    exact ⟨rfl, rfl⟩

theorem item_single (item : Item) : '\n' ∉ item.text := by
  cases item with
  | pair key value ok =>
    change '\n' ∉ key ++ '=' :: escape value
    rw [List.mem_append, List.mem_cons]
    rintro (inKey | equals | inValue)
    · exact ok.noFeed inKey
    · exact absurd equals (by decide)
    · exact escape_no_feed value inValue
  | filler line single _ => exact single

theorem document_single (doc : Document) : ∀ line ∈ doc.lines, '\n' ∉ line := by
  intro line member
  rcases List.mem_append.mp member with before | rest
  · exact doc.single line (List.mem_append_left _ before)
  · rcases List.mem_cons.mp rest with rfl | rest
    · decide
    · rcases List.mem_append.mp rest with body | after
      · obtain ⟨item, _, rfl⟩ := List.mem_map.mp body
        exact item_single item
      · exact doc.single line (List.mem_append_right _ after)

/-- The mark at the start of a file is no part of its first line. -/
theorem strip_mark_text (doc : Document) :
    stripMark doc.text = doc.lines.flatMap (· ++ ['\n']) := by
  unfold Document.text stripMark
  cases marked : doc.marked with
  | true => rfl
  | false =>
    rw [if_neg Bool.false_ne_true, List.nil_append, if_neg]
    intro first
    unfold Document.lines at first
    cases lines : doc.before with
    | nil =>
      rw [lines] at first
      exact absurd (Option.some.inj first) (by decide)
    | cons line rest =>
      have unmarked := doc.unmarked marked line (by rw [lines]; rfl)
      rw [lines] at first
      cases line with
      | nil => exact absurd (Option.some.inj first) (by decide)
      | cons c line => exact unmarked first

/-- The pairs of a written entry group are read back when every value is framed by nothing but
what the escapes cover. -/
theorem parse_str_written (doc : Document) (framed : ∀ pair ∈ doc.pairs, Framed pair.2) :
    parseStr doc.text = .ok ⟨doc.pairs⟩ := by
  have before : ∀ line ∈ doc.before, groupName (trim line) ≠ some desktopEntryGroup :=
    fun line member => doc.foreign line (List.mem_append_left _ member)
  have after : ∀ line ∈ doc.after, groupName (trim line) ≠ some desktopEntryGroup :=
    fun line member => doc.foreign line (List.mem_append_right _ member)
  have returns : ∀ reading line, Reading.line reading (stripReturn line) = reading.line line :=
    line_strip_return
  have read : (doc.lines.map stripReturn).foldl Reading.line .start =
      doc.after.foldl Reading.line ⟨doc.pairs, true, true⟩ := by
    rw [List.foldl_map]
    simp only [returns]
    unfold Document.lines
    rw [List.foldl_append, fold_foreign rfl before, List.foldl_cons, header_line,
      List.foldl_append, fold_body doc.body rfl framed]
    rfl
  obtain ⟨values, saw⟩ := fold_after ⟨doc.pairs, true, true⟩ after doc.closed
  unfold parseStr
  rw [strip_mark_text, lines_from_joined (document_single doc), read]
  dsimp only
  rw [saw, values]
  rfl

/-- A file with a comment, an entry of one pair and an action. -/
def editorFile (value : List Char) : Document where
  marked := true
  before := ["# an editor".toList, []]
  body := [.pair "Name".toList value (by constructor <;> decide),
    .filler " # the end".toList (by decide) (by decide)]
  after := ["[Desktop Action new]".toList, "Name=New".toList]
  single := by decide
  foreign := by decide
  closed := by decide
  unmarked := by decide

theorem parse_str_written_editor :
    parseStr (editorFile " a\tb=c ".toList).text = .ok ⟨[("Name".toList, " a\tb=c ".toList)]⟩ :=
  parse_str_written (editorFile " a\tb=c ".toList) (by decide)

/-- An ideographic space in front of a value is trimmed away. -/
theorem ideographic_space_lost :
    ¬ ∀ doc : Document, parseStr doc.text = .ok ⟨doc.pairs⟩ := by
  intro all
  have lost : parseStr (editorFile [Char.ofNat 0x3000, 'x']).text =
      .ok ⟨[("Name".toList, ['x'])]⟩ := by decide
  rw [all] at lost
  exact absurd lost (by decide)

end ADesk.Registry.Parser
