/- ADesk/Registry/Exec
   digest: Exec lines are split into arguments and their field codes expanded; quoted arguments are
   read back as they were written. -/

import Mathlib.Algebra.GroupWithZero.Nat
import Mathlib.Data.List.Basic

set_option autoImplicit false

namespace ADesk.Registry.Exec

/-! ## Tokens -/

inductive ExecError
  | unterminatedQuote (offset : ℕ)
  deriving DecidableEq

def quoteChar : Char := Char.ofNat 34
def backslash : Char := Char.ofNat 92
def backtick : Char := Char.ofNat 96

/-- The characters that a backslash escapes, inside and outside quotes alike. -/
def isEscaped (c : Char) : Bool :=
  c == quoteChar || c == backtick || c == '$' || c == backslash

/-- Space, tab, line feed, form feed and carriage return. -/
def isAsciiWhitespace (c : Char) : Bool :=
  c == ' ' || c == '\t' || c == '\n' || c == Char.ofNat 12 || c == '\r'

/-- The locals of the loop, with the byte offset of the next character. -/
structure Scan where
  tokens : List (List Char)
  current : List Char
  -- set by the first character of a token or by an opening quote
  started : Bool
  quoteOffset : Option ℕ
  index : ℕ
  deriving DecidableEq

namespace Scan

def start : Scan := ⟨[], [], false, none, 0⟩

def push (scan : Scan) (read pushed : List Char) : Scan :=
  { scan with
    current := scan.current ++ pushed
    started := true
    index := scan.index + (read.map Char.utf8Size).sum }

def quote (scan : Scan) : Scan :=
  { scan with
    quoteOffset := if scan.quoteOffset.isSome then none else some scan.index
    started := true
    index := scan.index + quoteChar.utf8Size }

def separate (scan : Scan) (read : Char) : Scan :=
  { scan with
    tokens := if scan.started then scan.tokens ++ [scan.current] else scan.tokens
    current := if scan.started then [] else scan.current
    started := false
    index := scan.index + read.utf8Size }

end Scan

/-- The loop over the characters, with one of lookahead. -/
def scanChars (scan : Scan) : List Char → Scan
  | [] => scan
  | ch :: rest =>
    if ch = quoteChar then scanChars scan.quote rest
    else if ch = backslash then
      match rest with
      | next :: after =>
        if isEscaped next then scanChars (scan.push [ch, next] [next]) after
        else scanChars (scan.push [ch] [ch]) (next :: after)
      | [] => scan.push [ch] [ch]
    else if scan.quoteOffset.isNone && isAsciiWhitespace ch then scanChars (scan.separate ch) rest
    else scanChars (scan.push [ch] [ch]) rest

/-- What remains after the loop. -/
def Scan.finish (scan : Scan) : Except ExecError (List (List Char)) :=
  match scan.quoteOffset with
  | some offset => .error (.unterminatedQuote offset)
  | none => .ok (if scan.started then scan.tokens ++ [scan.current] else scan.tokens)

/-- Splits an `Exec` value into arguments: quotes removed, escapes resolved. -/
def tokenize (exec : List Char) : Except ExecError (List (List Char)) :=
  (scanChars .start exec).finish

/-! ## Field codes -/

/-- Values substituted for field codes. -/
structure ExecContext where
  name : List Char
  icon : Option (List Char)
  -- the path as text
  desktopFile : Option (List Char)
  files : List (List Char)

/-- The codes inside an argument. -/
def expandCodes (context : ExecContext) : List Char → List Char
  | [] => []
  | '%' :: rest =>
    match rest with
    | [] => ['%']
    | 'c' :: after => context.name ++ expandCodes context after
    | 'k' :: after => context.desktopFile.getD [] ++ expandCodes context after
    | '%' :: after => '%' :: expandCodes context after
    | other :: after =>
      if other ∈ ['d', 'D', 'n', 'N', 'v', 'm'] then expandCodes context after
      else '%' :: other :: expandCodes context after
  | ch :: rest => ch :: expandCodes context rest

/-- The arguments that one token becomes. -/
def expandToken (context : ExecContext) (token : List Char) : List (List Char) :=
  if token = [] then [[]]
  else if token = ['%', 'f'] ∨ token = ['%', 'u'] then context.files.head?.toList
  else if token = ['%', 'F'] ∨ token = ['%', 'U'] then context.files
  else if token = ['%', 'i'] then
    match context.icon with
    | some icon => ["--icon".toList, icon]
    | none => []
  else
    let expanded := expandCodes context token
    if expanded = [] then [] else [expanded]

def expandTokens (tokens : List (List Char)) (context : ExecContext) : List (List Char) :=
  tokens.flatMap (expandToken context)

/-- Tokenizes and expands in one step. -/
def expand (exec : List Char) (context : ExecContext) : Except ExecError (List (List Char)) :=
  match tokenize exec with
  | .ok tokens => .ok (expandTokens tokens context)
  | .error error => .error error

/-! ## Writing arguments -/

/-- One character inside double quotes. -/
def writeChar (c : Char) : List Char :=
  if isEscaped c then [backslash, c] else if c = '%' then ['%', '%'] else [c]

/-- An argument in double quotes. -/
def quoteArg (arg : List Char) : List Char := quoteChar :: arg.flatMap writeChar ++ [quoteChar]

/-- The pieces with white space between them. -/
inductive Joined : List (List Char) → List Char → Prop
  | nil : Joined [] []
  | single (piece : List Char) : Joined [piece] piece
  | cons {piece separator next text : List Char} {pieces : List (List Char)}
      (some : separator ≠ []) (blank : ∀ c ∈ separator, isAsciiWhitespace c = true)
      (rest : Joined (next :: pieces) text) :
      Joined (piece :: next :: pieces) (piece ++ separator ++ text)

/-- An argument whose percent signs are doubled. -/
def doubled (arg : List Char) : List Char :=
  arg.flatMap fun c => if c = '%' then ['%', '%'] else [c]

theorem doubled_cons (c : Char) (arg : List Char) :
    doubled (c :: arg) = (if c = '%' then ['%', '%'] else [c]) ++ doubled arg := rfl

/-! ## Reading them back -/

theorem Scan.push_push (scan : Scan) (read read' pushed pushed' : List Char) :
    (scan.push read pushed).push read' pushed' = scan.push (read ++ read') (pushed ++ pushed') := by
  simp [Scan.push, Nat.add_assoc]

theorem Scan.push_nil {scan : Scan} (started : scan.started = true) : scan.push [] [] = scan := by
  obtain ⟨tokens, current, _, quoteOffset, index⟩ := scan
  cases started
  simp [Scan.push]

theorem scan_quote (scan : Scan) (rest : List Char) :
    scanChars scan (quoteChar :: rest) = scanChars scan.quote rest := by
  rw [scanChars.eq_def]
  simp only [if_true]

theorem scan_escape {c : Char} (escaped : isEscaped c = true) (scan : Scan) (rest : List Char) :
    scanChars scan (backslash :: c :: rest) = scanChars (scan.push [backslash, c] [c]) rest := by
  rw [scanChars.eq_def scan]
  simp only
  rw [if_neg (by decide), if_pos trivial, if_pos escaped]

theorem scan_plain {c : Char} (plain : isEscaped c = false) {scan : Scan}
    (quoted : scan.quoteOffset.isNone = false) (rest : List Char) :
    scanChars scan (c :: rest) = scanChars (scan.push [c] [c]) rest := by
  simp only [isEscaped, Bool.or_eq_false_iff, beq_eq_false_iff_ne] at plain
  obtain ⟨⟨⟨notQuote, -⟩, -⟩, notMark⟩ := plain
  rw [scanChars.eq_def]
  simp only
  rw [if_neg notQuote, if_neg notMark, quoted, Bool.false_and, if_neg Bool.false_ne_true]

/-- Inside quotes a written character is read as itself, a percent sign as two. -/
theorem scan_written {scan : Scan} (quoted : scan.quoteOffset.isNone = false) (c : Char)
    (rest : List Char) :
    scanChars scan (writeChar c ++ rest) =
      scanChars (scan.push (writeChar c) (doubled [c])) rest := by
  unfold writeChar
  cases escaped : isEscaped c with
  | true =>
    have plain : c ≠ '%' := by
      rintro rfl
      exact absurd escaped (by decide)
    have single : doubled [c] = [c] := by rw [doubled, List.flatMap_singleton, if_neg plain]
    rw [if_pos rfl, single]
    exact scan_escape escaped scan rest
  | false =>
    rw [if_neg Bool.false_ne_true, doubled, List.flatMap_singleton]
    by_cases percent : c = '%'
    · subst percent
      rw [if_pos rfl]
      have pushed : (scan.push ['%'] ['%']).quoteOffset.isNone = false := quoted
      rw [List.cons_append, scan_plain escaped quoted, List.cons_append,
        scan_plain escaped pushed, Scan.push_push]
      rfl
    · rw [if_neg percent]
      exact scan_plain escaped quoted rest

theorem scan_body {scan : Scan} (quoted : scan.quoteOffset.isNone = false)
    (started : scan.started = true) (arg rest : List Char) :
    scanChars scan (arg.flatMap writeChar ++ rest) =
      scanChars (scan.push (arg.flatMap writeChar) (doubled arg)) rest := by
  induction arg generalizing scan with
  | nil =>
    rw [doubled, List.flatMap_nil, List.flatMap_nil, List.nil_append, Scan.push_nil started]
  | cons c arg ih =>
    have pushed : (scan.push (writeChar c) (doubled [c])).quoteOffset.isNone = false := quoted
    rw [List.flatMap_cons, List.append_assoc, scan_written quoted, ih pushed rfl, Scan.push_push,
      doubled_cons c arg, doubled, List.flatMap_singleton]

/-- Between two arguments. -/
def between (tokens : List (List Char)) (index : ℕ) : Scan := ⟨tokens, [], false, none, index⟩

/-- A quoted argument is read whole. -/
theorem scan_quoted (tokens : List (List Char)) (index : ℕ) (arg rest : List Char) :
    ∃ later, scanChars (between tokens index) (quoteArg arg ++ rest) =
      scanChars ⟨tokens, doubled arg, true, none, later⟩ rest := by
  refine ⟨index + quoteChar.utf8Size + ((arg.flatMap writeChar).map Char.utf8Size).sum +
    quoteChar.utf8Size, ?_⟩
  rw [quoteArg, List.cons_append, List.cons_append, List.append_assoc, scan_quote,
    scan_body rfl rfl, List.singleton_append, scan_quote]
  rfl

theorem scan_space {c : Char} (blank : isAsciiWhitespace c = true) {scan : Scan}
    (unquoted : scan.quoteOffset = none) (rest : List Char) :
    scanChars scan (c :: rest) = scanChars (scan.separate c) rest := by
  have notQuote : c ≠ quoteChar := by
    rintro rfl
    exact absurd blank (by decide)
  have notMark : c ≠ backslash := by
    rintro rfl
    exact absurd blank (by decide)
  rw [scanChars.eq_def]
  simp only
  rw [if_neg notQuote, if_neg notMark, unquoted, blank]
  rfl

/-- A run of white space between arguments yields nothing. -/
theorem scan_blank {separator : List Char} (blank : ∀ c ∈ separator, isAsciiWhitespace c = true)
    (tokens : List (List Char)) (index : ℕ) (rest : List Char) :
    ∃ later, scanChars (between tokens index) (separator ++ rest) =
      scanChars (between tokens later) rest := by
  induction separator generalizing index with
  | nil => exact ⟨index, rfl⟩
  | cons c separator ih =>
    obtain ⟨later, same⟩ := ih (fun c member => blank c (List.mem_cons_of_mem _ member))
      (index + c.utf8Size)
    refine ⟨later, ?_⟩
    rw [List.cons_append, scan_space (blank c List.mem_cons_self) rfl]
    exact same

/-- White space after an argument ends it. -/
theorem scan_separator {separator : List Char} (some : separator ≠ [])
    (blank : ∀ c ∈ separator, isAsciiWhitespace c = true) (tokens : List (List Char))
    (current : List Char) (index : ℕ) (rest : List Char) :
    ∃ later, scanChars ⟨tokens, current, true, none, index⟩ (separator ++ rest) =
      scanChars (between (tokens ++ [current]) later) rest := by
  cases separator with
  | nil => exact absurd rfl some
  | cons c separator =>
    obtain ⟨later, same⟩ := scan_blank (fun c member => blank c (List.mem_cons_of_mem _ member))
      (tokens ++ [current]) (index + c.utf8Size) rest
    refine ⟨later, ?_⟩
    rw [List.cons_append, scan_space (blank c List.mem_cons_self) rfl]
    exact same

/-- Written arguments are read back, with their percent signs doubled. -/
theorem scan_joined {args : List (List Char)} {text : List Char}
    (joined : Joined (args.map quoteArg) text) (tokens : List (List Char)) (index : ℕ) :
    (scanChars (between tokens index) text).finish = .ok (tokens ++ args.map doubled) := by
  induction args generalizing tokens index text with
  | nil =>
    cases joined
    simp [scanChars, Scan.finish, between]
  | cons arg args ih =>
    cases args with
    | nil =>
      cases joined
      obtain ⟨later, read⟩ := scan_quoted tokens index arg []
      rw [List.append_nil] at read
      rw [read]
      rfl
    | cons next args =>
      cases joined with
      | cons some blank rest =>
        obtain ⟨later, read⟩ := scan_quoted tokens index arg (_ ++ _)
        obtain ⟨after, separated⟩ := scan_separator some blank tokens (doubled arg) later _
        rw [List.append_assoc, read, separated, ih rest]
        simp

theorem tokenize_joined {args : List (List Char)} {text : List Char}
    (joined : Joined (args.map quoteArg) text) : tokenize text = .ok (args.map doubled) :=
  scan_joined joined [] 0

/-! ## Expanding them -/

theorem expand_codes_doubled (context : ExecContext) (arg : List Char) :
    expandCodes context (doubled arg) = arg := by
  induction arg with
  | nil => rfl
  | cons c arg ih =>
    rw [doubled_cons]
    by_cases percent : c = '%'
    · subst percent
      rw [if_pos rfl, List.cons_append, List.singleton_append, expandCodes, ih]
    · rw [if_neg percent, List.singleton_append, expandCodes, ih]
      exact percent

/-- No doubled argument is a field code. -/
theorem doubled_no_code {arg : List Char} {code : Char} (other : code ≠ '%') :
    doubled arg ≠ ['%', code] := by
  cases arg with
  | nil => exact List.cons_ne_nil _ _ |>.symm
  | cons c arg =>
    rw [doubled_cons]
    by_cases percent : c = '%'
    · rw [if_pos percent]
      intro same
      injection same with _ same
      injection same with same _
      exact other same.symm
    · rw [if_neg percent]
      intro same
      injection same with same _
      exact percent same

theorem expand_token_doubled (context : ExecContext) (arg : List Char) :
    expandToken context (doubled arg) = [arg] := by
  have empty : doubled arg = [] → arg = [] := by
    intro nothing
    rw [← expand_codes_doubled context arg, nothing]
    rfl
  unfold expandToken
  by_cases nothing : doubled arg = []
  · rw [if_pos nothing, empty nothing]
  · have some : arg ≠ [] := by
      rintro rfl
      exact nothing rfl
    rw [if_neg nothing,
      if_neg (not_or.mpr ⟨doubled_no_code (by decide), doubled_no_code (by decide)⟩),
      if_neg (not_or.mpr ⟨doubled_no_code (by decide), doubled_no_code (by decide)⟩),
      if_neg (doubled_no_code (by decide))]
    simp only
    rw [expand_codes_doubled, if_neg some]

/-- Arguments that are written in double quotes, with the special characters escaped, percent
signs doubled and white space in between, are expanded to themselves. -/
theorem expand_quoted (context : ExecContext) {args : List (List Char)} {text : List Char}
    (joined : Joined (args.map quoteArg) text) : expand text context = .ok args := by
  have each : expandTokens (args.map doubled) context = args := by
    rw [expandTokens, List.flatMap_map]
    simp only [expand_token_doubled]
    exact List.flatMap_singleton' args
  rw [expand, tokenize_joined joined]
  simp only
  rw [each]

/-- An argument that looks like a field code, an empty one, and one with a quote and a space. -/
theorem expand_quoted_three :
    expand (quoteArg ['%', 'f'] ++ [' ', '\t'] ++ (quoteArg [] ++ ['\n'] ++
        quoteArg ['a', quoteChar, ' ', '$'])) ⟨['n'], none, none, [['x']]⟩ =
      .ok [['%', 'f'], [], ['a', quoteChar, ' ', '$']] :=
  expand_quoted ⟨['n'], none, none, [['x']]⟩
    (.cons (List.cons_ne_nil _ _) (by simp [isAsciiWhitespace])
      (.cons (List.cons_ne_nil _ _) (by simp [isAsciiWhitespace]) (.single _)))

end ADesk.Registry.Exec
