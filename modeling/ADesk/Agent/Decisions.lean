/- ADesk/Agent/Decisions
   digest: The decision in an answer of the model: code fences and prose around a JSON object, and
   when the decision that is written in it is read. -/

import ADesk.Agent.Errors
import ADesk.Compositor.Command
import ADesk.Foundation.Markers

set_option autoImplicit false

namespace ADesk.Agent.Decisions

open ADesk.Agent.Errors (ProviderError)
open ADesk.Compositor.Command (Button)
open ADesk.Compositor.Keys (isWhitespace trim)
open ADesk.Core.Event (Position)
open ADesk.Core.Geometry (Rect)
open ADesk.Core.Ids (ActionId AppId WindowId)
open ADesk.Foundation.Markers

/-! ## Decisions -/

inductive ObserveCondition
  | quiet (quietMs : ℕ)
  | change
  | timeout
  deriving DecidableEq

/-- What the agent asks the runtime to do. Its fractions are finite, and rationals here. -/
inductive AgentDecision
  | listApps (query : Option String)
  | listWindows
  | getWindow (windowId : WindowId)
  | launchApp (appId : AppId) (args : List String)
  | activateWindow (windowId : WindowId)
  | closeWindow (windowId : WindowId)
  | capture (windowId : WindowId) (region : Option Rect) (maxDimension : Option ℕ)
  | observe (windowId : Option WindowId) (afterAction : Option ActionId)
      (until_ : ObserveCondition) (timeoutMs : Option ℕ) (includeImage : Option Bool)
      (maxDimension : Option ℕ) (region : Option Rect)
  | wait (windowId : Option WindowId) (until_ : ObserveCondition) (timeoutMs : Option ℕ)
  | accessibilityTree (windowId : Option WindowId) (maxNodes : Option ℕ)
  | findAccessible (windowId : Option WindowId)
      (role name nameContains valueContains : Option String) (maxResults : Option ℕ)
  | invokeAccessibleAction (nodeId : ℕ) (action : Option String)
  | click (windowId : WindowId) (position : Position) (button : Button) (count : ℕ)
  | type (windowId : Option WindowId) (text : String)
  | keypress (windowId : Option WindowId) (keys : List String)
  | scroll (windowId : WindowId) (position : Position) (dx dy : ℚ)
  | finish (success : Bool) (summary : String)
  deriving DecidableEq

/-! ## Reading an answer -/

def fence : List Char := "```".toList

/-- The text inside a leading code fence; one that is not closed reaches to the end. -/
def stripCodeFence (text : List Char) : List Char :=
  match text.dropPrefix? fence with
  | none => text
  | some rest =>
    -- Drop the language tag on the fence line.
    let body := match rest.dropWhile (· ≠ '\n') with
      | [] => rest
      | _ :: body => body
    match beforeLast fence body with
    | some inner => trim inner
    | none => trim body

/-- What reaches from the first opening brace to the last closing one behind it. -/
def extractJsonObject (text : List Char) : Option (List Char) :=
  let object := (text.dropWhile (· ≠ '{')).rdropWhile (· ≠ '}')
  if object = [] then none else some object

def truncate (text : List Char) (maxChars : ℕ) (marker : String) : String :=
  if text.length ≤ maxChars then String.ofList text
  else String.ofList (text.take maxChars) ++ marker

def elisionMarker : String := "…"

/-- The decision in an answer, as `fromStr` reads it. -/
def parseDecision (fromStr : List Char → Except String AgentDecision) (content : List Char) :
    Except ProviderError AgentDecision :=
  let trimmed := trim content
  if trimmed = [] then .error (.invalidResponse "empty response content")
  else
    let unfenced := stripCodeFence trimmed
    match fromStr unfenced with
    | .ok decision => .ok decision
    | .error unfencedError =>
      match extractJsonObject unfenced with
      | some object =>
        match fromStr object with
        | .ok decision => .ok decision
        | .error err =>
          .error (.invalidResponse s!"{err} (content: {truncate trimmed 200 elisionMarker})")
      | none =>
        .error (.invalidResponse
          s!"{unfencedError} (content: {truncate trimmed 200 elisionMarker})")

/-! ## What is written around a decision -/

/-- The reading of decisions from JSON, and the texts in which one is written. -/
structure SerdeJson where
  fromStr : List Char → Except String AgentDecision
  Writes : List Char → AgentDecision → Prop

def NoBraces (text : List Char) : Prop := '{' ∉ text ∧ '}' ∉ text

def Blank (text : List Char) : Prop := ∀ c ∈ text, isWhitespace c = true

/-- A decision is written as one object and read back from it. A text around the object is not
overlooked: no other decision is read from the whole. -/
structure SerdeJson.Documented (serde : SerdeJson) : Prop where
  object : ∀ {json decision}, serde.Writes json decision →
    ∃ members, json = '{' :: (members ++ ['}'])
  reads : ∀ {json decision}, serde.Writes json decision → serde.fromStr json = .ok decision
  whole : ∀ {json decision}, serde.Writes json decision →
    ∀ {before after}, NoBraces before → NoBraces after →
      ∀ {other}, serde.fromStr (before ++ json ++ after) = .ok other → other = decision

inductive Wrapping
  | none
  | fenced (tag above below : List Char)
  | prose (before after : List Char)

def Wrapping.text (json : List Char) : Wrapping → List Char
  | .none => json
  | .fenced tag above below => fence ++ (tag ++ '\n' :: (above ++ json ++ below ++ fence))
  | .prose before after => before ++ json ++ after

/-- The tag is on a line of its own, and prose has no braces. -/
def Wrapping.WellFormed : Wrapping → Prop
  | .none => True
  | .fenced tag above below => '\n' ∉ tag ∧ Blank above ∧ Blank below
  | .prose before after => NoBraces before ∧ NoBraces after

/-- Prose that begins with a fence, and what of it is left in front of the object when the fence
line is dropped: the line ends in front of the object, or the text has no further line. -/
def Opened (before json after inner : List Char) : Prop :=
  (∃ tag, before.dropWhile isWhitespace = fence ++ (tag ++ '\n' :: inner) ∧ '\n' ∉ tag) ∨
    before.dropWhile isWhitespace = fence ++ inner ∧
      '\n' ∉ inner ∧ '\n' ∉ json ∧ '\n' ∉ after.rdropWhile isWhitespace

/-- Prose does not begin with a fence, or with one that is closed behind the object or nowhere. -/
def Wrapping.Clear (json : List Char) : Wrapping → Prop
  | .none | .fenced .. => True
  | .prose before after =>
    ¬ fence <+: before.dropWhile isWhitespace ∨
      ∃ inner, Opened before json after inner ∧
        (fence <:+: after ∨ ¬ fence <:+: inner ∧ ¬ fence <:+: json)

/-! ## White space around a text -/

/-- The text begins and ends with no white space. -/
def Solid (text : List Char) : Prop :=
  ∃ first middle last, text = first :: (middle ++ [last]) ∧
    isWhitespace first = false ∧ isWhitespace last = false

theorem trim_around {text : List Char} (solid : Solid text) (before after : List Char) :
    trim (before ++ text ++ after) =
      before.dropWhile isWhitespace ++ text ++ after.rdropWhile isWhitespace := by
  obtain ⟨first, middle, last, rfl, begins, ends⟩ := solid
  have cut : before ++ first :: (middle ++ [last]) ++ after =
      before ++ first :: (middle ++ last :: after) := by simp
  change ((before ++ first :: (middle ++ [last]) ++ after).dropWhile isWhitespace).rdropWhile
    isWhitespace = _
  rw [cut, drop_before begins, ← List.cons_append, ← List.append_assoc, drop_behind ends]
  simp

theorem trim_blank {text : List Char} (solid : Solid text) {before after : List Char}
    (above : Blank before) (below : Blank after) : trim (before ++ text ++ after) = text := by
  rw [trim_around solid, List.dropWhile_eq_nil_iff.mpr above,
    List.rdropWhile_eq_nil_iff.mpr below, List.nil_append, List.append_nil]

theorem object_solid (members : List Char) : Solid ('{' :: (members ++ ['}'])) :=
  ⟨'{', members, '}', rfl, by decide, by decide⟩

theorem fenced_solid (inside : List Char) : Solid (fence ++ (inside ++ fence)) :=
  ⟨'`', '`' :: '`' :: (inside ++ ['`', '`']), '`', by simp [fence], by decide, by decide⟩

/-- White space around an answer does not matter. -/
theorem trim_outside {lead trail : List Char} (above : Blank lead) (below : Blank trail)
    (text : List Char) : trim (lead ++ text ++ trail) = trim text := by
  have back : ∀ text : List Char, (text ++ trail).rdropWhile isWhitespace =
      text.rdropWhile isWhitespace := by
    intro text
    unfold List.rdropWhile
    rw [List.reverse_append, List.dropWhile_append_of_pos]
    exact fun c member => below c (List.mem_reverse.mp member)
  change ((lead ++ text ++ trail).dropWhile isWhitespace).rdropWhile isWhitespace =
    (text.dropWhile isWhitespace).rdropWhile isWhitespace
  rw [List.append_assoc, List.dropWhile_append_of_pos above, List.dropWhile_append]
  split
  · next empty =>
    rw [List.isEmpty_iff.mp empty, List.dropWhile_eq_nil_iff.mpr below]
  · rw [back]

/-! ## The object in a text -/

theorem NoBraces.of_subset {text part : List Char} (none : NoBraces text) (inside : part ⊆ text) :
    NoBraces part :=
  ⟨fun brace => none.1 (inside brace), fun brace => none.2 (inside brace)⟩

theorem extract_object {before after : List Char} (clear : NoBraces before)
    (free : NoBraces after) (members : List Char) :
    extractJsonObject (before ++ '{' :: (members ++ ['}']) ++ after) =
      some ('{' :: (members ++ ['}'])) := by
  have cut : before ++ '{' :: (members ++ ['}']) ++ after =
      before ++ '{' :: (members ++ '}' :: after) := by simp
  unfold extractJsonObject
  rw [cut, drop_before (by decide), (drop_absent clear.1).1, List.nil_append,
    ← List.cons_append, drop_behind (by decide), (drop_absent free.2).2]
  simp

variable {serde : SerdeJson} {json : List Char} {decision : AgentDecision}

/-- What is left of the answer when a fence is stripped holds the object and no other brace. -/
theorem parse_unfenced (documented : serde.Documented) (written : serde.Writes json decision)
    {content before after : List Char} (clear : NoBraces before) (free : NoBraces after)
    (unfenced : stripCodeFence (trim content) = before ++ json ++ after) :
    parseDecision serde.fromStr content = .ok decision := by
  obtain ⟨members, object⟩ := documented.object written
  have nonempty : trim content ≠ [] := by
    intro empty
    rw [empty, object] at unfenced
    have same : ([] : List Char) = before ++ '{' :: (members ++ ['}']) ++ after := unfenced
    simp at same
  have extracted := extract_object clear free members
  rw [← object] at extracted
  unfold parseDecision
  dsimp only
  rw [if_neg nonempty, unfenced]
  cases whole : serde.fromStr (before ++ json ++ after) with
  | ok other => rw [documented.whole written clear free whole]
  | error unfencedError =>
    dsimp only
    rw [extracted]
    dsimp only
    rw [documented.reads written]

/-! ## Fences -/

theorem fence_marked : fence ≠ [] := by decide

theorem fence_apart : '{' ∉ fence ∧ '}' ∉ fence := by decide

theorem strip_plain {text : List Char} (plain : ¬ fence <+: text) : stripCodeFence text = text := by
  unfold stripCodeFence
  cases dropped : text.dropPrefix? fence with
  | none => rfl
  | some rest =>
    obtain ⟨begins, whole, same⟩ := List.dropPrefix?_eq_some_iff.mp dropped
    refine absurd ?_ plain
    rw [whole, eq_of_beq same]
    exact List.prefix_append fence rest

theorem strip_line {tag : List Char} (line : '\n' ∉ tag) (body : List Char) :
    stripCodeFence (fence ++ (tag ++ '\n' :: body)) =
      trim ((beforeLast fence body).getD body) := by
  unfold stripCodeFence
  rw [List.dropPrefix?_append_of_beq _ (BEq.refl fence)]
  dsimp only
  rw [drop_before (by decide), (drop_absent line).1, List.nil_append]
  dsimp only
  cases beforeLast fence body <;> rfl

theorem strip_single {body : List Char} (single : '\n' ∉ body) :
    stripCodeFence (fence ++ body) = trim ((beforeLast fence body).getD body) := by
  unfold stripCodeFence
  rw [List.dropPrefix?_append_of_beq _ (BEq.refl fence)]
  dsimp only
  rw [(drop_absent single).1]
  cases beforeLast fence body <;> rfl

theorem fence_kept {after : List Char} (closed : fence <:+: after) :
    fence <:+: after.rdropWhile isWhitespace := by
  obtain ⟨front, back, rfl⟩ := closed
  have cut : front ++ fence ++ back = (front ++ ['`', '`']) ++ '`' :: back := by simp [fence]
  rw [cut, drop_behind (by decide)]
  exact ⟨front, back.rdropWhile isWhitespace, by simp [fence]⟩

/-- The last fence of the text behind an opening one is not in the object, nor in front of it. -/
theorem cut_body (inner : List Char) {after : List Char} (members : List Char)
    (clear : fence <:+: after ∨
      ¬ fence <:+: inner ∧ ¬ fence <:+: '{' :: (members ++ ['}'])) :
    ∃ back, back <+: after ∧
      (beforeLast fence (inner ++ '{' :: (members ++ ['}']) ++ after)).getD
        (inner ++ '{' :: (members ++ ['}']) ++ after) =
          inner ++ '{' :: (members ++ ['}']) ++ back := by
  cases last : beforeLast fence after with
  | some back =>
    refine ⟨back, before_last_prefix last, ?_⟩
    rw [before_last_append last]
    rfl
  | none =>
    have plain := (before_last_none_iff fence_marked).mp last
    obtain ⟨front, object⟩ := clear.resolve_left plain
    have nowhere : beforeLast fence (inner ++ '{' :: (members ++ ['}']) ++ after) = none := by
      rw [before_last_none_iff fence_marked]
      intro inside
      have cut : inner ++ '{' :: (members ++ ['}']) ++ after =
          inner ++ '{' :: (members ++ '}' :: after) := by simp
      rw [cut] at inside
      rcases infix_across fence_marked fence_apart.1 inside with early | inside
      · exact front early
      · rcases infix_across fence_marked fence_apart.2 inside with own | late
        · refine object (own.trans ⟨['{'], ['}'], ?_⟩)
          simp
        · exact plain late
    refine ⟨after, List.prefix_refl after, ?_⟩
    rw [nowhere]
    rfl

/-- What is left of an answer that begins with a fence. -/
theorem strip_opened {before after inner : List Char} (members : List Char)
    (opened : Opened before ('{' :: (members ++ ['}'])) after inner)
    (clear : fence <:+: after ∨ ¬ fence <:+: inner ∧ ¬ fence <:+: '{' :: (members ++ ['}'])) :
    ∃ front back, front ⊆ before ∧ back ⊆ after ∧
      stripCodeFence (before.dropWhile isWhitespace ++ '{' :: (members ++ ['}']) ++
        after.rdropWhile isWhitespace) = front ++ '{' :: (members ++ ['}']) ++ back := by
  obtain ⟨back, inside, cut⟩ := cut_body inner members (clear.imp_left fence_kept)
  have stripped : inner ⊆ before ∧
      stripCodeFence (before.dropWhile isWhitespace ++ '{' :: (members ++ ['}']) ++
        after.rdropWhile isWhitespace) = trim (inner ++ '{' :: (members ++ ['}']) ++ back) := by
    have drops : before.dropWhile isWhitespace ⊆ before :=
      (List.dropWhile_suffix isWhitespace).subset
    rcases opened with ⟨tag, begins, line⟩ | ⟨begins, single, object, behind⟩
    · rw [begins] at drops ⊢
      refine ⟨fun c member => drops (by simp [member]), ?_⟩
      have shape : fence ++ (tag ++ '\n' :: inner) ++ '{' :: (members ++ ['}']) ++
          after.rdropWhile isWhitespace = fence ++ (tag ++ '\n' ::
            (inner ++ '{' :: (members ++ ['}']) ++ after.rdropWhile isWhitespace)) := by simp
      rw [shape, strip_line line, cut]
    · rw [begins] at drops ⊢
      refine ⟨fun c member => drops (by simp [member]), ?_⟩
      have shape : fence ++ inner ++ '{' :: (members ++ ['}']) ++
          after.rdropWhile isWhitespace =
            fence ++ (inner ++ '{' :: (members ++ ['}']) ++ after.rdropWhile isWhitespace) := by
        simp
      rw [shape, strip_single, cut]
      rw [List.mem_append, List.mem_append]
      exact not_or.mpr ⟨not_or.mpr ⟨single, object⟩, behind⟩
  refine ⟨inner.dropWhile isWhitespace, back.rdropWhile isWhitespace, ?_, ?_, ?_⟩
  · exact fun c member => stripped.1 ((List.dropWhile_suffix _).subset member)
  · intro c member
    have kept := (List.rdropWhile_prefix isWhitespace back).subset member
    exact (List.rdropWhile_prefix isWhitespace after).subset (inside.subset kept)
  · rw [stripped.2, trim_around (object_solid members)]

/-! ## Answers with a decision -/

/-- A decision is read from an answer, whatever is in its JSON, with no more around it than a closed
fence, or prose that leaves the object to be found. -/
theorem parse_decision_wrapped (serde : SerdeJson) (documented : serde.Documented)
    {json : List Char} {decision : AgentDecision} (written : serde.Writes json decision)
    (wrapping : Wrapping) (formed : wrapping.WellFormed) (clear : wrapping.Clear json)
    {lead trail : List Char} (above : Blank lead) (below : Blank trail) :
    parseDecision serde.fromStr (lead ++ wrapping.text json ++ trail) = .ok decision := by
  obtain ⟨members, rfl⟩ := documented.object written
  have free : NoBraces [] := ⟨List.not_mem_nil, List.not_mem_nil⟩
  have brace : ¬ fence <+: '{' :: (members ++ ['}']) := by
    intro begins
    exact absurd (prefix_front [] fence_apart.1 begins) (by decide)
  cases wrapping with
  | none =>
    refine parse_unfenced documented written free free ?_
    have text : trim (lead ++ '{' :: (members ++ ['}']) ++ trail) = _ :=
      trim_blank (object_solid members) above below
    change stripCodeFence (trim (lead ++ '{' :: (members ++ ['}']) ++ trail)) = _
    rw [text]
    exact (strip_plain brace).trans (List.append_nil _).symm
  | fenced tag inner outer =>
    obtain ⟨line, blank, blank'⟩ := formed
    refine parse_unfenced documented written free free ?_
    have shape : Wrapping.text ('{' :: (members ++ ['}'])) (.fenced tag inner outer) =
        fence ++ (tag ++ '\n' :: (inner ++ '{' :: (members ++ ['}']) ++ outer ++ fence)) := rfl
    have solid : Solid (Wrapping.text ('{' :: (members ++ ['}'])) (.fenced tag inner outer)) := by
      have whole := fenced_solid (tag ++ '\n' :: (inner ++ '{' :: (members ++ ['}']) ++ outer))
      simpa [shape] using whole
    rw [trim_blank solid above below, shape, strip_line line, before_last_end fence_marked,
      Option.getD_some, trim_blank (object_solid members) blank blank']
    exact (List.append_nil _).symm
  | prose before after =>
    obtain ⟨none_before, none_after⟩ := formed
    have text : trim (lead ++ Wrapping.text ('{' :: (members ++ ['}'])) (.prose before after) ++
        trail) = before.dropWhile isWhitespace ++ '{' :: (members ++ ['}']) ++
          after.rdropWhile isWhitespace := by
      rw [trim_outside above below]
      exact trim_around (object_solid members) before after
    rcases clear with plain | ⟨inner, opened, clear⟩
    · have front := none_before.of_subset (List.dropWhile_suffix isWhitespace).subset
      have back := none_after.of_subset (List.rdropWhile_prefix isWhitespace after).subset
      refine parse_unfenced documented written front back ?_
      rw [text]
      refine strip_plain fun begins => plain ?_
      rw [List.append_assoc] at begins
      exact prefix_front _ fence_apart.1 begins
    · obtain ⟨front, back, in_before, in_after, stripped⟩ := strip_opened members opened clear
      refine parse_unfenced documented written (none_before.of_subset in_before)
        (none_after.of_subset in_after) ?_
      rw [text, stripped]

def windowsJson : List Char := "\x7b\"op\":\"list_windows\"\x7d".toList

/-- A reading that knows one text. -/
def windowsSerde : SerdeJson where
  fromStr text :=
    if text = windowsJson then .ok .listWindows else .error "expected value at line 1 column 1"
  Writes text decision := text = windowsJson ∧ decision = .listWindows

theorem windows_documented : windowsSerde.Documented where
  object written := ⟨"\"op\":\"list_windows\"".toList, written.1⟩
  reads written := by
    rw [written.1, written.2]
    rfl
  whole written _ _ _ _ _ read := by
    change (if _ then _ else _) = _ at read
    split at read
    · cases read
      exact written.2.symm
    · cases read

theorem parse_decision_wrapped_windows :
    parseDecision windowsSerde.fromStr
      (['\n'] ++ Wrapping.text windowsJson
        (.prose "```json\n".toList "\n```\nDone.".toList) ++ []) = .ok .listWindows := by
  refine parse_decision_wrapped windowsSerde windows_documented ⟨rfl, rfl⟩
    (.prose "```json\n".toList "\n```\nDone.".toList) ?_ ?_ ?_
    (fun _ member => absurd member List.not_mem_nil)
  · exact ⟨⟨by decide, by decide⟩, by decide, by decide⟩
  · refine Or.inr ⟨[], Or.inl ⟨"json".toList, by decide, by decide⟩, Or.inl ?_⟩
    exact ⟨['\n'], "\nDone.".toList, by decide⟩
  · intro c member
    rw [List.mem_singleton.mp member]
    rfl

/-- Prose with a code block before the object is taken for the fence around it. -/
theorem code_block_first_fails :
    ¬ ∀ (serde : SerdeJson), serde.Documented → ∀ json decision, serde.Writes json decision →
      ∀ wrapping : Wrapping, wrapping.WellFormed →
        parseDecision serde.fromStr (wrapping.text json) = .ok decision := by
  intro all
  have read := all windowsSerde windows_documented windowsJson .listWindows ⟨rfl, rfl⟩
    (.prose "```sh\nls\n```\nNext: ".toList []) ⟨⟨by decide, by decide⟩, by decide, by decide⟩
  have failed : (parseDecision windowsSerde.fromStr (Wrapping.text windowsJson
      (.prose "```sh\nls\n```\nNext: ".toList []))).toOption = none := by decide +kernel
  rw [read] at failed
  cases failed

end ADesk.Agent.Decisions
