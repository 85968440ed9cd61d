/- ADesk/A11y/OutlineRecovery
   digest: The outline of a tree gives each node back exactly when no action name breaks its list. -/

import ADesk.A11y.Outline
import ADesk.A11y.Service

set_option autoImplicit false

namespace ADesk.A11y.OutlineRecovery

open ADesk.A11y.Outline
open ADesk.A11y.Role
open ADesk.A11y.Service (projectNode projectChildren normalizeNode normalizeNodes)
open ADesk.A11y.Source (AccessibilitySource SourceNode WindowTarget)
open ADesk.Core.Accessibility
open ADesk.Core.Geometry (Rect)
open ADesk.Foundation.Scanning

/-! ## Sections -/

/-- The text is over, or goes on with a section whose key starts with one of the letters. -/
def Begins (letters : List Char) (text : List Char) : Prop :=
  text = [] ∨ ∃ letter ∈ letters, ∃ more, text = ' ' :: letter :: more

theorem Begins.section {letters text rest : List Char} {letter : Char} (begins : Begins letters rest)
    (shape : text = [] ∨ ∃ more, text = ' ' :: letter :: more) :
    Begins (letter :: letters) (text ++ rest) := by
  rcases shape with rfl | ⟨more, rfl⟩
  · rcases begins with done | ⟨other, member, more, same⟩
    · exact Or.inl done
    · exact Or.inr ⟨other, List.mem_cons_of_mem _ member, more, same⟩
  · exact Or.inr ⟨letter, List.mem_cons_self, more ++ rest, rfl⟩

/-- A key whose first letter does not come is not found. -/
theorem Begins.strip {letters text keys : List Char} {letter : Char} (begins : Begins letters text)
    (absent : letter ∉ letters) : strip (' ' :: letter :: keys) text = none := by
  rcases begins with rfl | ⟨other, member, more, rfl⟩
  · exact strip_nil (by simp)
  · exact strip_differs keys more fun same => absent (same ▸ member)

theorem list_shape {letter : Char} {keys : List Char} {key : String} (items : List (List Char))
    (same : key.toList = ' ' :: letter :: keys) :
    listSection key items = [] ∨ ∃ more, listSection key items = ' ' :: letter :: more := by
  unfold listSection
  split
  · exact Or.inl rfl
  · exact Or.inr ⟨_, by rw [same]; rfl⟩

theorem states_shape (states : List AccessibleState) :
    statesSection states = [] ∨ ∃ more, statesSection states = ' ' :: 's' :: more :=
  list_shape _ (show " states=[".toList = ' ' :: 's' :: "tates=[".toList from rfl)

theorem actions_shape (actions : List String) :
    actionsSection actions = [] ∨ ∃ more, actionsSection actions = ' ' :: 'a' :: more :=
  list_shape _ (show " actions=[".toList = ' ' :: 'a' :: "ctions=[".toList from rfl)

theorem bounds_shape (bounds : Option Rect) :
    boundsSection bounds = [] ∨ ∃ more, boundsSection bounds = ' ' :: 'b' :: more := by
  cases bounds with
  | none => exact Or.inl rfl
  | some bounds => exact Or.inr ⟨_, rfl⟩

/-! ## Each section is read back -/

theorem readQuoted_escape (raw : String) (rest : List Char) :
    readQuoted (escape raw ++ '"' :: rest) = some (raw, rest) := by
  have parts := quoting.unescape_escape raw.toList rest
  unfold readQuoted escape
  rw [show '"' = quoting.quote from rfl, parts]
  simp

theorem readValue_value (value : Option String) {rest : List Char}
    (begins : Begins ['s', 'a', 'b', 'i'] rest) :
    readValue (valueSection value ++ rest) = some (value, rest) := by
  unfold readValue
  cases value with
  | none =>
    have absent : strip " value=\"".toList (valueSection none ++ rest) = none :=
      begins.strip (by decide)
    rw [absent]
    rfl
  | some value =>
    unfold valueSection
    rw [List.append_assoc, strip_append, List.append_assoc]
    simp [readQuoted_escape]

theorem name_free (state : AccessibleState) {letter : Char} (member : letter = ',' ∨ letter = ']') :
    letter ∉ (stateName state).toList := by
  rcases member with rfl | rfl
  · cases state <;> decide
  · cases state <;> decide

theorem stateOf_name (state : AccessibleState) :
    stateOf (stateName state).toList = some state := by
  cases state <;> decide

/-- A piece is read up to the letter that ends it, or to the end of the text. -/
theorem piece_until {letter : Char} {piece rest : List Char} (free : letter ∉ piece)
    (stops : rest = [] ∨ ∃ more, rest = letter :: more) :
    (piece ++ rest).takeWhile (fun other => decide (other ≠ letter)) = piece ∧
      (piece ++ rest).dropWhile (fun other => decide (other ≠ letter)) = rest := by
  have plain : ∀ other ∈ piece, decide (other ≠ letter) = true := by
    intro other member
    rw [decide_eq_true_eq]
    exact fun same => free (same ▸ member)
  rw [List.takeWhile_append_of_pos plain, List.dropWhile_append_of_pos plain]
  rcases stops with rfl | ⟨more, rfl⟩
  · simp
  · simp

theorem readStates_states (states : List AccessibleState) {rest : List Char}
    (begins : Begins ['a', 'b', 'i'] rest) :
    readStates (statesSection states ++ rest) = some (states, rest) := by
  unfold readStates statesSection
  by_cases none' : states = []
  · subst none'
    have absent : strip " states=[".toList (listSection " states=[" [] ++ rest) = none :=
      begins.strip (by decide)
    rw [List.map_nil, absent]
    rfl
  · have some' : (states.map fun state => (stateName state).toList) ≠ [] :=
      fun empty => none' (List.map_eq_nil_iff.mp empty)
    have free : ']' ∉ [','].intercalate (states.map fun state => (stateName state).toList) := by
      refine intercalate_free (by decide) fun piece member => ?_
      obtain ⟨state, _, rfl⟩ := List.mem_map.mp member
      exact name_free state (Or.inr rfl)
    have apart : ∀ piece ∈ states.map fun state => (stateName state).toList, ',' ∉ piece := by
      intro piece member
      obtain ⟨state, _, rfl⟩ := List.mem_map.mp member
      exact name_free state (Or.inl rfl)
    obtain ⟨names, after⟩ := piece_until free (Or.inr ⟨rest, rfl⟩)
    rw [listSection, if_neg some', List.append_assoc, strip_append, List.append_assoc,
      List.singleton_append]
    simp only [names, after]
    rw [List.splitOn_intercalate ',' apart some', mapM_written fun state _ => stateOf_name state]
    rfl

theorem readActions_actions (actions : List String) {rest : List Char}
    (begins : Begins ['b', 'i'] rest) (free : ']' ∉ rest)
    (apart : ∀ action ∈ actions, ',' ∉ action.toList) :
    readActions (actionsSection actions ++ rest) = some (actions, rest) := by
  unfold readActions actionsSection
  by_cases none' : actions = []
  · subst none'
    have absent : strip " actions=[".toList (listSection " actions=[" [] ++ rest) = none :=
      begins.strip (by decide)
    rw [List.map_nil, absent]
    rfl
  · have some' : actions.map String.toList ≠ [] :=
      fun empty => none' (List.map_eq_nil_iff.mp empty)
    have pieces : ∀ piece ∈ actions.map String.toList, ',' ∉ piece := by
      intro piece member
      obtain ⟨action, inside, rfl⟩ := List.mem_map.mp member
      exact apart action inside
    rw [listSection, if_neg some', List.append_assoc, strip_append, List.append_assoc,
      List.singleton_append]
    simp only [breakLast_append _ free]
    rw [Option.map_some, List.splitOn_intercalate ',' pieces some']
    simp

theorem number_free {letter : Char} (notDigit : letter.isDigit = false) (value : ℕ) :
    letter ∉ Nat.toDigits 10 value := by
  intro member
  rw [digits_are_digits value letter member] at notDigit
  cases notDigit

/-- The numbers of a rectangle hold no letter that is neither a digit nor the sign. -/
theorem rect_free {letter : Char} (notDigit : letter.isDigit = false) (notSign : letter ≠ '-')
    (bounds : Rect) : ∀ piece ∈ numbers bounds, letter ∉ piece := by
  intro piece member
  simp only [numbers, List.mem_cons, List.not_mem_nil, or_false] at member
  rcases member with rfl | rfl | rfl | rfl
  · exact integer_free notDigit notSign _
  · exact integer_free notDigit notSign _
  · exact number_free notDigit _
  · exact number_free notDigit _

theorem readBounds_bounds (bounds : Option Rect) {rest : List Char} (begins : Begins ['i'] rest) :
    readBounds (boundsSection bounds ++ rest) = some (bounds, rest) := by
  unfold readBounds
  cases bounds with
  | none =>
    have absent : strip " bounds=".toList (boundsSection none ++ rest) = none :=
      begins.strip (by decide)
    rw [absent]
    rfl
  | some bounds =>
    unfold boundsSection
    rw [List.append_assoc, strip_append]
    have spaceless : ∀ piece ∈ numbers bounds, ' ' ∉ piece :=
      rect_free (by decide) (by decide) bounds
    have commaless : ∀ piece ∈ numbers bounds, ',' ∉ piece :=
      rect_free (by decide) (by decide) bounds
    have free : ' ' ∉ [','].intercalate (numbers bounds) := intercalate_free (by decide) spaceless
    have apart := List.splitOn_intercalate ',' commaless (by simp [numbers])
    have stops : rest = [] ∨ ∃ more, rest = ' ' :: more := by
      rcases begins with done | ⟨letter, _, more, same⟩
      · exact Or.inl done
      · exact Or.inr ⟨_, same⟩
    have shown : readRect (numbers bounds) = some bounds := by
      simp [readRect, numbers, integer_show, natural_digits]
    obtain ⟨here, after⟩ := piece_until free stops
    simp only [here, after, apart, shown, Option.map_some]

theorem readId_id (id : Option AccessibleId) :
    readId ((id.map idSection).getD []) = some id := by
  cases id with
  | none => rfl
  | some id =>
    unfold readId idSection
    simp only [Option.map_some, Option.getD_some, strip_append, natural_digits]

/-! ## A line is read back -/

theorem alphanum_toLower {letter : Char} (alphanum : letter.isAlphanum = true) :
    letter.toLower.isAlphanum = true := by
  unfold Char.toLower
  split
  · next upper =>
    have low : 65 ≤ letter.toNat := upper.1
    have high : letter.toNat ≤ 90 := upper.2
    refine Bool.or_eq_true_iff.mpr (Or.inl (Bool.or_eq_true_iff.mpr (Or.inr ?_)))
    change (decide _ && decide _) = true
    simp only [Bool.and_eq_true, decide_eq_true_eq, ge_iff_le, UInt32.le_iff_toNat_le]
    simp
    omega
  · exact alphanum

theorem take_letters {state : Normalizer} (letters : ∀ letter ∈ state.out, RoleChar letter)
    (ch : Char) : ∀ letter ∈ (state.take ch).out, RoleChar letter := by
  unfold Normalizer.take
  split
  · next alphanum =>
    intro letter member
    rcases List.mem_append.mp member with before | new
    · split at before
      · rcases List.mem_append.mp before with old | separator
        · exact letters letter old
        · exact Or.inr (List.mem_singleton.mp separator)
      · exact letters letter before
    · rw [List.mem_singleton.mp new]
      exact Or.inl (alphanum_toLower alphanum)
  · exact letters

theorem normalized_letters (raw : String) :
    ∀ letter ∈ (normalizeRole raw).toList, RoleChar letter := by
  have kept : ∀ (text : List Char) (state : Normalizer),
      (∀ letter ∈ state.out, RoleChar letter) →
        ∀ letter ∈ (text.foldl Normalizer.take state).out, RoleChar letter := by
    intro text
    induction text with
    | nil => exact fun _ letters => letters
    | cons ch text ih => exact fun state letters => ih _ (take_letters letters ch)
  unfold normalizeRole
  rw [String.toList_ofList]
  exact kept _ _ (by simp)

theorem role_letter {letter : Char} (role : RoleChar letter) : letter ≠ ' ' ∧ letter ≠ '"' := by
  rcases role with alphanum | rfl
  · refine ⟨?_, ?_⟩
    · rintro rfl
      exact absurd alphanum (by decide)
    · rintro rfl
      exact absurd alphanum (by decide)
  · decide

/-- The indent is read up to the first letter that is no space. -/
theorem spaces_until (count : ℕ) {text : List Char} (stops : text.head? ≠ some ' ') :
    (List.replicate count ' ' ++ text).takeWhile (fun letter => decide (letter = ' ')) =
        List.replicate count ' ' ∧
      (List.replicate count ' ' ++ text).dropWhile (fun letter => decide (letter = ' ')) =
        text := by
  have spaces : ∀ letter ∈ List.replicate count ' ', decide (letter = ' ') = true := by
    intro letter member
    rw [decide_eq_true_eq]
    exact List.eq_of_mem_replicate member
  rw [List.takeWhile_append_of_pos spaces, List.dropWhile_append_of_pos spaces]
  cases text with
  | nil => simp
  | cons head rest =>
    have differs : head ≠ ' ' := fun same => stops (congrArg some same)
    simp [differs]

theorem readRole_role {indent : ℕ} (positive : 0 < indent) (depth : ℕ) {role : String}
    (letters : ∀ letter ∈ role.toList, RoleChar letter) (rest : List Char) :
    readRole indent (List.replicate (depth * indent) ' ' ++ (role.toList ++
      (" \"".toList ++ rest))) = some ((depth, role), rest) := by
  unfold readRole
  cases name : role.toList with
  | nil =>
    -- The space before the quote is read with the indent.
    have joined : List.replicate (depth * indent) ' ' ++ ([] ++ (" \"".toList ++ rest)) =
        List.replicate (depth * indent + 1) ' ' ++ '"' :: rest := by
      rw [List.replicate_succ', List.append_assoc]
      rfl
    obtain ⟨spaces, after⟩ := spaces_until (depth * indent + 1)
      (show ('"' :: rest).head? ≠ some ' ' by simp)
    have empty : role = "" := String.toList_eq_nil_iff.mp name
    rw [joined]
    simp only [spaces, after, List.head?_cons, List.length_replicate, List.tail_cons,
      Nat.add_sub_cancel, Nat.mul_div_cancel depth positive, if_true, empty]
  | cons first others =>
    rw [name] at letters
    obtain ⟨notSpace, notQuote⟩ := role_letter (letters first List.mem_cons_self)
    have stops : (first :: others ++ (" \"".toList ++ rest)).head? ≠ some ' ' :=
      fun same => notSpace (Option.some.inj same)
    obtain ⟨spaces, after⟩ := spaces_until (depth * indent) stops
    have free : ' ' ∉ first :: others :=
      fun member => (role_letter (letters ' ' member)).1 rfl
    obtain ⟨whole, quote⟩ := piece_until free
      (show " \"".toList ++ rest = [] ∨ ∃ more, " \"".toList ++ rest = ' ' :: more from
        Or.inr ⟨'"' :: rest, rfl⟩)
    have named : ¬ (first :: others ++ (" \"".toList ++ rest)).head? = some '"' :=
      fun same => notQuote (Option.some.inj same)
    simp only [spaces, after, List.length_replicate, Nat.mul_div_cancel depth positive]
    rw [if_neg named, whole, quote, strip_append, ← name]
    simp

def Line.write (indent : ℕ) (line : Line) : List Char :=
  List.replicate (line.depth * indent) ' ' ++ (line.role.toList ++ (" \"".toList ++
    (escape line.name ++ ('"' :: (valueSection line.value ++ (statesSection line.states ++
      (actionsSection line.actions ++ (boundsSection line.bounds ++
        (line.id.map idSection).getD []))))))))

/-- A node is rendered as what the options leave of it. -/
theorem renderLine_included (node : AccessibleNode) (depth : ℕ) (opts : TextOptions) :
    renderLine node depth opts = Line.write opts.indent (included opts depth node) := by
  unfold renderLine Line.write included
  cases opts.includeStates <;> cases opts.includeActions <;> cases opts.includeBounds <;>
    cases opts.includeIds <;> rfl

/-- No letter occurs in the sections of bounds and ids that is not of a key, a decimal or a
comma. -/
theorem bounds_free {letter : Char} (notDigit : letter.isDigit = false) (notSign : letter ≠ '-')
    (notComma : letter ≠ ',') (notKey : letter ∉ " bounds=".toList) (bounds : Option Rect) :
    letter ∉ boundsSection bounds := by
  cases bounds with
  | none => exact List.not_mem_nil
  | some bounds =>
    have free : letter ∉ [','].intercalate (numbers bounds) :=
      intercalate_free notComma (rect_free notDigit notSign bounds)
    intro member
    rcases List.mem_append.mp member with key | inside
    · exact notKey key
    · exact free inside

theorem ids_free {letter : Char} (notDigit : letter.isDigit = false)
    (notKey : letter ∉ " id=".toList) (id : Option AccessibleId) :
    letter ∉ (id.map idSection).getD [] := by
  cases id with
  | none => exact List.not_mem_nil
  | some id =>
    intro member
    rcases List.mem_append.mp member with key | inside
    · exact notKey key
    · exact number_free notDigit id.val inside

theorem parseLine_write {indent : ℕ} (positive : 0 < indent) {line : Line}
    (letters : ∀ letter ∈ line.role.toList, RoleChar letter)
    (apart : ∀ action ∈ line.actions, ',' ∉ action.toList) :
    parseLine indent (Line.write indent line) = some line := by
  have ids : Begins ['i'] ((line.id.map idSection).getD []) := by
    cases line.id with
    | none => exact Or.inl rfl
    | some id => exact Or.inr ⟨'i', by simp, _, rfl⟩
  have bounds := ids.section (bounds_shape line.bounds)
  have actions := bounds.section (actions_shape line.actions)
  have states := actions.section (states_shape line.states)
  have bracketless : ']' ∉ boundsSection line.bounds ++ (line.id.map idSection).getD [] := by
    simp only [List.mem_append, not_or]
    exact ⟨bounds_free (by decide) (by decide) (by decide) (by decide) line.bounds,
      ids_free (by decide) (by decide) line.id⟩
  unfold parseLine Line.write
  simp only [readRole_role positive line.depth letters, Option.bind_eq_bind, Option.bind_some,
    readQuoted_escape, readValue_value line.value states, readStates_states line.states actions,
    readActions_actions line.actions bounds bracketless apart, readBounds_bounds line.bounds ids,
    readId_id]
  rfl

/-! ## One line a node -/

theorem escape_newline (raw : String) : '\n' ∉ escape raw := by
  refine quoting.escape_free (by decide) (by decide) (fun other code => ?_) raw.toList
  have back : escapedLetter '\n' = some other := escaped_letter code
  cases back

theorem list_free {letter : Char} {key : String} (items : List (List Char))
    (notComma : letter ≠ ',') (notBracket : letter ≠ ']') (notKey : letter ∉ key.toList)
    (free : ∀ item ∈ items, letter ∉ item) : letter ∉ listSection key items := by
  unfold listSection
  split
  · exact List.not_mem_nil
  · simp only [List.mem_append, List.mem_singleton, not_or]
    exact ⟨notKey, intercalate_free notComma free, notBracket⟩

theorem value_newline (value : Option String) : '\n' ∉ valueSection value := by
  cases value with
  | none => exact List.not_mem_nil
  | some value =>
    unfold valueSection
    simp only [List.mem_append, List.mem_singleton, not_or]
    exact ⟨by decide, escape_newline value, by decide⟩

theorem states_newline (states : List AccessibleState) : '\n' ∉ statesSection states := by
  refine list_free _ (by decide) (by decide) (by decide) fun item member => ?_
  obtain ⟨state, _, rfl⟩ := List.mem_map.mp member
  cases state <;> decide

theorem write_newline {indent : ℕ} {line : Line}
    (letters : ∀ letter ∈ line.role.toList, RoleChar letter)
    (whole : ∀ action ∈ line.actions, '\n' ∉ action.toList) :
    '\n' ∉ Line.write indent line := by
  have spaces : '\n' ∉ List.replicate (line.depth * indent) ' ' :=
    fun member => absurd (List.eq_of_mem_replicate member) (by decide)
  have role : '\n' ∉ line.role.toList := by
    intro member
    rcases letters _ member with alphanum | separator
    · exact absurd alphanum (by decide)
    · exact absurd separator (by decide)
  have actions : '\n' ∉ actionsSection line.actions := by
    refine list_free _ (by decide) (by decide) (by decide) fun item member => ?_
    obtain ⟨action, inside, rfl⟩ := List.mem_map.mp member
    exact whole action inside
  unfold Line.write
  simp only [List.mem_append, List.mem_cons, not_or]
  exact ⟨spaces, role, by decide, escape_newline line.name, by decide, value_newline line.value,
    states_newline line.states, actions,
    bounds_free (by decide) (by decide) (by decide) (by decide) line.bounds,
    ids_free (by decide) (by decide) line.id⟩

/-- An action name is on the line as it is. -/
theorem action_written {indent : ℕ} {line : Line} {action : String} {letter : Char}
    (member : action ∈ line.actions) (inside : letter ∈ action.toList) :
    letter ∈ Line.write indent line := by
  have listed : letter ∈ [','].intercalate (line.actions.map String.toList) :=
    mem_intercalate (List.mem_map_of_mem member) inside
  have some' : line.actions.map String.toList ≠ [] :=
    List.ne_nil_of_mem (List.mem_map_of_mem member)
  have written : letter ∈ actionsSection line.actions := by
    unfold actionsSection listSection
    rw [if_neg some']
    exact List.mem_append_right _ (List.mem_append_left _ listed)
  unfold Line.write
  simp only [List.mem_append, List.mem_cons]
  tauto

/-- The actions that are read hold no comma. -/
theorem readActions_apart {text rest : List Char} {actions : List String}
    (reads : readActions text = some (actions, rest)) : ∀ action ∈ actions, ',' ∉ action.toList := by
  unfold readActions at reads
  split at reads
  · obtain ⟨parts, _, same⟩ := Option.map_eq_some_iff.mp reads
    obtain ⟨rfl, _⟩ := Prod.mk.inj same
    intro action member
    obtain ⟨piece, inside, rfl⟩ := List.mem_map.mp member
    rw [String.toList_ofList]
    exact separator_free ',' parts.1 piece inside
  · obtain ⟨rfl, _⟩ := Prod.mk.inj (Option.some.inj reads)
    intro action member
    cases member

theorem parseLine_apart {indent : ℕ} {text : List Char} {line : Line}
    (reads : parseLine indent text = some line) : ∀ action ∈ line.actions, ',' ∉ action.toList := by
  unfold parseLine at reads
  obtain ⟨role, _, reads⟩ := Option.bind_eq_some_iff.mp reads
  obtain ⟨name, _, reads⟩ := Option.bind_eq_some_iff.mp reads
  obtain ⟨value, _, reads⟩ := Option.bind_eq_some_iff.mp reads
  obtain ⟨states, _, reads⟩ := Option.bind_eq_some_iff.mp reads
  obtain ⟨actions, found, reads⟩ := Option.bind_eq_some_iff.mp reads
  obtain ⟨bounds, _, reads⟩ := Option.bind_eq_some_iff.mp reads
  obtain ⟨id, _, reads⟩ := Option.bind_eq_some_iff.mp reads
  obtain rfl := Option.some.inj reads
  exact readActions_apart found

/-! ## Trees -/

/-- Every role of the tree is the normal form of some toolkit role. -/
def Normalized (tree : AccessibleTree) : Prop :=
  ∀ entry ∈ tree.root.outline 0, ∃ raw, entry.2.role = normalizeRole raw

mutual

theorem project_normalized (opts : Service.TreeOptions) (registry : Elements.Registry)
    (count depth : ℕ) (node : SourceNode) :
    ∀ entry ∈ (projectNode opts registry count (normalizeNode node)).1.outline depth,
      ∃ raw, entry.2.role = normalizeRole raw := by
  cases node with
  | mk role name description value states bounds actions handle children =>
    intro entry member
    simp only [normalizeNode, projectNode, AccessibleNode.outline] at member
    rcases List.mem_cons.mp member with rfl | below
    · exact ⟨role, rfl⟩
    · exact project_children_normalized opts _ _ _ children entry below

theorem project_children_normalized (opts : Service.TreeOptions) (registry : Elements.Registry)
    (count depth : ℕ) (nodes : List SourceNode) :
    ∀ entry ∈ outlines depth (projectChildren opts registry count (normalizeNodes nodes)).1,
      ∃ raw, entry.2.role = normalizeRole raw := by
  cases nodes with
  | nil =>
    intro entry member
    cases member
  | cons child rest =>
    intro entry member
    simp only [normalizeNodes, projectChildren, outlines] at member
    rcases List.mem_append.mp member with first | others
    · exact project_normalized opts registry count depth child entry first
    · exact project_children_normalized opts _ _ depth rest entry others

end

/-- The trees that the service answers with are normalized. -/
theorem served_normalized {registry : Elements.Registry} {source : AccessibilitySource}
    {target : WindowTarget} {opts : Service.TreeOptions} {answer : AccessibleTree}
    (served : (Service.tree registry source target opts).1 = .ok answer) : Normalized answer := by
  unfold Service.tree at served
  split at served
  · cases served
  · obtain rfl := Except.ok.inj served
    exact project_normalized opts registry 0 0 _

/-- What the options leave of a tree: its nodes in pre-order, with their depths. -/
def visible (tree : AccessibleTree) (opts : TextOptions) : List Line :=
  (tree.root.outline 0).map fun entry => included opts entry.1 entry.2

def OneLineEach (tree : AccessibleTree) (opts : TextOptions) : Prop :=
  (lines (renderText tree opts)).length = (tree.root.outline 0).length

/-- No action name that is rendered holds a comma or a line break. -/
def ActionsPlain (tree : AccessibleTree) (opts : TextOptions) : Prop :=
  opts.includeActions = true → ∀ entry ∈ tree.root.outline 0, ∀ action ∈ entry.2.actions,
    ',' ∉ action.toList ∧ '\n' ∉ action.toList

variable {tree : AccessibleTree} {opts : TextOptions}

theorem outline_some (node : AccessibleNode) (depth : ℕ) : node.outline depth ≠ [] := by
  cases node
  simp [AccessibleNode.outline]

theorem pushLines_written (node : AccessibleNode) (depth : ℕ) (opts : TextOptions) :
    pushLines node depth opts = ((node.outline depth).map fun entry =>
      included opts entry.1 entry.2).map (Line.write opts.indent) := by
  simp [pushLines, renderLine_included]

theorem lines_renderText (tree : AccessibleTree) (opts : TextOptions) :
    lines (renderText tree opts) =
      (['\n'].intercalate ((visible tree opts).map (Line.write opts.indent))).splitOn '\n' := by
  unfold lines renderText visible
  rw [String.toList_ofList, pushLines_written]

theorem visible_some (tree : AccessibleTree) (opts : TextOptions) :
    (visible tree opts).map (Line.write opts.indent) ≠ [] := by
  simp [visible, outline_some]

theorem visible_letters (normalized : Normalized tree) {line : Line}
    (member : line ∈ visible tree opts) : ∀ letter ∈ line.role.toList, RoleChar letter := by
  obtain ⟨entry, inside, rfl⟩ := List.mem_map.mp member
  obtain ⟨raw, same⟩ := normalized entry inside
  have role : (included opts entry.1 entry.2).role = normalizeRole raw := same
  rw [role]
  exact normalized_letters raw

/-- Plain actions are plain on every line. -/
theorem plain_iff_visible : ActionsPlain tree opts ↔ ∀ line ∈ visible tree opts,
    ∀ action ∈ line.actions, ',' ∉ action.toList ∧ '\n' ∉ action.toList := by
  constructor
  · intro plain line member action named
    obtain ⟨entry, inside, rfl⟩ := List.mem_map.mp member
    by_cases on : opts.includeActions = true
    · exact plain on entry inside action (by simpa [included, on] using named)
    · simp [included, on] at named
  · intro plain on entry inside action named
    refine plain (included opts entry.1 entry.2) (List.mem_map_of_mem inside) action ?_
    simpa [included, on] using named

/-- The lines of a tree with plain actions. -/
theorem lines_of_plain (normalized : Normalized tree) (plain : ActionsPlain tree opts) :
    lines (renderText tree opts) = (visible tree opts).map (Line.write opts.indent) := by
  rw [lines_renderText]
  refine List.splitOn_intercalate '\n' (fun text member => ?_) (visible_some tree opts)
  obtain ⟨line, inside, rfl⟩ := List.mem_map.mp member
  exact write_newline (visible_letters normalized inside) fun action named =>
    (plain_iff_visible.mp plain line inside action named).2

theorem parse_of_plain (normalized : Normalized tree) (positive : 0 < opts.indent)
    (plain : ActionsPlain tree opts) :
    parseText opts.indent (renderText tree opts) = some (visible tree opts) := by
  unfold parseText
  rw [lines_of_plain normalized plain]
  refine mapM_written fun line member => ?_
  exact parseLine_write positive (visible_letters normalized member) fun action named =>
    (plain_iff_visible.mp plain line member action named).1

/-- A tree whose outline is read back has plain actions. -/
theorem plain_of_parse (whole : OneLineEach tree opts)
    (reads : parseText opts.indent (renderText tree opts) = some (visible tree opts)) :
    ActionsPlain tree opts := by
  refine plain_iff_visible.mpr fun line member action named => ⟨?_, ?_⟩
  · obtain ⟨text, _, found⟩ := mapM_origin reads member
    exact parseLine_apart found action named
  · intro broken
    unfold OneLineEach at whole
    rw [lines_renderText] at whole
    have count : ((visible tree opts).map (Line.write opts.indent)).length =
        (tree.root.outline 0).length := by simp [visible]
    have free := separator_free_of_length (visible_some tree opts) (whole.trans count.symm)
    exact free _ (List.mem_map_of_mem member) (action_written named broken)

/-- For every tree and every options with an indent: each node has one line and is read back from it
as far as the options go, exactly when no rendered action name holds a comma or a line break; and
of two such trees that differ in what the options include, the outlines differ. -/
theorem outline_recovered (opts : TextOptions) (positive : 0 < opts.indent) :
    (∀ tree, Normalized tree →
      ((OneLineEach tree opts ∧
        parseText opts.indent (renderText tree opts) = some (visible tree opts)) ↔
          ActionsPlain tree opts)) ∧
    ∀ first second, Normalized first → Normalized second → ActionsPlain first opts →
      ActionsPlain second opts → visible first opts ≠ visible second opts →
        renderText first opts ≠ renderText second opts := by
  refine ⟨fun tree normalized => ⟨fun holds => plain_of_parse holds.1 holds.2, fun plain => ?_⟩, ?_⟩
  · refine ⟨?_, parse_of_plain normalized positive plain⟩
    unfold OneLineEach
    rw [lines_of_plain normalized plain]
    simp [visible]
  · intro first second one other plain plainToo differ same
    have parsed := parse_of_plain one positive plain
    rw [same, parse_of_plain other positive plainToo] at parsed
    exact differ (Option.some.inj parsed).symm

def button (actions : List String) : AccessibleTree where
  windowId := ⟨1⟩
  appId := none
  appName := none
  root := ⟨⟨7⟩, "push_button", "Say \"hi\"", none, some "C:\\", [.enabled], some ⟨-3, 0, 80, 24⟩,
    actions, []⟩
  nodeCount := 1
  truncated := false

theorem button_normalized (actions : List String) : Normalized (button actions) := by
  intro entry member
  have only : entry = (0, (button actions).root) := List.mem_singleton.mp member
  have role : "push_button" = normalizeRole "Push Button" := by decide +kernel
  exact ⟨"Push Button", only ▸ role⟩

theorem outline_recovered_button :
    parseText 2 (renderText (button ["cut", "copy"]) .default) =
      some [⟨0, "push_button", "Say \"hi\"", some "C:\\", [.enabled], ["cut", "copy"],
        some ⟨-3, 0, 80, 24⟩, some ⟨7⟩⟩] := by
  have plain : ActionsPlain (button ["cut", "copy"]) .default := by
    rintro _ entry member action named
    obtain rfl := List.mem_singleton.mp member
    have either : action = "cut" ∨ action = "copy" := by simpa [button] using named
    rcases either with rfl | rfl <;> decide
  exact (((outline_recovered .default (by decide)).1 _ (button_normalized _)).mpr plain).2

/-- One action named with a comma is rendered like two: no reader tells them apart. -/
theorem comma_in_action_ambiguous :
    ¬ ∃ parse : TextOptions → String → Option (List Line), ∀ tree opts, Normalized tree →
      0 < opts.indent → OneLineEach tree opts ∧
        parse opts (renderText tree opts) = some (visible tree opts) := by
  rintro ⟨parse, recovers⟩
  have one := (recovers (button ["cut,copy"]) .default (button_normalized _) (by decide)).2
  have two := (recovers (button ["cut", "copy"]) .default (button_normalized _) (by decide)).2
  have same : renderText (button ["cut,copy"]) .default =
      renderText (button ["cut", "copy"]) .default := by decide +kernel
  rw [same, two] at one
  exact absurd (Option.some.inj one) (by decide +kernel)

end ADesk.A11y.OutlineRecovery
