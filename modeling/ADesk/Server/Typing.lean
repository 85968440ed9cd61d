/- ADesk/Server/Typing
   digest: Which characters of a text reach the client when it is typed. -/

import ADesk.Server.Serving

set_option autoImplicit false

namespace ADesk.Server.Typing

open ADesk.Core.Ids (WindowId)
open ADesk.Compositor.Command
open ADesk.Compositor.Inject
open ADesk.Compositor.Keys
open ADesk.Foundation.Execution
open ADesk.Foundation.Scripts
open ADesk.Server.Input
open ADesk.Server.Serving
open ADesk.Wm.Policy (window activeWindow)

/-! ## What a client reads -/

/-- The level modifiers that a client sees held. -/
structure Held where
  shift : Bool
  level3 : Bool
  deriving DecidableEq

def Held.idle : Held := ⟨false, false⟩

/-- The character of a pressed key on the first layout: that of the only keysym on the level that
the type of the key selects. -/
def characterOf (xkb : Xkb) (keymap : Keymap) (held : Held) (keycode : ℕ) : Option Char :=
  match keymap.symsByLevel keycode 0 (keymap.levelOf keycode 0 held.shift held.level3) with
  | [keysym] => xkb.keysymToUtf32 keysym
  | _ => none

/-- One key event as the client takes it. -/
def feedKey (xkb : Xkb) (keymap : Keymap) (input : InputInjector) (held : Held)
    (event : ℕ × KeyState) : Held × List Char :=
  if input.shift = some event.1 then ({ held with shift := event.2 = .pressed }, [])
  else if input.level3 = some event.1 then ({ held with level3 := event.2 = .pressed }, [])
  else
    match event.2 with
    | .pressed => (held, (characterOf xkb keymap held event.1).toList)
    | .released => (held, [])

def feed (xkb : Xkb) (keymap : Keymap) (input : InputInjector) (held : Held) :
    List (ℕ × KeyState) → Held × List Char
  | [] => (held, [])
  | event :: rest =>
    let first := feedKey xkb keymap input held event
    let others := feed xkb keymap input first.1 rest
    (others.1, first.2 ++ others.2)

/-- The key events among the deliveries. -/
def keysOf (delivered : List Delivery) : List (ℕ × KeyState) :=
  delivered.filterMap fun
    | .key keycode state => some (keycode, state)
    | .motion .. | .button .. | .axis .. => none

/-- Some key of the keymap has a keysym for the character. -/
def Producible (xkb : Xkb) (keymap : Keymap) (c : Char) : Prop :=
  ∃ entry ∈ scanKeymap keymap, xkb.keysymToUtf32 entry.1 = some c

section Feed

variable {xkb : Xkb} {keymap : Keymap} {input : InputInjector}

theorem feed_append (held : Held) (first rest : List (ℕ × KeyState)) :
    feed xkb keymap input held (first ++ rest) =
      ((feed xkb keymap input (feed xkb keymap input held first).1 rest).1,
        (feed xkb keymap input held first).2 ++
          (feed xkb keymap input (feed xkb keymap input held first).1 rest).2) := by
  induction first generalizing held with
  | nil => rfl
  | cons event tail ih =>
    rw [List.cons_append, feed, ih]
    simp only [feed, List.append_assoc]

/-- Texts typed one after the other, each leaving no modifier held. -/
theorem feed_flat_map {α : Type} (tap : α → List (ℕ × KeyState)) (items : List α)
    (idle : ∀ item ∈ items, (feed xkb keymap input .idle (tap item)).1 = .idle) :
    feed xkb keymap input .idle (items.flatMap tap) =
      (.idle, items.flatMap fun item => (feed xkb keymap input .idle (tap item)).2) := by
  induction items with
  | nil => rfl
  | cons item rest ih =>
    rw [List.flatMap_cons, feed_append, idle item List.mem_cons_self,
      ih fun other member => idle other (List.mem_cons_of_mem item member)]
    rfl

end Feed

/-! ## The key of a character -/

/-- What is documented of keysym names of one character: only letters and digits have them, and
the lookup that ignores case answers with the lower-case letter. -/
structure Documented (xkb : Xkb) : Prop where
  letter : ∀ c, c.isAlpha = true → xkb.keysymFromName [c] = c.toLower.toNat
  digit : ∀ c, c.isDigit = true → xkb.keysymFromName [c] = c.toNat
  other : ∀ c, c.isAlphanum = false → xkb.keysymFromName [c] = 0

/-- The keysym that a character is typed by: white space has none, and a letter has that of its
lower case. -/
def keysymOf (xkb : Xkb) (c : Char) : ℕ :=
  if isWhitespace c then 0
  else if c.isAlpha then c.toLower.toNat
  else if c.isDigit then c.toNat
  else xkb.utf32ToKeysym c

/-- The keycodes of the level modifiers, when the keymap has them. -/
def levelModifiers (input : InputInjector) (level : ℕ) : Option (List ℕ) :=
  (levelModifierNames level).mapM fun name =>
    if name = shiftKeysym then input.shift else input.level3

/-- The key events that type a keysym; `none` when the keymap has no key or no modifier for it. -/
def tapKeysym (input : InputInjector) (keysym : ℕ) : Option (List (ℕ × KeyState)) :=
  (input.keymap keysym).bind fun resolved =>
    (levelModifiers input resolved.level).map fun modifiers =>
      bracket modifiers resolved.keycode .pressed ++ bracket modifiers resolved.keycode .released

def tapOf (xkb : Xkb) (input : InputInjector) (c : Char) : Option (List (ℕ × KeyState)) :=
  if keysymOf xkb c = 0 then none else tapKeysym input (keysymOf xkb c)

/-- A character that is typed yields itself; one that is skipped is on no key. -/
def Typable (xkb : Xkb) (keymap : Keymap) (input : InputInjector) (c : Char) : Prop :=
  match tapOf xkb input c with
  | some keys => (feed xkb keymap input .idle keys).2 = [c]
  | none => ¬ Producible xkb keymap c

instance (xkb : Xkb) (keymap : Keymap) (c : Char) : Decidable (Producible xkb keymap c) :=
  inferInstanceAs (Decidable (∃ entry ∈ scanKeymap keymap, _))

instance (xkb : Xkb) (keymap : Keymap) (input : InputInjector) (c : Char) :
    Decidable (Typable xkb keymap input c) :=
  match tapped : tapOf xkb input c with
  | some keys =>
    decidable_of_iff ((feed xkb keymap input .idle keys).2 = [c])
      (by unfold Typable; rw [tapped])
  | none =>
    decidable_of_iff (¬ Producible xkb keymap c) (by unfold Typable; rw [tapped])

/-! ## Parsing one character -/

theorem alias_of_single (c : Char) : aliasOf [c] = none := by
  have longer : ∀ entry ∈ aliases, entry.1.length ≠ 1 := by decide
  rw [aliasOf, Option.map_eq_none_iff, List.find?_eq_none]
  intro entry member same
  have mapped : entry.1.map Char.toLower = [c].map Char.toLower := beq_iff_eq.mp same
  have lengths := congrArg List.length mapped
  rw [List.length_map, List.length_map] at lengths
  exact longer entry member lengths

theorem trim_single (c : Char) : trim [c] = if isWhitespace c then [] else [c] := by
  unfold trim
  cases white : isWhitespace c with
  | true => simp [white]
  | false => simp [white]

theorem letter_value {c : Char} (letter : c.isAlphanum = true) : c.toNat ≠ 0 := by
  intro zero
  have null : c = Char.ofNat 0 := by
    rw [← zero, Char.ofNat_toNat]
  subst null
  exact absurd letter (by decide)

theorem lower_value {c : Char} (known : c.toNat ≠ 0) : c.toLower.toNat ≠ 0 := by
  unfold Char.toLower
  split
  · next upper =>
    have low := upper.1
    have high := upper.2
    simp only [ge_iff_le, UInt32.le_iff_toNat_le] at low high
    simp only [Char.toNat, ne_eq, UInt32.toNat_add]
    simp at low high ⊢
    omega
  · exact known

/-- A one-character name parses to the keysym of the character. -/
theorem parse_single {xkb : Xkb} (documented : Documented xkb) (c : Char) :
    (keysymOf xkb c = 0 → ∃ error, parseKeysym xkb [c] = .error error) ∧
      (keysymOf xkb c ≠ 0 → parseKeysym xkb [c] =
        .ok ⟨canonicalName xkb (keysymOf xkb c), keysymOf xkb c⟩) := by
  cases white : isWhitespace c with
  | true =>
    have unnamed : keysymOf xkb c = 0 := by rw [keysymOf, white, if_pos rfl]
    have empty : trim [c] = [] := by rw [trim_single, white, if_pos rfl]
    exact ⟨fun _ => ⟨.emptyName, by rw [parseKeysym, empty]; rfl⟩, fun known => absurd unnamed known⟩
  | false =>
    have whole : trim [c] = [c] := by rw [trim_single, white]; rfl
    -- the value that parsing computes for a character that is not white space
    have value : (if xkb.keysymFromName [c] = 0 then xkb.utf32ToKeysym c
        else xkb.keysymFromName [c]) = keysymOf xkb c := by
      rw [keysymOf, white, if_neg Bool.false_ne_true]
      by_cases letter : c.isAlpha = true
      · have known : c.toLower.toNat ≠ 0 :=
          lower_value (letter_value (by rw [Char.isAlphanum, letter]; rfl))
        rw [if_pos letter, documented.letter c letter, if_neg known]
      · rw [if_neg letter]
        by_cases digit : c.isDigit = true
        · have known : c.toNat ≠ 0 :=
            letter_value (by rw [Char.isAlphanum, digit, Bool.or_true])
          rw [if_pos digit, documented.digit c digit, if_neg known]
        · have other : c.isAlphanum = false := by
            rw [Char.isAlphanum, Bool.eq_false_iff.mpr letter, Bool.eq_false_iff.mpr digit]
            rfl
          rw [if_neg digit, documented.other c other, if_pos rfl]
    have parsed : parseKeysym xkb [c] =
        if keysymOf xkb c = 0 then .error (.unknownName [c])
        else .ok ⟨canonicalName xkb (keysymOf xkb c), keysymOf xkb c⟩ := by
      rw [parseKeysym, whole, alias_of_single, ← value]
      rfl
    refine ⟨fun unnamed => ⟨.unknownName [c], ?_⟩, fun known => ?_⟩
    · rw [parsed, if_pos unnamed]
    · rw [parsed, if_neg known]

/-! ## Typing one character -/

section Tap

variable {xkb : Xkb} {keymap : Keymap} {input : InputInjector}

private theorem keymap_message {error : CoreError} (code : error.code = .invalidRequest)
    (named : "keymap".toList <:+: error.message) :
    isUnmappableKey (commandError none error) = true := by
  obtain ⟨_, message⟩ := error
  cases code
  exact decide_eq_true named

/-- A failure to plan keys is one that skips the character. -/
def Unmappable (error : CompositorError) : Prop :=
  isUnmappableKey (commandError none error.toCore) = true

private theorem unmappable_suffix (start : List Char) :
    Unmappable (.invalidRequest
      (start ++ " cannot be produced by the compositor keymap".toList)) := by
  refine keymap_message rfl ⟨"invalid request: ".toList ++ start ++
    " cannot be produced by the compositor ".toList, [], ?_⟩
  change _ = "invalid request: ".toList ++ (start ++ _)
  simp

/-- A computation that succeeds where the option has a value, and else fails unmappably. -/
def Follows {β : Type} (outcome : Except CompositorError β) : Option β → Prop
  | some result => outcome = .ok result
  | none => ∃ error, outcome = .error error ∧ Unmappable error

theorem follows_map_m {α β : Type} {f : α → Except CompositorError β} {g : α → Option β}
    (follows : ∀ a, Follows (f a) (g a)) (items : List α) :
    Follows (items.mapM f) (items.mapM g) := by
  induction items with
  | nil => exact rfl
  | cons item rest ih =>
    rw [List.mapM_cons, List.mapM_cons]
    have first := follows item
    cases value : g item with
    | none =>
      rw [value] at first
      obtain ⟨error, failed, unmappable⟩ := first
      rw [failed]
      exact ⟨error, rfl, unmappable⟩
    | some result =>
      rw [value] at first
      rw [show f item = .ok result from first]
      cases others : rest.mapM g with
      | none =>
        rw [others] at ih
        obtain ⟨error, failed, unmappable⟩ := ih
        rw [failed]
        exact ⟨error, rfl, unmappable⟩
      | some results =>
        rw [others] at ih
        rw [show rest.mapM f = .ok results from ih]
        exact rfl

theorem modifiers_follow (input : InputInjector) (level : ℕ) :
    Follows ((levelModifierNames level).mapM (modifierKeycode input))
      (levelModifiers input level) := by
  refine follows_map_m (fun name => ?_) (levelModifierNames level)
  unfold modifierKeycode
  cases (if name = shiftKeysym then input.shift else input.level3) with
  | some keycode => exact rfl
  | none => exact ⟨_, rfl, unmappable_suffix _⟩

theorem plan_key_follows (input : InputInjector) (keysym : Keysym) (state : KeyState) :
    Follows (planKey input keysym state)
      ((input.keymap keysym.value).bind fun resolved =>
        (levelModifiers input resolved.level).map fun modifiers =>
          bracket modifiers resolved.keycode state) := by
  unfold planKey
  cases input.keymap keysym.value with
  | none => exact ⟨_, rfl, unmappable_suffix _⟩
  | some resolved =>
    have follows := modifiers_follow input resolved.level
    rw [Option.bind_some]
    simp only
    cases modifiers : levelModifiers input resolved.level with
    | some modifiers' =>
      rw [modifiers] at follows
      rw [show (levelModifierNames resolved.level).mapM (modifierKeycode input) = _ from follows]
      exact rfl
    | none =>
      rw [modifiers] at follows
      obtain ⟨error, failed, unmappable⟩ := follows
      rw [failed]
      exact ⟨error, rfl, unmappable⟩

/-- A chord of one key is tapped. -/
theorem plan_follows (input : InputInjector) (keysym : Keysym) :
    Follows (plan input (.chord [keysym]) .pressed) (tapKeysym input keysym.value) := by
  have pressed := plan_key_follows input keysym .pressed
  have released := plan_key_follows input keysym .released
  have planned : plan input (.chord [keysym]) .pressed =
      ([(keysym, KeyState.pressed), (keysym, .released)].mapM
        fun entry => planKey input entry.1 entry.2).map List.flatten := rfl
  rw [planned, List.mapM_cons, List.mapM_cons, List.mapM_nil]
  unfold tapKeysym
  cases found : input.keymap keysym.value with
  | none =>
    rw [found] at pressed
    obtain ⟨error, failed, unmappable⟩ := pressed
    rw [failed]
    exact ⟨error, rfl, unmappable⟩
  | some resolved =>
    rw [found, Option.bind_some] at pressed released
    rw [Option.bind_some]
    cases modifiers : levelModifiers input resolved.level with
    | none =>
      rw [modifiers] at pressed
      obtain ⟨error, failed, unmappable⟩ := pressed
      rw [failed]
      exact ⟨error, rfl, unmappable⟩
    | some modifiers' =>
      rw [modifiers, Option.map_some] at pressed released
      rw [show planKey input keysym .pressed = _ from pressed,
        show planKey input keysym .released = _ from released]
      change Except.ok _ = Except.ok _
      simp

def IsModifier (input : InputInjector) (keycode : ℕ) : Prop :=
  input.shift = some keycode ∨ input.level3 = some keycode

/-- Every modifier that is held is one of the keys. -/
def HeldBy (input : InputInjector) (keys : List ℕ) (held : Held) : Prop :=
  (held.shift = true → ∃ key ∈ keys, input.shift = some key) ∧
    (held.level3 = true → ∃ key ∈ keys, input.level3 = some key ∧ input.shift ≠ some key)

/-- Pressed modifiers are held and type nothing. -/
theorem feed_pressed (xkb : Xkb) (keymap : Keymap) {all keys : List ℕ}
    (inside : ∀ key ∈ keys, key ∈ all) (modifiers : ∀ key ∈ keys, IsModifier input key)
    {held : Held} (heldBy : HeldBy input all held) :
    HeldBy input all (feed xkb keymap input held (keys.map (·, .pressed))).1 ∧
      (feed xkb keymap input held (keys.map (·, .pressed))).2 = [] := by
  induction keys generalizing held with
  | nil => exact ⟨heldBy, rfl⟩
  | cons key rest ih =>
    have onward := @ih (fun other member => inside other (List.mem_cons_of_mem key member))
      fun other member => modifiers other (List.mem_cons_of_mem key member)
    have member := inside key List.mem_cons_self
    rw [List.map_cons, feed]
    by_cases shift : input.shift = some key
    · have first : feedKey xkb keymap input held (key, .pressed) =
          ({ held with shift := true }, []) := by
        rw [feedKey, if_pos shift]
        rfl
      rw [first]
      exact onward ⟨fun _ => ⟨key, member, shift⟩, heldBy.2⟩
    · have level3 : input.level3 = some key :=
        (modifiers key List.mem_cons_self).resolve_left shift
      have first : feedKey xkb keymap input held (key, .pressed) =
          ({ held with level3 := true }, []) := by
        rw [feedKey, if_neg shift, if_pos level3]
        rfl
      rw [first]
      exact onward ⟨heldBy.1, fun _ => ⟨key, member, level3, shift⟩⟩

/-- Released in any order, the held modifiers leave nothing held. -/
theorem feed_released (xkb : Xkb) (keymap : Keymap) {keys : List ℕ}
    (modifiers : ∀ key ∈ keys, IsModifier input key) {held : Held}
    (heldBy : HeldBy input keys held) :
    feed xkb keymap input held (keys.map (·, .released)) = (.idle, []) := by
  induction keys generalizing held with
  | nil =>
    obtain ⟨shift, level3⟩ := held
    have unshifted : shift = false := by
      by_contra set
      obtain ⟨_, member, _⟩ := heldBy.1 (Bool.eq_true_of_not_eq_false set)
      cases member
    have plain : level3 = false := by
      by_contra set
      obtain ⟨_, member, _⟩ := heldBy.2 (Bool.eq_true_of_not_eq_false set)
      cases member
    rw [unshifted, plain]
    rfl
  | cons key rest ih =>
    have others : ∀ other ∈ rest, IsModifier input other :=
      fun other inside => modifiers other (List.mem_cons_of_mem key inside)
    rw [List.map_cons, feed]
    by_cases shift : input.shift = some key
    · have first : feedKey xkb keymap input held (key, .released) =
          ({ held with shift := false }, []) := by
        rw [feedKey, if_pos shift]
        rfl
      have remaining : HeldBy input rest { held with shift := false } := by
        refine ⟨fun set => absurd set Bool.false_ne_true, fun set => ?_⟩
        obtain ⟨other, member, found, differs⟩ := heldBy.2 set
        refine ⟨other, List.mem_of_ne_of_mem ?_ member, found, differs⟩
        rintro rfl
        exact differs shift
      rw [first, ih others remaining]
      rfl
    · have level3 : input.level3 = some key :=
        (modifiers key List.mem_cons_self).resolve_left shift
      have first : feedKey xkb keymap input held (key, .released) =
          ({ held with level3 := false }, []) := by
        rw [feedKey, if_neg shift, if_pos level3]
        rfl
      have remaining : HeldBy input rest { held with level3 := false } := by
        refine ⟨fun set => ?_, fun set => absurd set Bool.false_ne_true⟩
        obtain ⟨other, member, found⟩ := heldBy.1 set
        refine ⟨other, List.mem_of_ne_of_mem ?_ member, found⟩
        rintro rfl
        exact shift found
      rw [first, ih others remaining]
      rfl

/-- A key between its press and its release types one character at most. -/
theorem feed_stroke (xkb : Xkb) (keymap : Keymap) {keys : List ℕ} {held : Held}
    (heldBy : HeldBy input keys held) (keycode : ℕ) :
    HeldBy input keys
        (feed xkb keymap input held [(keycode, .pressed), (keycode, .released)]).1 ∧
      (feed xkb keymap input held [(keycode, .pressed), (keycode, .released)]).2.length ≤ 1 := by
  unfold feed feed feed feedKey
  by_cases shift : input.shift = some keycode
  · simp only [shift, if_true]
    exact ⟨⟨fun set => absurd set Bool.false_ne_true, heldBy.2⟩, Nat.zero_le 1⟩
  · by_cases level3 : input.level3 = some keycode
    · simp only [shift, level3, if_true, if_false]
      exact ⟨⟨heldBy.1, fun set => absurd set Bool.false_ne_true⟩, Nat.zero_le 1⟩
    · simp only [shift, level3, if_false]
      refine ⟨heldBy, ?_⟩
      cases characterOf xkb keymap held keycode <;> simp

theorem level_modifiers_spec {level : ℕ} {modifiers : List ℕ}
    (found : levelModifiers input level = some modifiers) :
    ∀ key ∈ modifiers, IsModifier input key := by
  have general : ∀ (names : List (List Char)) (modifiers : List ℕ),
      (names.mapM fun name => if name = shiftKeysym then input.shift else input.level3) =
        some modifiers → ∀ key ∈ modifiers, IsModifier input key := by
    intro names
    induction names with
    | nil =>
      intro modifiers found key member
      cases found
      cases member
    | cons name rest ih =>
      intro modifiers found key member
      rw [List.mapM_cons] at found
      obtain ⟨first, named, others⟩ := Option.bind_eq_some_iff.mp found
      obtain ⟨tail, rested, whole⟩ := Option.bind_eq_some_iff.mp others
      cases whole
      rcases List.mem_cons.mp member with rfl | later
      · split at named
        · exact .inl named
        · exact .inr named
      · exact ih tail rested key later
  exact general _ modifiers found

/-- Typing a keysym leaves no modifier held and types one character at most. -/
theorem feed_tap {keysym : ℕ} {keys : List (ℕ × KeyState)}
    (tapped : tapKeysym input keysym = some keys) :
    (feed xkb keymap input .idle keys).1 = .idle ∧
      (feed xkb keymap input .idle keys).2.length ≤ 1 := by
  obtain ⟨resolved, _, rest⟩ := Option.bind_eq_some_iff.mp tapped
  obtain ⟨modifiers, found, rfl⟩ := Option.map_eq_some_iff.mp rest
  have areModifiers := level_modifiers_spec found
  have strokes : bracket modifiers resolved.keycode .pressed ++
      bracket modifiers resolved.keycode .released =
        modifiers.map (·, .pressed) ++
          ([(resolved.keycode, .pressed), (resolved.keycode, .released)] ++
            modifiers.reverse.map (·, .released)) :=
    List.append_assoc _ _ _
  have idle : HeldBy input modifiers .idle :=
    ⟨fun set => absurd set Bool.false_ne_true, fun set => absurd set Bool.false_ne_true⟩
  obtain ⟨held, silent⟩ := feed_pressed xkb keymap (fun _ member => member) areModifiers idle
  obtain ⟨kept, one⟩ := feed_stroke xkb keymap held resolved.keycode
  have reversed : HeldBy input modifiers.reverse
      (feed xkb keymap input (feed xkb keymap input .idle (modifiers.map (·, .pressed))).1
        [(resolved.keycode, .pressed), (resolved.keycode, .released)]).1 :=
    ⟨fun set => (kept.1 set).imp fun _ found => ⟨List.mem_reverse.mpr found.1, found.2⟩,
      fun set => (kept.2 set).imp fun _ found => ⟨List.mem_reverse.mpr found.1, found.2⟩⟩
  have ended := feed_released xkb keymap
    (fun key member => areModifiers key (List.mem_reverse.mp member)) reversed
  rw [strokes, feed_append, feed_append, ended, silent]
  refine ⟨rfl, ?_⟩
  simpa using one

end Tap

/-! ## Typing a text -/

section Run

variable {P : Type} {xkb : Xkb} {input : InputInjector} {pointers : PointerHandle P}

/-- The window that gets keys has a surface. -/
def Ready (seat : Seat P) : Prop := ∃ id, seat.target = some id ∧ (seat.surfaceOf id).isSome

/-- The key events as the seat delivers them. -/
def keyDeliveries (keys : List (ℕ × KeyState)) : List Delivery :=
  keys.map fun key => .key key.1 key.2

theorem keys_of_deliveries (keys : List (ℕ × KeyState)) : keysOf (keyDeliveries keys) = keys := by
  rw [keysOf, keyDeliveries, List.filterMap_map]
  exact List.filterMap_some

theorem deliver_deliver (seat : Seat P) (first rest : List Delivery) :
    (seat.deliver first).deliver rest = seat.deliver (first ++ rest) := by
  simp [Seat.deliver]

theorem inject_planned {seat : Seat P} (ready : Ready seat) {key : KeyCode}
    {state : KeyState} {keys : List (ℕ × KeyState)} (planned : plan input key state = .ok keys) :
    seat.perform input pointers (.keyEvent key state) =
      .ok (seat.deliver (keyDeliveries keys)) := by
  obtain ⟨id, target, surface⟩ := ready
  obtain ⟨root, found⟩ := Option.isSome_iff_exists.mp surface
  change seat.injectKey input key state = _
  unfold Seat.injectKey
  rw [planned, target]
  simp only
  rw [found]
  rfl

theorem inject_unplanned {seat : Seat P} {key : KeyCode} {state : KeyState}
    {error : CompositorError} (failed : plan input key state = .error error) :
    seat.perform input pointers (.keyEvent key state) = .error error := by
  change seat.injectKey input key state = _
  unfold Seat.injectKey
  rw [failed]

theorem parse_chord_single {name : List Char} :
    parseChord xkb [name] = (parseKeysym xkb name).map fun keysym => .chord [keysym] := by
  unfold parseChord
  rw [List.mapM_cons, List.mapM_nil]
  cases parseKeysym xkb name <;> rfl

/-- One character is tapped, or skipped when the keymap has no key for its keysym. -/
theorem run_type_character (input : InputInjector) (pointers : PointerHandle P)
    (documented : Documented xkb) {desk : Desk P} (ready : Ready desk.seat) (c : Char) :
    run input pointers desk (typeCharacter xkb c) =
      ({ desk with seat := desk.seat.deliver (keyDeliveries ((tapOf xkb input c).getD [])) },
        .ok (tapOf xkb input c).isSome) := by
  have silent : desk.seat.deliver (keyDeliveries []) = desk.seat := by
    simp [Seat.deliver, keyDeliveries]
  obtain ⟨unparsed, parsed⟩ := parse_single documented c
  unfold typeCharacter tapOf
  rw [parse_chord_single]
  by_cases unknown : keysymOf xkb c = 0
  · obtain ⟨error, failed⟩ := unparsed unknown
    rw [failed, if_pos unknown, Option.getD_none, silent]
    rfl
  · rw [parsed unknown, if_neg unknown]
    simp only [Except.map]
    have follows := plan_follows input
      ⟨canonicalName xkb (keysymOf xkb c), keysymOf xkb c⟩
    cases tapped : tapKeysym input (keysymOf xkb c) with
    | some keys =>
      rw [tapped] at follows
      rw [run_call (serve_performed (inject_planned ready follows))]
      rfl
    | none =>
      rw [tapped] at follows
      obtain ⟨error, failed, unmappable⟩ := follows
      rw [run_call (serve_refused (inject_unplanned failed))]
      rw [Option.getD_none, silent]
      simp only
      rw [if_pos (show isUnmappableKey _ = true from unmappable)]
      rfl

/-- The characters are tapped in order, and those without a key are reported. -/
theorem run_type_characters (input : InputInjector) (pointers : PointerHandle P)
    (documented : Documented xkb) {desk : Desk P} (ready : Ready desk.seat) (text : List Char) :
    run input pointers desk (typeCharacters xkb text) =
      ({ desk with
          seat := desk.seat.deliver
            (keyDeliveries (text.flatMap fun c => (tapOf xkb input c).getD [])) },
        .ok (text.filter fun c => (tapOf xkb input c).isNone)) := by
  induction text generalizing desk with
  | nil =>
    simp [Seat.deliver, keyDeliveries]
    rfl
  | cons c rest ih =>
    have first := run_type_character input pointers documented ready c
    have others := @ih
      { desk with seat := desk.seat.deliver (keyDeliveries ((tapOf xkb input c).getD [])) } ready
    unfold typeCharacters
    rw [run_bind first, run_bind others, deliver_deliver]
    have joined : keyDeliveries ((tapOf xkb input c).getD []) ++
        keyDeliveries (rest.flatMap fun c => (tapOf xkb input c).getD []) =
          keyDeliveries ((c :: rest).flatMap fun c => (tapOf xkb input c).getD []) := by
      simp [keyDeliveries]
    have skipped : (if (tapOf xkb input c).isSome = true
        then rest.filter fun c => (tapOf xkb input c).isNone
        else c :: rest.filter fun c => (tapOf xkb input c).isNone) =
          (c :: rest).filter fun c => (tapOf xkb input c).isNone := by
      rw [List.filter_cons]
      cases tapOf xkb input c <;> rfl
    rw [joined, skipped]
    rfl

/-- The window that is to get the keys: the named one, or that with the focus. -/
def Focusable (seat : Seat P) : Option WindowId → Prop
  | none => Ready seat
  | some id => (window seat.wm.manager id).isSome ∧ (seat.surfaceOf id).isSome

theorem activated_target {seat activated : Seat P} {id : WindowId}
    (done : seat.activateWindow id = .ok activated) :
    activated.target = some id ∧ activated.surfaceOf id = seat.surfaceOf id ∧
      activated.delivered = seat.delivered := by
  unfold Seat.activateWindow at done
  cases moved : seat.wm.activate id with
  | none =>
    rw [moved] at done
    cases done
  | some result =>
    rw [moved] at done
    cases done
    obtain ⟨record, known, rfl⟩ := Option.map_eq_some_iff.mp moved
    have active : activeWindow (Wm.Policy.activate seat.wm.manager id).1 = some id := by
      unfold Wm.Policy.activate
      rw [known]
      simp only
      split
      · assumption
      · rfl
    refine ⟨?_, rfl, rfl⟩
    change (activeWindow (Wm.Policy.activate seat.wm.manager id).1).or
      (activeWindow (Wm.Policy.activate seat.wm.manager id).1) = _
    rw [active]
    rfl

/-- Activating the window first, when it is named and not focused. -/
theorem run_activate (input : InputInjector) (pointers : PointerHandle P) {desk : Desk P}
    {windowId : Option WindowId} (focusable : Focusable desk.seat windowId) :
    ∃ after, run input pointers desk (activateIfNeeded windowId) = (after, .ok ()) ∧
      Ready after.seat ∧ after.seat.delivered = desk.seat.delivered := by
  cases windowId with
  | none => exact ⟨desk, rfl, focusable, rfl⟩
  | some id =>
    obtain ⟨known, surface⟩ := focusable
    obtain ⟨record, found⟩ := Option.isSome_iff_exists.mp known
    have shown := snapshot_window desk.seat id
    rw [found] at shown
    have asked : run input pointers desk state = (desk, .ok desk.seat.snapshot) := rfl
    unfold activateIfNeeded
    rw [run_bind asked]
    simp only [shown, Option.map_some]
    have focus : desk.seat.snapshot.keyboardFocus.or desk.seat.snapshot.activeWindowId =
        desk.seat.target := rfl
    rw [focus]
    by_cases focused : desk.seat.target = some id
    · refine ⟨desk, ?_, ⟨id, focused, surface⟩, rfl⟩
      rw [if_pos focused]
      rfl
    · rw [if_neg focused]
      obtain ⟨activated, done⟩ : ∃ activated, desk.seat.activateWindow id = .ok activated := by
        unfold Seat.activateWindow Compositor.Bridge.WmBridge.activate
        rw [found]
        exact ⟨_, rfl⟩
      obtain ⟨target, root, delivered⟩ := activated_target done
      refine ⟨_, run_send (show desk.seat.perform input pointers _ = _ from done), ?_, delivered⟩
      exact ⟨id, target, by rw [root]; exact surface⟩

end Run

/-! ## Faithful typing -/

theorem flat_map_short {α : Type} {f : α → List α} {items : List α}
    (short : ∀ item ∈ items, (f item).length ≤ 1) : (items.flatMap f).length ≤ items.length := by
  induction items with
  | nil => exact Nat.le_refl 0
  | cons item rest ih =>
    have first := short item List.mem_cons_self
    have others := ih fun other member => short other (List.mem_cons_of_mem item member)
    rw [List.flatMap_cons, List.length_append, List.length_cons]
    omega

/-- Chunks of one item at most, put together, are the items themselves only if each chunk is its
item. -/
theorem flat_map_eq_self {α : Type} {f : α → List α} {items : List α}
    (short : ∀ item ∈ items, (f item).length ≤ 1) :
    items.flatMap f = items ↔ ∀ item ∈ items, f item = [item] := by
  induction items with
  | nil => simp
  | cons item rest ih =>
    have shorter : ∀ other ∈ rest, (f other).length ≤ 1 :=
      fun other member => short other (List.mem_cons_of_mem item member)
    rw [List.flatMap_cons, List.forall_mem_cons, ← ih shorter]
    constructor
    · intro whole
      have bound := flat_map_short shorter
      have lengths := congrArg List.length whole
      rw [List.length_append, List.length_cons] at lengths
      have one : (f item).length = 1 := by
        have := short item List.mem_cons_self
        omega
      obtain ⟨only, single⟩ := List.length_eq_one_iff.mp one
      rw [single, List.singleton_append, List.cons.injEq] at whole
      exact ⟨by rw [single, whole.1], whole.2⟩
    · rintro ⟨single, others⟩
      rw [single, others]
      rfl

/-- The text reaches the client but for the reported characters, and these are on no key. -/
structure Faithful (xkb : Xkb) (keymap : Keymap) (input : InputInjector) (text : List Char)
    (keys : List (ℕ × KeyState)) (skipped : List Char) : Prop where
  typed : (feed xkb keymap input .idle keys).2 = text.filter fun c => c ∉ skipped
  reported : ∀ c ∈ skipped, ¬ Producible xkb keymap c

/-- The key events that a run of a method has added. -/
def injected {P : Type} (before after : Desk P) : List (ℕ × KeyState) :=
  keysOf (after.seat.delivered.drop before.seat.delivered.length)

theorem injected_deliver {P : Type} {before after : Desk P} {keys : List (ℕ × KeyState)}
    (delivered : after.seat.delivered = before.seat.delivered ++ keyDeliveries keys) :
    injected before after = keys := by
  rw [injected, delivered, List.drop_left, keys_of_deliveries]

/-- Items that yield nothing can be left out. -/
theorem flat_map_filter {α β : Type} {f : α → List β} {keep : α → Bool}
    (empty : ∀ item, keep item = false → f item = []) (items : List α) :
    items.flatMap f = (items.filter keep).flatMap f := by
  induction items with
  | nil => rfl
  | cons item rest ih =>
    rw [List.flatMap_cons, List.filter_cons]
    cases kept : keep item with
    | true =>
      rw [if_pos rfl, List.flatMap_cons, ih]
    | false =>
      rw [if_neg Bool.false_ne_true, empty item kept, List.nil_append, ih]

/-- The keys of a text type it faithfully exactly when each of its characters is typable. -/
theorem faithful_iff {xkb : Xkb} {keymap : Keymap} {input : InputInjector} {text : List Char} :
    Faithful xkb keymap input text (text.flatMap fun c => (tapOf xkb input c).getD [])
        (text.filter fun c => (tapOf xkb input c).isNone) ↔
      ∀ c ∈ text, Typable xkb keymap input c := by
  have tap : ∀ c, (feed xkb keymap input .idle ((tapOf xkb input c).getD [])).1 = .idle ∧
      (feed xkb keymap input .idle ((tapOf xkb input c).getD [])).2.length ≤ 1 := by
    intro c
    cases tapped : tapOf xkb input c with
    | none => exact ⟨rfl, Nat.zero_le 1⟩
    | some keys =>
      unfold tapOf at tapped
      split at tapped
      · cases tapped
      · exact feed_tap tapped
  have silent : ∀ c, (tapOf xkb input c).isSome = false →
      (feed xkb keymap input .idle ((tapOf xkb input c).getD [])).2 = [] := by
    intro c unmapped
    cases tapped : tapOf xkb input c with
    | none => rfl
    | some keys =>
      rw [tapped] at unmapped
      cases unmapped
  have kept : (text.filter fun c => c ∉ text.filter fun c => (tapOf xkb input c).isNone) =
      text.filter fun c => (tapOf xkb input c).isSome := by
    refine List.filter_congr fun c member => ?_
    cases tapped : tapOf xkb input c with
    | none => simp [member, tapped]
    | some keys => simp [tapped]
  have fed : (feed xkb keymap input .idle
      (text.flatMap fun c => (tapOf xkb input c).getD [])).2 =
        (text.filter fun c => (tapOf xkb input c).isSome).flatMap fun c =>
          (feed xkb keymap input .idle ((tapOf xkb input c).getD [])).2 := by
    rw [feed_flat_map _ _ fun c _ => (tap c).1, flat_map_filter silent]
  constructor
  · rintro ⟨typed, reported⟩ c member
    rw [fed, kept, flat_map_eq_self fun c _ => (tap c).2] at typed
    unfold Typable
    cases tapped : tapOf xkb input c with
    | none => exact reported c (List.mem_filter.mpr ⟨member, by rw [tapped]; rfl⟩)
    | some keys =>
      have own := typed c (List.mem_filter.mpr ⟨member, by rw [tapped]; rfl⟩)
      rwa [tapped] at own
  · intro typable
    refine ⟨?_, ?_⟩
    · rw [fed, kept, flat_map_eq_self fun c _ => (tap c).2]
      intro c member
      obtain ⟨inside, mapped⟩ := List.mem_filter.mp member
      have own := typable c inside
      unfold Typable at own
      cases tapped : tapOf xkb input c with
      | none =>
        rw [tapped] at mapped
        cases mapped
      | some keys =>
        rw [tapped] at own
        exact own
    · intro c member
      obtain ⟨inside, unmapped⟩ := List.mem_filter.mp member
      have own := typable c inside
      unfold Typable at own
      rw [Option.isNone_iff_eq_none.mp unmapped] at own
      exact own

theorem upper_facts : ∀ n < 26, isWhitespace (Char.ofNat (65 + n)) = false ∧
    isWhitespace (Char.ofNat (65 + n)).toLower = false ∧
    (Char.ofNat (65 + n)).isAlpha = true ∧ (Char.ofNat (65 + n)).toLower.isAlpha = true ∧
    (Char.ofNat (65 + n)).toLower.toLower = (Char.ofNat (65 + n)).toLower ∧
    (Char.ofNat (65 + n)).toLower ≠ Char.ofNat (65 + n) := by
  decide

theorem upper_case_number {c : Char} (upper : c.isUpper = true) :
    ∃ n < 26, c = Char.ofNat (65 + n) := by
  have bounds : 'A'.val ≤ c.val ∧ c.val ≤ 'Z'.val := of_decide_eq_true upper
  rw [UInt32.le_iff_toNat_le, UInt32.le_iff_toNat_le] at bounds
  obtain ⟨low, high⟩ := bounds
  simp at low high
  refine ⟨c.toNat - 65, by omega, ?_⟩
  have number : 65 + (c.toNat - 65) = c.toNat := by omega
  rw [number, Char.ofNat_toNat]

/-- A text with an upper-case letter is not typed faithfully when the lower-case letter has a key
that types it. -/
theorem upper_not_typable {xkb : Xkb} {keymap : Keymap} {input : InputInjector} {c : Char}
    (upper : c.isUpper = true) {keys : List (ℕ × KeyState)}
    (tapped : tapOf xkb input c.toLower = some keys)
    (lower : (feed xkb keymap input .idle keys).2 = [c.toLower]) :
    ¬ Typable xkb keymap input c := by
  obtain ⟨n, bound, rfl⟩ := upper_case_number upper
  obtain ⟨plain, plainLower, letter, letterLower, twice, differs⟩ := upper_facts n bound
  have same : keysymOf xkb (Char.ofNat (65 + n)) = keysymOf xkb (Char.ofNat (65 + n)).toLower := by
    unfold keysymOf
    rw [plain, plainLower, if_pos letter, if_pos letterLower, twice]
  have tap : tapOf xkb input (Char.ofNat (65 + n)) = some keys := by
    rw [← tapped]
    unfold tapOf
    rw [same]
  unfold Typable
  rw [tap]
  intro typed
  exact differs (List.singleton_inj.mp (lower.symm.trans typed))

/-- White space is never typed. -/
theorem whitespace_typable {xkb : Xkb} {keymap : Keymap} {input : InputInjector} {c : Char}
    (white : isWhitespace c = true) :
    Typable xkb keymap input c ↔ ¬ Producible xkb keymap c := by
  have unmapped : tapOf xkb input c = none := by
    unfold tapOf keysymOf
    rw [white]
    rfl
  unfold Typable
  rw [unmapped]

/-- The run of `type_text`: the keys of every character that has some, and the others reported. -/
theorem run_type_text {P : Type} {xkb : Xkb} (input : InputInjector) (pointers : PointerHandle P)
    (documented : Documented xkb) {desk : Desk P} {windowId : Option WindowId}
    (focusable : Focusable desk.seat windowId) (text : List Char) :
    ∃ after, run input pointers desk (typeText xkb text windowId) =
        (after, .ok (text.filter fun c => (tapOf xkb input c).isNone)) ∧
      injected desk after = text.flatMap fun c => (tapOf xkb input c).getD [] := by
  obtain ⟨focused, activated, ready, delivered⟩ := run_activate input pointers focusable
  have typed := run_type_characters input pointers documented ready text
  exact ⟨_, (run_bind activated).trans typed, injected_deliver (congrArg (· ++ _) delivered)⟩

/-- `type_text` delivers a text faithfully exactly when each of its characters either has a key
that types it or is on no key of the keymap. -/
theorem type_text_faithful {P : Type} {xkb : Xkb} (documented : Documented xkb) (keymap : Keymap)
    (pointers : PointerHandle P) {desk : Desk P} {windowId : Option WindowId}
    (focusable : Focusable desk.seat windowId) (text : List Char) :
    (∃ after skipped,
        run (InputInjector.new xkb keymap) pointers desk (typeText xkb text windowId) =
          (after, .ok skipped) ∧
        Faithful xkb keymap (InputInjector.new xkb keymap) text (injected desk after) skipped) ↔
      ∀ c ∈ text, Typable xkb keymap (InputInjector.new xkb keymap) c := by
  obtain ⟨after, ran, keys⟩ := run_type_text (InputInjector.new xkb keymap) pointers documented
    focusable text
  rw [← faithful_iff, ← keys]
  constructor
  · rintro ⟨other, skipped, outcome, faithful⟩
    rw [ran] at outcome
    cases outcome
    exact faithful
  · intro faithful
    exact ⟨after, _, ran, faithful⟩

/-! ## A small keymap -/

/-- Four keys of a Latin layout: two letters, the space bar and the shift key. -/
def latinKeymap : Keymap where
  minKeycode := 30
  maxKeycode := 66
  numLayouts := 1
  numLevels keycode _ := if keycode = 31 ∨ keycode = 43 then 2 else 1
  symsByLevel keycode _ level :=
    match keycode, level with
    | 31, 0 => [0x69]
    | 31, 1 => [0x49]
    | 43, 0 => [0x68]
    | 43, 1 => [0x48]
    | 50, 0 => [0xffe1]
    | 65, 0 => [0x20]
    | _, _ => []
  levelOf _ _ shift _ := if shift then 1 else 0

theorem latin_documented : Documented latinXkb where
  letter c letter := by
    have alphanum : c.isAlphanum = true := by rw [Char.isAlphanum, letter]; rfl
    change (if c.isAlphanum then c.toLower.toNat else 0) = _
    rw [if_pos alphanum]
  digit c digit := by
    have alphanum : c.isAlphanum = true := by rw [Char.isAlphanum, digit, Bool.or_true]
    have same : c.toLower = c := by
      unfold Char.toLower
      rw [dif_neg]
      rintro ⟨low, _⟩
      simp only [Char.isDigit, Bool.and_eq_true, decide_eq_true_eq] at digit
      have high := digit.2
      simp only [ge_iff_le, UInt32.le_iff_toNat_le] at low high
      simp at low high
      omega
    change (if c.isAlphanum then c.toLower.toNat else 0) = _
    rw [if_pos alphanum, same]
  other c other := by
    change (if c.isAlphanum then c.toLower.toNat else 0) = _
    rw [if_neg (Bool.eq_false_iff.mp other)]

/-- A client has mapped a window. -/
def typingDesk : Desk ClickPointer where
  seat := finalState
    (seatMachine (InputInjector.new latinXkb latinKeymap) clickPointers ⟨1280, 800⟩ .new) anyStep
    [.client (.newToplevel 1), .client (.commit 1 [] true {} .empty)] (by decide +kernel)
  cursor := none

theorem typing_focusable (windowId : Option WindowId) (named : windowId = none ∨ windowId = some ⟨1⟩) :
    Focusable typingDesk.seat windowId := by
  have surface : (typingDesk.seat.surfaceOf ⟨1⟩).isSome := by decide +kernel
  rcases named with rfl | rfl
  · exact ⟨⟨1⟩, by decide +kernel, surface⟩
  · exact ⟨by decide +kernel, surface⟩

theorem type_text_faithful_hi :
    (∃ after skipped,
        run (InputInjector.new latinXkb latinKeymap) clickPointers typingDesk
          (typeText latinXkb "hi!".toList (some ⟨1⟩)) = (after, .ok skipped) ∧
        Faithful latinXkb latinKeymap (InputInjector.new latinXkb latinKeymap) "hi!".toList
          (injected typingDesk after) skipped) ∧
      ∀ c ∈ "hi!".toList,
        Typable latinXkb latinKeymap (InputInjector.new latinXkb latinKeymap) c := by
  have checked : "hi!".toList.all (fun c => decide
      (Typable latinXkb latinKeymap (InputInjector.new latinXkb latinKeymap) c)) = true := by
    decide +kernel
  have typable : ∀ c ∈ "hi!".toList,
      Typable latinXkb latinKeymap (InputInjector.new latinXkb latinKeymap) c :=
    fun c member => of_decide_eq_true (List.all_eq_true.mp checked c member)
  exact ⟨(type_text_faithful latin_documented latinKeymap clickPointers
    (typing_focusable (some ⟨1⟩) (.inr rfl)) "hi!".toList).mpr typable, typable⟩

/-- The keymap has a key for the upper-case letter and one for the space, but the letter is typed
in lower case and the space is reported as skipped. -/
theorem upper_case_and_space_lost :
    ¬ ∃ after skipped,
      run (InputInjector.new latinXkb latinKeymap) clickPointers typingDesk
        (typeText latinXkb "I hi".toList none) = (after, .ok skipped) ∧
      Faithful latinXkb latinKeymap (InputInjector.new latinXkb latinKeymap) "I hi".toList
        (injected typingDesk after) skipped := by
  rintro ⟨after, skipped, outcome, faithful⟩
  obtain ⟨typed, ran, keys⟩ := run_type_text (InputInjector.new latinXkb latinKeymap) clickPointers
    latin_documented (typing_focusable none (.inl rfl)) "I hi".toList
  rw [ran] at outcome
  cases outcome
  rw [keys, faithful_iff] at faithful
  exact absurd (faithful 'I' (by decide)) (by decide +kernel)

end ADesk.Server.Typing
