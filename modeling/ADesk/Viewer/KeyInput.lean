/- ADesk/Viewer/KeyInput
   digest: Key messages of a viewer, and the keys that the seat holds down after them. -/

import ADesk.Server.Typing
import Mathlib.Data.Finset.Basic

set_option autoImplicit false

namespace ADesk.Viewer.KeyInput

open ADesk.Core.Geometry (Rect)
open ADesk.Core.Ids (WindowId)
open ADesk.Compositor.Command
open ADesk.Compositor.Inject
open ADesk.Compositor.Keys
open ADesk.Foundation.Scripts
open ADesk.Server.Input
open ADesk.Server.Serving
open ADesk.Server.Typing
open ADesk.Wm.Policy (window)

/-! ## Applying a key message -/

inductive KeyAction
  | tap | pressed | released
  deriving DecidableEq

def noActiveWindow : ServerError := .compositor (.invalidRequest "no window is active".toList)

def notASingleKey : ServerError :=
  .compositor (.invalidRequest "a released key must be a single key".toList)

/-- The window that input of a viewer goes to, with its output rect. -/
def inputTarget : Handler (WindowId × Rect) := do
  let snapshot ← state
  match snapshot.keyboardFocus.or snapshot.activeWindowId with
  | none => .fail noActiveWindow
  | some target =>
    match snapshot.window target with
    | some window => pure (target, window.geometry)
    | none => .fail (unknownWindow target)

def parseFailure (target : WindowId) (error : ParseError) : ServerError :=
  commandError (some target) ⟨.invalidRequest, error.message⟩

def parseKeyChord (xkb : Xkb) (keys : KeySpec) (target : WindowId) : Except ServerError KeyCode :=
  (parseChord xkb keys.keys).mapError (parseFailure target)

/-- The key event that a message is translated into. -/
def keyEventOf (xkb : Xkb) (keys : KeySpec) (target : WindowId) :
    KeyAction → Except ServerError (KeyCode × KeyState)
  | .tap => (parseKeyChord xkb keys target).map (·, .pressed)
  | .pressed => (parseKeyChord xkb keys target).map (·, .pressed)
  | .released =>
    match keys.keys with
    | [only] => ((parseKey xkb only).mapError (parseFailure target)).map (·, .released)
    | _ => .error notASingleKey

/-- The key arm of `apply_input`. -/
def applyKey (xkb : Xkb) (keys : KeySpec) (action : KeyAction) : Handler Unit := do
  let target ← inputTarget
  match keyEventOf xkb keys target.1 action with
  | .error error => .fail error
  | .ok event =>
    activateIfNeeded (some target.1)
    sendUnit (some target.1) (.keyEvent event.1 event.2)

/-- A message that names exactly one key. -/
structure KeyMessage where
  keys : KeySpec
  action : KeyAction
  name : List Char
  single : keys.keys = [name]

variable {P : Type}

/-- The desk after the messages, applied one after the other. -/
def applyAll (xkb : Xkb) (input : InputInjector) (pointers : PointerHandle P) (desk : Desk P)
    (messages : List KeyMessage) : Desk P :=
  messages.foldl
    (fun desk message => (run input pointers desk (applyKey xkb message.keys message.action)).1) desk

/-! ## The keys that are held -/

/-- A key event at the seat. -/
def holdKey (held : Finset ℕ) : ℕ × KeyState → Finset ℕ
  | (keycode, .pressed) => insert keycode held
  | (keycode, .released) => held.erase keycode

/-- The keycodes that are down after the events of a seat. -/
def heldKeys (seat : Seat P) : Finset ℕ := (keysOf seat.delivered).foldl holdKey ∅

/-- The physical key of a name, when the keymap can produce it. -/
def keycodeOf (xkb : Xkb) (input : InputInjector) (name : List Char) : Option ℕ :=
  match parseKeysym xkb name with
  | .error _ => none
  | .ok keysym =>
    (input.keymap keysym.value).bind fun resolved =>
      (levelModifiers input resolved.level).map fun _ => resolved.keycode

def keycode (xkb : Xkb) (input : InputInjector) (message : KeyMessage) : Option ℕ :=
  keycodeOf xkb input message.name

/-- What a message asks for: `pressed` holds its key until `released`, `tap` changes nothing. -/
def expectedStep (xkb : Xkb) (input : InputInjector) (held : Finset ℕ) (message : KeyMessage) :
    Finset ℕ :=
  match keycode xkb input message, message.action with
  | some keycode, .pressed => insert keycode held
  | some keycode, .released => held.erase keycode
  | _, _ => held

/-- The keys whose last message other than a tap was `pressed`. -/
def expected (xkb : Xkb) (input : InputInjector) (messages : List KeyMessage) : Finset ℕ :=
  messages.foldl (expectedStep xkb input) ∅

/-- The `released` messages for a key that is not to be held. -/
def strays (xkb : Xkb) (input : InputInjector) (key : ℕ) : Finset ℕ → List KeyMessage → ℕ
  | _, [] => 0
  | held, message :: rest =>
    (if keycode xkb input message = some key ∧ message.action = .released ∧ key ∉ held
      then 1 else 0) + strays xkb input key (expectedStep xkb input held message) rest

def presses (key : ℕ) (keys : List (ℕ × KeyState)) : ℕ := keys.count (key, .pressed)

def releases (key : ℕ) (keys : List (ℕ × KeyState)) : ℕ := keys.count (key, .released)

/-- The law of key messages, for every key that is no level modifier: after each message the seat
holds exactly the keys asked for, and beyond the releases nobody's press asked for there is at most
one a press. -/
structure Lawful (xkb : Xkb) (input : InputInjector) (pointers : PointerHandle P) (desk : Desk P)
    (messages : List KeyMessage) : Prop where
  held : ∀ count key, ¬ IsModifier input key →
    (key ∈ heldKeys (applyAll xkb input pointers desk (messages.take count)).seat ↔
      key ∈ expected xkb input (messages.take count))
  matched : ∀ key, ¬ IsModifier input key →
    releases key (injected desk (applyAll xkb input pointers desk messages)) ≤
      presses key (injected desk (applyAll xkb input pointers desk messages)) +
        strays xkb input key ∅ messages

/-! ## The events of one message -/

variable {xkb : Xkb} {input : InputInjector} {pointers : PointerHandle P}

/-- Some window gets keys, and the window model has its geometry. -/
def Focused (seat : Seat P) : Prop :=
  ∃ id, seat.target = some id ∧ (window seat.wm.manager id).isSome ∧ (seat.surfaceOf id).isSome

def releaseKeysym (input : InputInjector) (keysym : ℕ) : Option (List (ℕ × KeyState)) :=
  (input.keymap keysym).bind fun resolved =>
    (levelModifiers input resolved.level).map fun modifiers =>
      bracket modifiers resolved.keycode .released

/-- The key events that a message sends to the seat. -/
def strokes (xkb : Xkb) (input : InputInjector) (message : KeyMessage) : List (ℕ × KeyState) :=
  match parseKeysym xkb message.name with
  | .error _ => []
  | .ok keysym =>
    (if message.action = .released then releaseKeysym input keysym.value
      else tapKeysym input keysym.value).getD []

theorem release_follows (input : InputInjector) (keysym : Keysym) :
    Follows (plan input (.single keysym) .released) (releaseKeysym input keysym.value) := by
  have released := plan_key_follows input keysym .released
  have planned : plan input (.single keysym) .released =
      ([(keysym, KeyState.released)].mapM
        fun entry => planKey input entry.1 entry.2).map List.flatten := rfl
  rw [planned, List.mapM_cons, List.mapM_nil]
  unfold releaseKeysym
  cases bracketed : (input.keymap keysym.value).bind fun resolved =>
      (levelModifiers input resolved.level).map fun modifiers =>
        bracket modifiers resolved.keycode .released with
  | none =>
    rw [bracketed] at released
    obtain ⟨error, failed, unmappable⟩ := released
    rw [failed]
    exact ⟨error, rfl, unmappable⟩
  | some keys =>
    rw [bracketed] at released
    rw [show planKey input keysym .released = _ from released]
    change Except.ok _ = Except.ok _
    simp

theorem run_target {desk : Desk P} {id : WindowId} (target : desk.seat.target = some id)
    (known : (window desk.seat.wm.manager id).isSome) :
    ∃ rect, run input pointers desk inputTarget = (desk, .ok (id, rect)) := by
  obtain ⟨record, found⟩ := Option.isSome_iff_exists.mp known
  have shown := snapshot_window desk.seat id
  rw [found] at shown
  have asked : run input pointers desk state = (desk, .ok desk.seat.snapshot) := rfl
  have focus : desk.seat.snapshot.keyboardFocus.or desk.seat.snapshot.activeWindowId = some id :=
    target
  refine ⟨record.geometry, ?_⟩
  unfold inputTarget
  rw [run_bind asked]
  simp only [focus, shown, Option.map_some]
  rfl

theorem run_activate_focused {desk : Desk P} {id : WindowId} (target : desk.seat.target = some id)
    (known : (window desk.seat.wm.manager id).isSome) :
    run input pointers desk (activateIfNeeded (some id)) = (desk, .ok ()) := by
  obtain ⟨record, found⟩ := Option.isSome_iff_exists.mp known
  have shown := snapshot_window desk.seat id
  rw [found] at shown
  have asked : run input pointers desk state = (desk, .ok desk.seat.snapshot) := rfl
  have focus : desk.seat.snapshot.keyboardFocus.or desk.seat.snapshot.activeWindowId = some id :=
    target
  unfold activateIfNeeded
  rw [run_bind asked]
  simp only [focus, shown, Option.map_some, if_true]
  rfl

theorem deliver_none (seat : Seat P) : seat.deliver (keyDeliveries []) = seat := by
  simp [Seat.deliver, keyDeliveries]

/-- A planned key event is delivered, one that cannot be planned changes nothing. -/
theorem run_key {desk : Desk P} (ready : Ready desk.seat) {id : WindowId} {key : KeyCode}
    {state : KeyState} {keys : Option (List (ℕ × KeyState))}
    (follows : Follows (plan input key state) keys) :
    (run input pointers desk (sendUnit (some id) (.keyEvent key state))).1 =
      { desk with seat := desk.seat.deliver (keyDeliveries (keys.getD [])) } := by
  cases keys with
  | some keys => rw [run_send (inject_planned ready follows), Option.getD_some]
  | none =>
    obtain ⟨error, failed, _⟩ := follows
    rw [run_send_error (inject_unplanned failed), Option.getD_none, deliver_none]

/-- What applying one message does to a desk with a focused window. -/
theorem run_apply {desk : Desk P} (focused : Focused desk.seat) (message : KeyMessage) :
    (run input pointers desk (applyKey xkb message.keys message.action)).1 =
      { desk with seat := desk.seat.deliver (keyDeliveries (strokes xkb input message)) } := by
  obtain ⟨id, target, known, surface⟩ := focused
  obtain ⟨rect, found⟩ : ∃ rect, run input pointers desk inputTarget = (desk, .ok (id, rect)) :=
    run_target target known
  have ready : Ready desk.seat := ⟨id, target, surface⟩
  have active : run input pointers desk (activateIfNeeded (some id)) = (desk, .ok ()) :=
    run_activate_focused target known
  unfold applyKey strokes
  rw [run_bind found]
  simp only
  -- A `pressed` message and a tap are translated alike.
  have chorded : parseKeyChord xkb message.keys id =
      ((parseKeysym xkb message.name).map fun keysym => KeyCode.chord [keysym]).mapError
        (parseFailure id) := by
    unfold parseKeyChord
    rw [message.single, parse_chord_single]
  cases parsed : parseKeysym xkb message.name with
  | error error =>
    rw [parsed] at chorded
    rw [deliver_none]
    cases action : message.action with
    | tap =>
      simp only [keyEventOf, chorded]
      rfl
    | pressed =>
      simp only [keyEventOf, chorded]
      rfl
    | released =>
      simp only [keyEventOf, message.single, parseKey, parsed]
      rfl
  | ok keysym =>
    rw [parsed] at chorded
    cases action : message.action with
    | tap =>
      simp only [keyEventOf, chorded]
      exact (congrArg Prod.fst (run_bind active)).trans
        (run_key ready (plan_follows input keysym))
    | pressed =>
      simp only [keyEventOf, chorded]
      exact (congrArg Prod.fst (run_bind active)).trans
        (run_key ready (plan_follows input keysym))
    | released =>
      simp only [keyEventOf, message.single, parseKey, parsed]
      exact (congrArg Prod.fst (run_bind active)).trans
        (run_key ready (release_follows input keysym))

/-! ## What the events leave held -/

variable {held : Finset ℕ} {key : ℕ} {modifiers : List ℕ}

/-- Events of other keys leave a key as it was. -/
theorem held_others {keys : List (ℕ × KeyState)} (others : ∀ event ∈ keys, event.1 ≠ key) :
    key ∈ keys.foldl holdKey held ↔ key ∈ held := by
  induction keys generalizing held with
  | nil => exact Iff.rfl
  | cons event rest ih =>
    have other := others event List.mem_cons_self
    rw [List.foldl_cons, ih fun later member => others later (List.mem_cons_of_mem _ member)]
    obtain ⟨changed, state⟩ := event
    cases state with
    | pressed => simp [holdKey, Ne.symm other]
    | released => simp [holdKey, Ne.symm other]

theorem bracket_others {changed : ℕ} (areModifiers : ∀ key ∈ modifiers, IsModifier input key)
    (plain : ¬ IsModifier input key) (other : key ≠ changed) (state : KeyState) :
    ∀ event ∈ bracket modifiers changed state, event.1 ≠ key := by
  intro event member same
  have named : event.1 ∈ modifiers ∨ event.1 = changed := by
    cases state with
    | pressed =>
      simp only [bracket, List.mem_append, List.mem_map, List.mem_singleton] at member
      rcases member with ⟨modifier, inside, rfl⟩ | rfl
      · exact Or.inl inside
      · exact Or.inr rfl
    | released =>
      simp only [bracket, List.mem_cons, List.mem_map, List.mem_reverse] at member
      rcases member with rfl | ⟨modifier, inside, rfl⟩
      · exact Or.inr rfl
      · exact Or.inl inside
  rcases named with inside | here
  · exact plain (same ▸ areModifiers _ inside)
  · exact other (same ▸ here)

/-- The modifiers of a level are not the key itself. -/
theorem modifier_events (areModifiers : ∀ key ∈ modifiers, IsModifier input key)
    (plain : ¬ IsModifier input key) (state : KeyState) {keys : List ℕ}
    (inside : ∀ modifier ∈ keys, modifier ∈ modifiers) :
    ∀ event ∈ keys.map fun modifier => (modifier, state), event.1 ≠ key := by
  intro event member same
  obtain ⟨modifier, listed, rfl⟩ := List.mem_map.mp member
  exact plain (same ▸ areModifiers modifier (inside modifier listed))

theorem held_release {changed : ℕ} (areModifiers : ∀ key ∈ modifiers, IsModifier input key)
    (plain : ¬ IsModifier input key) :
    key ∈ (bracket modifiers changed .released).foldl holdKey held ↔ key ∈ held.erase changed := by
  rw [bracket, List.foldl_cons]
  exact held_others (modifier_events areModifiers plain .released
    fun modifier listed => List.mem_reverse.mp listed)

theorem held_tap {changed : ℕ} (areModifiers : ∀ key ∈ modifiers, IsModifier input key)
    (plain : ¬ IsModifier input key) :
    key ∈ (bracket modifiers changed .pressed ++ bracket modifiers changed .released).foldl
      holdKey held ↔ key ∈ held.erase changed := by
  rw [List.foldl_append, held_release areModifiers plain]
  by_cases same : key = changed
  · simp [same]
  · simp only [Finset.mem_erase, ne_eq, same, not_false_eq_true, true_and]
    exact held_others (bracket_others areModifiers plain same .pressed)

theorem count_absent {keys : List (ℕ × KeyState)} (others : ∀ event ∈ keys, event.1 ≠ key)
    (state : KeyState) : keys.count (key, state) = 0 :=
  List.count_eq_zero.mpr fun member => others _ member rfl

theorem count_bracket {changed : ℕ} (areModifiers : ∀ key ∈ modifiers, IsModifier input key)
    (plain : ¬ IsModifier input key) (state other : KeyState) :
    (bracket modifiers changed state).count (key, other) =
      if key = changed ∧ other = state then 1 else 0 := by
  have silent : ∀ (keys : List ℕ) (state : KeyState), (∀ modifier ∈ keys, modifier ∈ modifiers) →
      (keys.map fun modifier => (modifier, state)).count (key, other) = 0 :=
    fun keys state inside => count_absent (modifier_events areModifiers plain state inside) other
  have one : [(changed, state)].count (key, other) =
      if key = changed ∧ other = state then 1 else 0 := by
    rw [List.count_singleton]
    simp only [beq_iff_eq, Prod.mk.injEq, @eq_comm _ changed key, @eq_comm _ state other]
  cases state with
  | pressed =>
    rw [bracket, List.count_append, silent _ _ fun _ listed => listed, Nat.zero_add, one]
  | released =>
    rw [bracket, ← List.singleton_append, List.count_append, one,
      silent _ _ fun _ listed => List.mem_reverse.mp listed, Nat.add_zero]

/-- The events of a message, when it names a key of the keymap. -/
theorem strokes_some {message : KeyMessage} {changed : ℕ}
    (named : keycode xkb input message = some changed) :
    ∃ modifiers, (∀ key ∈ modifiers, IsModifier input key) ∧
      strokes xkb input message =
        if message.action = .released then bracket modifiers changed .released
        else bracket modifiers changed .pressed ++ bracket modifiers changed .released := by
  unfold keycode keycodeOf at named
  unfold strokes
  split at named
  · cases named
  · next keysym parsed =>
    obtain ⟨resolved, found, rest⟩ := Option.bind_eq_some_iff.mp named
    obtain ⟨modifiers, levels, rfl⟩ := Option.map_eq_some_iff.mp rest
    refine ⟨modifiers, level_modifiers_spec levels, ?_⟩
    split
    · simp [releaseKeysym, found, levels]
    · simp [tapKeysym, found, levels]

theorem strokes_none {message : KeyMessage} (unnamed : keycode xkb input message = none) :
    strokes xkb input message = [] := by
  unfold keycode keycodeOf at unnamed
  unfold strokes
  split at unnamed
  · rfl
  · next keysym parsed =>
    unfold releaseKeysym tapKeysym
    cases found : input.keymap keysym.value with
    | none => simp
    | some resolved =>
      rw [found, Option.bind_some, Option.map_eq_none_iff] at unnamed
      simp [unnamed]

/-- Whatever the message, its key is up afterwards and the others are as they were. -/
theorem held_strokes (message : KeyMessage) (plain : ¬ IsModifier input key) :
    key ∈ (strokes xkb input message).foldl holdKey held ↔
      key ∈ held ∧ keycode xkb input message ≠ some key := by
  cases named : keycode xkb input message with
  | none =>
    rw [strokes_none named]
    simp
  | some changed =>
    obtain ⟨modifiers, areModifiers, same⟩ := strokes_some named
    have erased : key ∈ (strokes xkb input message).foldl holdKey held ↔
        key ∈ held.erase changed := by
      rw [same]
      split
      · exact held_release areModifiers plain
      · exact held_tap areModifiers plain
    rw [erased, Finset.mem_erase]
    simp [and_comm, eq_comm]

/-- A message that is no `pressed` releases a key at most once more than it presses it, and only
when it is a `released` of that key. -/
theorem count_strokes (message : KeyMessage) (plain : ¬ IsModifier input key) :
    releases key (strokes xkb input message) = presses key (strokes xkb input message) +
      if keycode xkb input message = some key ∧ message.action = .released then 1 else 0 := by
  unfold releases presses
  cases named : keycode xkb input message with
  | none =>
    rw [strokes_none named]
    simp
  | some changed =>
    obtain ⟨modifiers, areModifiers, same⟩ := strokes_some named
    rw [same]
    split
    · next action =>
      simp [count_bracket areModifiers plain, action, eq_comm]
    · next action =>
      simp [count_bracket areModifiers plain, action, List.count_append]

/-! ## Runs of messages -/

variable {desk : Desk P}

theorem apply_all (focused : Focused desk.seat) (messages : List KeyMessage) :
    applyAll xkb input pointers desk messages =
      { desk with
        seat := desk.seat.deliver (keyDeliveries (messages.flatMap (strokes xkb input))) } := by
  induction messages generalizing desk with
  | nil =>
    rw [List.flatMap_nil, deliver_none]
    rfl
  | cons message rest ih =>
    have first : applyAll xkb input pointers desk (message :: rest) =
        applyAll xkb input pointers
          { desk with seat := desk.seat.deliver (keyDeliveries (strokes xkb input message)) }
          rest := congrArg (applyAll xkb input pointers · rest) (run_apply focused message)
    have rest' := @ih
      { desk with seat := desk.seat.deliver (keyDeliveries (strokes xkb input message)) } focused
    rw [first, rest', deliver_deliver]
    simp [keyDeliveries]

theorem held_after (focused : Focused desk.seat) (messages : List KeyMessage) :
    heldKeys (applyAll xkb input pointers desk messages).seat =
      (messages.flatMap (strokes xkb input)).foldl holdKey (heldKeys desk.seat) := by
  rw [apply_all focused, heldKeys, heldKeys, ← List.foldl_append]
  simp only [Seat.deliver]
  rw [keysOf, List.filterMap_append]
  exact congrArg (fun keys => (keysOf desk.seat.delivered ++ keys).foldl holdKey ∅)
    (keys_of_deliveries _)

/-- No message leaves a key held that was not held before. -/
theorem never_held (messages : List KeyMessage) (plain : ¬ IsModifier input key)
    (unheld : key ∉ held) :
    key ∉ (messages.flatMap (strokes xkb input)).foldl holdKey held := by
  induction messages generalizing held with
  | nil => exact unheld
  | cons message rest ih =>
    rw [List.flatMap_cons, List.foldl_append]
    exact ih fun now => unheld ((held_strokes message plain).mp now).1

/-- The message asks for a key to be held. -/
def Holds (xkb : Xkb) (input : InputInjector) (key : ℕ) (message : KeyMessage) : Prop :=
  keycode xkb input message = some key ∧ message.action = .pressed

theorem expected_step (message : KeyMessage) (other : ¬ Holds xkb input key message)
    (unheld : key ∉ held) : key ∉ expectedStep xkb input held message := by
  unfold expectedStep
  split
  · next changed named action =>
    intro now
    rcases Finset.mem_insert.mp now with rfl | before
    · exact other ⟨named, action⟩
    · exact unheld before
  · exact fun now => unheld (Finset.mem_of_mem_erase now)
  · exact unheld

theorem never_expected (messages : List KeyMessage)
    (others : ∀ message ∈ messages, ¬ Holds xkb input key message) (unheld : key ∉ held) :
    key ∉ messages.foldl (expectedStep xkb input) held := by
  induction messages generalizing held with
  | nil => exact unheld
  | cons message rest ih =>
    refine ih (fun later member => others later (List.mem_cons_of_mem _ member)) ?_
    exact expected_step message (others message List.mem_cons_self) unheld

theorem expected_pressed {messages : List KeyMessage} {message : KeyMessage}
    (member : message ∈ messages) (holds : Holds xkb input key message) :
    ∃ count, key ∈ expected xkb input (messages.take count) := by
  obtain ⟨before, rest, rfl⟩ := List.mem_iff_append.mp member
  refine ⟨before.length + 1, ?_⟩
  have upTo : (before ++ message :: rest).take (before.length + 1) = before ++ [message] := by
    simp [List.take_append]
  rw [upTo, expected, List.foldl_append, List.foldl_cons, List.foldl_nil]
  obtain ⟨named, action⟩ := holds
  simp [expectedStep, named, action]

/-- Without a `pressed` every release beyond the presses is a stray one. -/
theorem matched_strokes (messages : List KeyMessage) (plain : ¬ IsModifier input key)
    (others : ∀ message ∈ messages, ¬ Holds xkb input key message) (unheld : key ∉ held) :
    releases key (messages.flatMap (strokes xkb input)) =
      presses key (messages.flatMap (strokes xkb input)) + strays xkb input key held messages := by
  induction messages generalizing held with
  | nil => rfl
  | cons message rest ih =>
    have first : releases key (strokes xkb input message) = presses key (strokes xkb input message) +
        if keycode xkb input message = some key ∧ message.action = .released then 1 else 0 :=
      count_strokes message plain
    have later := ih (fun later member => others later (List.mem_cons_of_mem _ member))
      (expected_step message (others message List.mem_cons_self) unheld)
    unfold releases presses at first later ⊢
    rw [List.flatMap_cons, List.count_append, List.count_append, first, later, strays]
    simp only [unheld, not_false_eq_true, and_true]
    omega

/-- Key messages keep the law exactly when none of them is a `pressed` of a key that is no level
modifier: the seat taps it. -/
theorem key_messages_lawful (xkb : Xkb) (input : InputInjector) (pointers : PointerHandle P)
    {desk : Desk P} (focused : Focused desk.seat)
    (unheld : ∀ key, ¬ IsModifier input key → key ∉ heldKeys desk.seat)
    (messages : List KeyMessage) :
    Lawful xkb input pointers desk messages ↔ ∀ message ∈ messages, ∀ key,
      keycode xkb input message = some key → ¬ IsModifier input key →
        message.action ≠ .pressed := by
  have up : ∀ (messages : List KeyMessage) key, ¬ IsModifier input key →
      key ∉ heldKeys (applyAll xkb input pointers desk messages).seat := by
    intro messages key plain
    rw [held_after focused]
    exact never_held messages plain (unheld key plain)
  constructor
  · intro lawful message member key named plain action
    obtain ⟨count, asked⟩ := expected_pressed member ⟨named, action⟩
    exact up _ key plain ((lawful.held count key plain).mpr asked)
  · intro condition
    have others : ∀ key, ¬ IsModifier input key → ∀ message ∈ messages,
        ¬ Holds xkb input key message :=
      fun key plain message member holds => condition message member key holds.1 plain holds.2
    refine ⟨?_, ?_⟩
    · intro count key plain
      refine iff_of_false (up _ key plain) ?_
      refine never_expected _ (fun message member => ?_) (Finset.notMem_empty key)
      exact others key plain message (List.mem_of_mem_take member)
    · intro key plain
      rw [injected_deliver (congrArg (fun desk => desk.seat.delivered) (apply_all focused messages))]
      exact Nat.le_of_eq (matched_strokes messages plain (others key plain)
        (Finset.notMem_empty key))

/-! ## A small keymap -/

def latinInput : InputInjector := .new latinXkb latinKeymap

def keyMessage (name : String) (action : KeyAction) : KeyMessage :=
  ⟨.single name.toList, action, name.toList, rfl⟩

theorem typing_focused : Focused typingDesk.seat :=
  ⟨⟨1⟩, by decide +kernel, by decide +kernel, by decide +kernel⟩

theorem typing_unheld : heldKeys typingDesk.seat = ∅ := by decide +kernel

theorem h_key (action : KeyAction) :
    keycode latinXkb latinInput (keyMessage "h" action) = some 43 := by
  have named : keycodeOf latinXkb latinInput "h".toList = some 43 := by decide +kernel
  exact named

theorem h_plain : ¬ IsModifier latinInput 43 := by
  unfold IsModifier
  decide +kernel

theorem key_messages_lawful_tapped :
    Lawful latinXkb latinInput clickPointers typingDesk
      [keyMessage "h" .tap, keyMessage "h" .released] := by
  refine (key_messages_lawful latinXkb latinInput clickPointers typing_focused
    (fun key _ => typing_unheld ▸ Finset.notMem_empty key) _).mpr ?_
  intro message member key _ _
  rcases List.mem_cons.mp member with rfl | later
  · exact fun action => by cases action
  · rw [List.mem_singleton.mp later]
    exact fun action => by cases action

/-- A `pressed` key is up again at once. -/
theorem pressed_key_tapped :
    ¬ ∀ messages, Lawful latinXkb latinInput clickPointers typingDesk messages := by
  intro claimed
  have lawful := claimed [keyMessage "h" .pressed]
  have asked : 43 ∈ expected latinXkb latinInput [keyMessage "h" .pressed] := by
    rw [expected, List.foldl_cons, List.foldl_nil, expectedStep, h_key]
    exact Finset.mem_insert_self _ _
  have down := (lawful.held 1 43 h_plain).mpr asked
  rw [held_after typing_focused, typing_unheld] at down
  exact never_held _ h_plain (Finset.notMem_empty _) down

end ADesk.Viewer.KeyInput
