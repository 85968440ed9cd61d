/- ADesk/Compositor/Chords
   digest: Injected keys and chords are planned as a whole, balanced, and pressed with their level
   modifiers held. -/

import ADesk.Compositor.Inject
import ADesk.Foundation.Strokes

set_option autoImplicit false

namespace ADesk.Compositor.Chords

open ADesk.Compositor.Command
open ADesk.Compositor.Inject
open ADesk.Compositor.Keys
open ADesk.Foundation.Execution
open ADesk.Foundation.Strokes

section MapM

variable {ε α β γ : Type}

theorem map_m_map (f : α → Except ε β) (g : β → γ) (items : List α) :
    (items.mapM fun item => (f item).map g) = (items.mapM f).map (List.map g) := by
  induction items with
  | nil => rfl
  | cons item items ih =>
    rw [List.mapM_cons, List.mapM_cons, ih]
    cases f item with
    | error error => rfl
    | ok first => cases items.mapM f <;> rfl

theorem map_m_append {f : α → Except ε β} {front back : List α} {results : List β}
    (done : (front ++ back).mapM f = .ok results) :
    ∃ first second, front.mapM f = .ok first ∧ back.mapM f = .ok second ∧
      results = first ++ second := by
  rw [List.mapM_append] at done
  cases ahead : front.mapM f with
  | error error =>
    rw [ahead] at done
    cases done
  | ok first =>
    rw [ahead] at done
    cases behind : back.mapM f with
    | error error =>
      rw [behind] at done
      cases done
    | ok second =>
      rw [behind] at done
      cases done
      exact ⟨first, second, rfl, rfl, rfl⟩

theorem map_m_reverse {f : α → Except ε β} {items : List α} {results : List β}
    (done : items.mapM f = .ok results) : items.reverse.mapM f = .ok results.reverse := by
  induction items generalizing results with
  | nil =>
    cases done
    rfl
  | cons item items ih =>
    obtain ⟨first, second, head, tail, rfl⟩ := map_m_append (show ([item] ++ items).mapM f = .ok results from done)
    rw [List.reverse_cons, List.mapM_append, ih tail, List.reverse_append]
    have single : first.reverse = first := by
      rw [List.mapM_cons, List.mapM_nil] at head
      cases found : f item with
      | error error =>
        rw [found] at head
        cases head
      | ok result =>
        rw [found] at head
        cases head
        rfl
    rw [head, single]
    rfl

end MapM

/-! ## What is pressed for a key -/

def edge : KeyState → Edge
  | .pressed => .pressed
  | .released => .released

/-- The key events among the deliveries. -/
def keyStrokes (delivered : List Delivery) : List (ℕ × Edge) :=
  delivered.filterMap fun
    | .key keycode state => some (keycode, edge state)
    | .motion .. | .button .. | .axis .. => none

def stroke (key : ℕ × KeyState) : ℕ × Edge := (key.1, edge key.2)

/-- The keycodes of the modifiers that a shift level requires. -/
def levelKeys (input : InputInjector) (level : ℕ) : Except CompositorError (List ℕ) :=
  (levelModifierNames level).mapM (modifierKeycode input)

/-- The keycodes pressed for one keysym. -/
def pressedFor (input : InputInjector) (keysym : Keysym) : Except CompositorError (List ℕ) :=
  (planKey input keysym .pressed).map (List.map Prod.fst)

/-- The keycodes pressed for keys in turn. -/
def pressedInTurn (input : InputInjector) (keysyms : List Keysym) :
    Except CompositorError (List ℕ) :=
  (keysyms.mapM (pressedFor input)).map List.flatten

/-- The key events tap the keys: they are balanced, and when a key is pressed, after those before
it, the modifiers of its level are down, whatever else is. -/
structure Taps (input : InputInjector) (keysyms : List Keysym) (strokes : List (ℕ × Edge)) :
    Prop where
  balanced : ∀ keycode, releases keycode strokes = presses keycode strokes
  covered : Covered strokes
  supported : ∀ earlier keysym later, keysyms = earlier ++ keysym :: later →
    ∃ before resolved modifiers after,
      pressedInTurn input earlier = .ok before ∧ input.keymap keysym.value = some resolved ∧
      levelKeys input resolved.level = .ok modifiers ∧
      strokes = (before ++ modifiers).map (·, .pressed) ++ (resolved.keycode, .pressed) :: after ∧
      ∀ held : Finset ℕ, ∀ modifier ∈ modifiers,
        modifier ∈ ((before ++ modifiers).map (·, Edge.pressed)).foldl apply held

variable {input : InputInjector} {keysyms : List Keysym} {keysym : Keysym} {keys : List ℕ}

/-- One key is planned when its keysym and the modifiers of its level are on the keymap. -/
theorem pressed_for_ok (done : pressedFor input keysym = .ok keys) :
    ∃ resolved modifiers, input.keymap keysym.value = some resolved ∧
      levelKeys input resolved.level = .ok modifiers ∧ keys = modifiers ++ [resolved.keycode] := by
  unfold pressedFor planKey at done
  cases found : input.keymap keysym.value with
  | none =>
    rw [found] at done
    cases done
  | some resolved =>
    rw [found] at done
    simp only at done
    cases level : levelKeys input resolved.level with
    | error error =>
      rw [show (levelModifierNames resolved.level).mapM (modifierKeycode input) = _ from level]
        at done
      cases done
    | ok modifiers =>
      rw [show (levelModifierNames resolved.level).mapM (modifierKeycode input) = _ from level]
        at done
      refine ⟨resolved, modifiers, rfl, level, ?_⟩
      have same := Except.ok.inj done
      simpa [bracket, Function.comp_def] using same.symm

/-- The events of a key, in either direction. -/
def inDirection (keys : List ℕ) : KeyState → List (ℕ × KeyState)
  | .pressed => keys.map (·, .pressed)
  | .released => keys.reverse.map (·, .released)

theorem plan_key_eq (input : InputInjector) (keysym : Keysym) (state : KeyState) :
    planKey input keysym state = (pressedFor input keysym).map (inDirection · state) := by
  unfold pressedFor planKey
  cases input.keymap keysym.value with
  | none => rfl
  | some resolved =>
    simp only
    cases (levelModifierNames resolved.level).mapM (modifierKeycode input) with
    | error error => rfl
    | ok modifiers =>
      change Except.ok _ = Except.ok _
      cases state <;> simp [bracket, inDirection, Function.comp_def]

theorem strokes_pressed (groups : List (List ℕ)) :
    (groups.map (inDirection · .pressed)).flatten.map stroke =
      groups.flatten.map (·, Edge.pressed) := by
  simp [List.map_flatten, Function.comp_def, inDirection, stroke, edge]

theorem strokes_released (groups : List (List ℕ)) :
    (groups.reverse.map (inDirection · .released)).flatten.map stroke =
      groups.flatten.reverse.map (·, Edge.released) := by
  rw [List.reverse_flatten]
  simp [List.map_flatten, Function.comp_def, inDirection, stroke, edge, List.map_reverse]

/-- A chord is planned as the tap of everything that is pressed for its keys. -/
theorem plan_chord (nonempty : keysyms ≠ []) {planned : List (ℕ × KeyState)}
    (done : plan input (.chord keysyms) .pressed = .ok planned) :
    ∃ keys, pressedInTurn input keysyms = .ok keys ∧ planned.map stroke = tap keys := by
  have sequence : chordSequence (.chord keysyms) .pressed =
      .ok (keysyms.map (·, .pressed) ++ keysyms.reverse.map (·, .released)) := by
    cases keysyms with
    | nil => exact absurd rfl nonempty
    | cons first rest => rfl
  unfold plan at done
  rw [sequence] at done
  simp only at done
  cases whole : (keysyms.map (·, KeyState.pressed) ++
      keysyms.reverse.map (·, KeyState.released)).mapM
        fun entry : Keysym × KeyState => planKey input entry.1 entry.2 with
  | error error =>
    rw [whole] at done
    cases done
  | ok brackets =>
    rw [whole] at done
    cases done
    obtain ⟨pressing, releasing, ahead, behind, rfl⟩ := map_m_append whole
    rw [List.mapM_map] at ahead behind
    simp only [plan_key_eq, Function.comp_def, map_m_map] at ahead behind
    cases groups : keysyms.mapM (pressedFor input) with
    | error error =>
      rw [groups] at ahead
      cases ahead
    | ok groups' =>
      rw [groups] at ahead
      rw [map_m_reverse groups] at behind
      cases ahead
      cases behind
      refine ⟨groups'.flatten, by rw [pressedInTurn, groups]; rfl, ?_⟩
      rw [List.flatten_append, List.map_append, strokes_pressed, strokes_released, tap]

theorem plan_single {state : KeyState} {planned : List (ℕ × KeyState)}
    (done : plan input (.single keysym) state = .ok planned) :
    ∃ keys, pressedInTurn input [keysym] = .ok keys ∧ planned = inDirection keys state := by
  have sequence : plan input (.single keysym) state =
      ([(keysym, state)].mapM fun entry => planKey input entry.1 entry.2).map List.flatten := rfl
  rw [sequence, List.mapM_cons, List.mapM_nil] at done
  simp only [plan_key_eq] at done
  unfold pressedInTurn
  rw [List.mapM_cons, List.mapM_nil]
  cases keys : pressedFor input keysym with
  | error error =>
    rw [keys] at done
    cases done
  | ok keys' =>
    rw [keys] at done
    cases done
    exact ⟨keys', by change Except.ok _ = Except.ok _; simp, by simp⟩

/-! ## Taps -/

theorem pressed_in_turn_split {earlier later : List Keysym}
    (done : pressedInTurn input (earlier ++ keysym :: later) = .ok keys) :
    ∃ before own after, pressedInTurn input earlier = .ok before ∧
      pressedFor input keysym = .ok own ∧ keys = before ++ own ++ after := by
  unfold pressedInTurn at done
  cases whole : (earlier ++ keysym :: later).mapM (pressedFor input) with
  | error error =>
    rw [whole] at done
    cases done
  | ok groups =>
    rw [whole] at done
    cases done
    obtain ⟨first, second, ahead, behind, rfl⟩ := map_m_append whole
    obtain ⟨own, rest, here, -, rfl⟩ := map_m_append
      (show ([keysym] ++ later).mapM (pressedFor input) = .ok second from behind)
    cases group : pressedFor input keysym with
    | error error =>
      rw [List.mapM_cons, group] at here
      cases here
    | ok keys =>
      rw [List.mapM_cons, group] at here
      cases here
      refine ⟨first.flatten, keys, rest.flatten, ?_, rfl, ?_⟩
      · rw [pressedInTurn, ahead]
        rfl
      · simp

/-- Pressing the keys in turn and releasing them in reverse taps them. -/
theorem taps_of_pressed (done : pressedInTurn input keysyms = .ok keys) :
    Taps input keysyms (tap keys) where
  balanced keycode := by rw [releases_tap, presses_tap]
  covered := covered_tap keys
  supported := by
    intro earlier keysym later split
    subst split
    obtain ⟨before, own, after, ahead, here, rfl⟩ := pressed_in_turn_split done
    obtain ⟨resolved, modifiers, found, level, rfl⟩ := pressed_for_ok here
    refine ⟨before, resolved, modifiers, after.map (·, .pressed) ++
      (before ++ (modifiers ++ [resolved.keycode]) ++ after).reverse.map (·, .released),
      ahead, found, level, ?_, ?_⟩
    · simp [tap]
    · intro held modifier member
      exact mem_pressed.mpr (Or.inl (List.mem_append_right before member))

/-! ## Injected keys -/

variable {P : Type}

theorem inject_key_ok {seat after : Seat P} {key : KeyCode} {state : KeyState}
    (done : seat.injectKey input key state = .ok after) :
    ∃ planned, plan input key state = .ok planned ∧
      after = seat.deliver (planned.map fun key => .key key.1 key.2) := by
  unfold Seat.injectKey at done
  cases planned : plan input key state with
  | error error =>
    rw [planned] at done
    cases done
  | ok planned' =>
    rw [planned] at done
    cases target : seat.target with
    | none =>
      rw [target] at done
      cases done
    | some id =>
      rw [target] at done
      simp only at done
      cases surface : seat.surfaceOf id with
      | none =>
        rw [surface] at done
        cases done
      | some surface' =>
        rw [surface] at done
        cases done
        exact ⟨planned', rfl, rfl⟩

theorem key_strokes_planned (planned : List (ℕ × KeyState)) :
    keyStrokes (planned.map fun key => .key key.1 key.2) = planned.map stroke := by
  rw [keyStrokes, List.filterMap_map]
  exact congrFun (List.filterMap_eq_map (f := stroke)) planned

/-- A request that fails leaves the seat as it was, and the events of a chord, or of a key that is
pressed and, whatever happens in between, released, tap it. -/
theorem inject_key_balanced (input : InputInjector) (pointers : PointerHandle P) :
    (∀ (seat : Seat P) key state error, seat.injectKey input key state = .error error →
        (seat.serve input pointers (.keyEvent key state)).1 = seat) ∧
      (∀ (seat : Seat P) keysyms, ∃ error,
        seat.injectKey input (.chord keysyms) .released = .error error) ∧
      (∀ (seat tapped : Seat P) keysyms,
        seat.injectKey input (.chord keysyms) .pressed = .ok tapped →
          ∃ sent, tapped = seat.deliver sent ∧ Taps input keysyms (keyStrokes sent)) ∧
      ∀ (seat pressed between released : Seat P) keysym,
        seat.injectKey input (.single keysym) .pressed = .ok pressed →
        between.injectKey input (.single keysym) .released = .ok released →
          ∃ down up, pressed = seat.deliver down ∧ released = between.deliver up ∧
            Taps input [keysym] (keyStrokes (down ++ up)) := by
  refine ⟨?_, ?_, ?_, ?_⟩
  · intro seat key state error failed
    have refused : seat.perform input pointers (.keyEvent key state) = .error error := failed
    unfold Seat.serve
    rw [refused]
  · intro seat keysyms
    cases keysyms with
    | nil => exact ⟨_, rfl⟩
    | cons first rest => exact ⟨_, rfl⟩
  · intro seat tapped keysyms done
    obtain ⟨planned, plans, rfl⟩ := inject_key_ok done
    have nonempty : keysyms ≠ [] := by
      rintro rfl
      cases plans
    obtain ⟨keys, pressing, taps⟩ := plan_chord nonempty plans
    refine ⟨_, rfl, ?_⟩
    rw [key_strokes_planned, taps]
    exact taps_of_pressed pressing
  · intro seat pressed between released keysym pressing releasing
    obtain ⟨down, plansDown, rfl⟩ := inject_key_ok pressing
    obtain ⟨up, plansUp, rfl⟩ := inject_key_ok releasing
    obtain ⟨keys, turn, rfl⟩ := plan_single plansDown
    obtain ⟨keys', turn', rfl⟩ := plan_single plansUp
    rw [turn] at turn'
    cases turn'
    refine ⟨_, _, rfl, rfl, ?_⟩
    have taps : keyStrokes (((inDirection keys .pressed).map fun key => .key key.1 key.2) ++
        (inDirection keys .released).map fun key => .key key.1 key.2) = tap keys := by
      rw [← List.map_append, key_strokes_planned]
      simp [inDirection, stroke, edge, tap, Function.comp_def]
    rw [taps]
    exact taps_of_pressed turn

/-- A keymap with a plain key, a shifted one and the shift key. -/
def shiftedKeys : InputInjector where
  keymap
    | 97 => some ⟨38, 0⟩
    | 65 => some ⟨38, 1⟩
    | 0xffe1 => some ⟨50, 0⟩
    | _ => none
  shift := some 50
  level3 := none

/-- A client has mapped a window. -/
def keyedSeat : Seat ClickPointer :=
  finalState (seatMachine shiftedKeys clickPointers ⟨1280, 800⟩ .new) anyStep
    [.client (.newToplevel 1), .client (.commit 1 [] true {} .empty)] (by decide +kernel)

/-- Shift, a plain key and its shifted level share keycodes, and the chord stays balanced. -/
theorem shifted_chord_taps :
    ∃ sent, (keyedSeat.injectKey shiftedKeys
        (.chord [⟨"Shift_L".toList, 0xffe1⟩, ⟨"a".toList, 97⟩, ⟨"A".toList, 65⟩]) .pressed =
          .ok (keyedSeat.deliver sent)) ∧
      Taps shiftedKeys [⟨"Shift_L".toList, 0xffe1⟩, ⟨"a".toList, 97⟩, ⟨"A".toList, 65⟩]
        (keyStrokes sent) := by
  obtain ⟨tapped, done⟩ : ∃ tapped, keyedSeat.injectKey shiftedKeys
      (.chord [⟨"Shift_L".toList, 0xffe1⟩, ⟨"a".toList, 97⟩, ⟨"A".toList, 65⟩]) .pressed =
        .ok tapped := ⟨_, rfl⟩
  obtain ⟨sent, rfl, taps⟩ :=
    (inject_key_balanced shiftedKeys clickPointers).2.2.1 keyedSeat tapped _ done
  exact ⟨sent, done, taps⟩

end ADesk.Compositor.Chords
