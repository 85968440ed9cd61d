/- ADesk/Viewer/Keystroke
   digest: How the viewer routes key presses and releases, and when every raw key it forwards as
   pressed is released again. -/

import Mathlib.Data.Finset.Basic
import ADesk.Foundation.Execution
import ADesk.Foundation.Strokes

set_option autoImplicit false

namespace ADesk.Viewer.Keystroke

open ADesk.Foundation.Execution
open ADesk.Foundation.Strokes

universe u

/-! ## The router -/

/-- The modifiers that make a keystroke a chord. -/
structure Modifiers where
  ctrl : Bool := false
  alt : Bool := false
  super : Bool := false
  deriving DecidableEq, Repr

def Modifiers.any (modifiers : Modifiers) : Bool :=
  modifiers.ctrl || modifiers.alt || modifiers.super

def escapeModifiers : Modifiers := { ctrl := true, alt := true }

def escapeKey : String := "Escape"

inductive KeyRoute
  | key (name : String)
  | text (text : String)
  | ignore
  deriving DecidableEq, Repr

/-- What the toolkit layer does with one keystroke. -/
inductive Delivery
  | forward (route : KeyRoute)
  | escape
  | pass
  deriving DecidableEq, Repr

def isEscapeChord (name : Option String) (modifiers : Modifiers) : Bool :=
  name == some escapeKey && modifiers == escapeModifiers

/-- The Unicode control characters. -/
def isControl (character : Char) : Bool :=
  decide (character.toNat < 0x20) ||
    (decide (0x7F ≤ character.toNat) && decide (character.toNat ≤ 0x9F))

/-- The name of a key that has one. -/
def named (name : Option String) : Option String := name.filter fun name => name ≠ ""

/-- A press that is not part of a chord and produces a character types it. -/
def plainText (unicode : Option Char) (modifiers : Modifiers) : Option Char :=
  if modifiers.any then none else unicode.filter fun character => !isControl character

def routePress (name : Option String) (unicode : Option Char) (modifiers : Modifiers) : KeyRoute :=
  match plainText unicode modifiers with
  | some character => .text (String.singleton character)
  | none =>
    match named name with
    | some name => .key name
    | none => .ignore

/-- The names of the keys whose press was forwarded as a raw key. -/
structure KeyRouter where
  forwarded : Finset String := ∅

def KeyRouter.press (router : KeyRouter) (name : Option String) (unicode : Option Char)
    (modifiers : Modifiers) (focused : Bool) : KeyRouter × Delivery :=
  if isEscapeChord name modifiers then (router, .escape)
  else if !focused then (router, .pass)
  else
    match routePress name unicode modifiers with
    | .ignore => (router, .pass)
    | .key key => ({ forwarded := insert key router.forwarded }, .forward (.key key))
    | .text text => (router, .forward (.text text))

def KeyRouter.release (router : KeyRouter) (name : Option String) (modifiers : Modifiers)
    (focused : Bool) : KeyRouter × Delivery :=
  if isEscapeChord name modifiers then
    ({ forwarded := router.forwarded.erase escapeKey }, .escape)
  else if !focused then (router, .pass)
  else
    match named name with
    | none => (router, .pass)
    | some name =>
      if name ∈ router.forwarded then
        ({ forwarded := router.forwarded.erase name }, .forward (.key name))
      else (router, .pass)

/-! ## The frame view -/

/-- A keyboard command that is sent to the runtime. -/
inductive InputCommand
  | key (name : String) (action : Edge)
  | text (text : String)
  deriving DecidableEq, Repr

def forward (route : KeyRoute) (action : Edge) : List InputCommand :=
  match route with
  | .key name => [.key name action]
  | .text text => [.text text]
  | .ignore => []

def deliverKey (delivery : Delivery) (action : Edge) : List InputCommand :=
  match delivery with
  | .forward route => forward route action
  | .escape | .pass => []

/-- The raw keys among the commands. -/
def rawKeys (sent : List InputCommand) : List (String × Edge) :=
  sent.filterMap fun command =>
    match command with
    | .key name action => some (name, action)
    | .text _ => none

/-- The name a delivered press was forwarded under. -/
def rawName : Delivery → Option String
  | .forward (.key name) => some name
  | _ => none

variable (K : Type u)

/-- The frame view, the commands it sent, and the physical keys that are held, each with the name
its press was forwarded under. -/
structure State where
  router : KeyRouter := {}
  focused : Bool := false
  held : List (K × Option String) := []
  sent : List InputCommand := []

/-- A physical key goes down or up, with what the toolkit reports of it then, or the keyboard
focus of the frame view changes. -/
inductive Action
  | press (key : K) (name : Option String) (unicode : Option Char) (modifiers : Modifiers)
  | release (key : K) (name : Option String) (modifiers : Modifiers)
  | focus (focused : Bool)

variable {K}

/-- The physical key is down. -/
def State.Holds (state : State K) (key : K) : Prop := key ∈ state.held.map Prod.fst

instance [DecidableEq K] (state : State K) (key : K) : Decidable (state.Holds key) :=
  inferInstanceAs (Decidable (key ∈ _))

def State.step [DecidableEq K] (state : State K) : Action K → Option (State K)
  | .press key name unicode modifiers =>
    if state.Holds key then none
    else
      let (router, delivery) := state.router.press name unicode modifiers state.focused
      some { state with
        router := router
        held := (key, rawName delivery) :: state.held
        sent := state.sent ++ deliverKey delivery .pressed }
  | .release key name modifiers =>
    if state.Holds key then
      let (router, delivery) := state.router.release name modifiers state.focused
      some { state with
        router := router
        held := state.held.filter fun entry => entry.1 ≠ key
        sent := state.sent ++ deliverKey delivery .released }
    else none
  | .focus focused => some { state with focused := focused }

/-- Any sequence of key events and focus changes. -/
def viewer (K : Type u) [DecidableEq K] : Machine (State K) (Action K) where
  init := {}
  step := State.step

/-- A raw key is pressed only while no key of its name is outstanding. The last held key that an
outstanding name stands for is released under the same name and with the focus, and the escape
chord is not released over an outstanding Escape. -/
def Pairs (state : State K) : Action K → Prop
  | .press _ name unicode modifiers =>
    isEscapeChord name modifiers = false → state.focused = true →
      ∀ raw, routePress name unicode modifiers = .key raw → raw ∉ state.router.forwarded
  | .release key name modifiers =>
    (isEscapeChord name modifiers = true → escapeKey ∉ state.router.forwarded) ∧
      ∀ raw ∈ state.router.forwarded, (key, some raw) ∈ state.held →
        (state.focused = true ∧ name = some raw) ∨
          ∃ entry ∈ state.held, entry.1 ≠ key ∧ entry.2 = some raw
  | .focus _ => True

/-! ## What one event does -/

/-- The raw keys and the outstanding names move together: nothing, a press, a release, or an
Escape that is forgotten. -/
inductive Moves (before after : KeyRouter) (delivery : Delivery) (action : Edge) : Prop
  | still (kept : after.forwarded = before.forwarded)
      (silent : rawKeys (deliverKey delivery action) = [])
  | pressed (name : String) (down : action = .pressed)
      (added : after.forwarded = insert name before.forwarded)
      (sent : rawKeys (deliverKey delivery action) = [(name, .pressed)])
  | released (name : String) (inside : name ∈ before.forwarded)
      (removed : after.forwarded = before.forwarded.erase name)
      (sent : rawKeys (deliverKey delivery action) = [(name, .released)])
  | forgotten (removed : after.forwarded = before.forwarded.erase escapeKey)
      (silent : rawKeys (deliverKey delivery action) = [])

section Router

variable {router : KeyRouter} {name : Option String} {unicode : Option Char}
  {modifiers : Modifiers} {focused : Bool}

theorem named_some {raw : String} : named name = some raw ↔ name = some raw ∧ raw ≠ "" := by
  simp [named, Option.filter_eq_some_iff]

theorem route_key {raw : String} (routed : routePress name unicode modifiers = .key raw) :
    raw ≠ "" := by
  unfold routePress at routed
  split at routed
  · cases routed
  · split at routed
    · next has =>
      cases routed
      exact (named_some.mp has).2
    · cases routed

/-- A press is forwarded raw exactly when it is routed so, with the focus and off the chord. -/
theorem press_cases (router : KeyRouter) (name : Option String) (unicode : Option Char)
    (modifiers : Modifiers) (focused : Bool) :
    (∃ raw, isEscapeChord name modifiers = false ∧ focused = true ∧
        routePress name unicode modifiers = .key raw ∧
        router.press name unicode modifiers focused =
          (⟨insert raw router.forwarded⟩, .forward (.key raw))) ∨
      ((router.press name unicode modifiers focused).1 = router ∧
        rawName (router.press name unicode modifiers focused).2 = none ∧
        rawKeys (deliverKey (router.press name unicode modifiers focused).2 .pressed) = []) := by
  unfold KeyRouter.press
  split
  · exact Or.inr ⟨rfl, rfl, rfl⟩
  · next plain =>
    split
    · exact Or.inr ⟨rfl, rfl, rfl⟩
    · next here =>
      split
      · exact Or.inr ⟨rfl, rfl, rfl⟩
      · next raw routed =>
        refine Or.inl ⟨raw, Bool.eq_false_iff.mpr plain, ?_, routed, rfl⟩
        simpa using here
      · exact Or.inr ⟨rfl, rfl, rfl⟩

/-- A release is forwarded for an outstanding name; the chord's forgets the name it has. -/
theorem release_cases (router : KeyRouter) (name : Option String) (modifiers : Modifiers)
    (focused : Bool) :
    (isEscapeChord name modifiers = true ∧
        router.release name modifiers focused = (⟨router.forwarded.erase escapeKey⟩, .escape)) ∨
      (∃ raw ∈ router.forwarded, name = some raw ∧
        router.release name modifiers focused =
          (⟨router.forwarded.erase raw⟩, .forward (.key raw))) ∨
      (router.release name modifiers focused = (router, .pass) ∧
        isEscapeChord name modifiers = false ∧
        ∀ raw ∈ router.forwarded, raw ≠ "" → focused = true → name ≠ some raw) := by
  unfold KeyRouter.release
  split
  · next chord => exact Or.inl ⟨chord, rfl⟩
  · next plain =>
    have apart := Bool.eq_false_iff.mpr plain
    split
    · next away =>
      refine Or.inr (Or.inr ⟨rfl, apart, fun raw _ _ here => ?_⟩)
      rw [here] at away
      cases away
    · split
      · next nameless =>
        refine Or.inr (Or.inr ⟨rfl, apart, fun raw _ inked _ same => ?_⟩)
        rw [same, named_some.mpr ⟨rfl, inked⟩] at nameless
        cases nameless
      · next called has =>
        split
        · next inside => exact Or.inr (Or.inl ⟨called, inside, (named_some.mp has).1, rfl⟩)
        · next outside =>
          refine Or.inr (Or.inr ⟨rfl, apart, fun raw inside _ _ same => ?_⟩)
          have equal := (named_some.mp has).1.symm.trans same
          cases equal
          exact outside inside

theorem press_moves (router : KeyRouter) (name : Option String) (unicode : Option Char)
    (modifiers : Modifiers) (focused : Bool) :
    Moves router (router.press name unicode modifiers focused).1
      (router.press name unicode modifiers focused).2 .pressed := by
  obtain ⟨raw, -, -, -, pressed⟩ | ⟨kept, -, silent⟩ :=
    press_cases router name unicode modifiers focused
  · rw [pressed]
    exact .pressed raw rfl rfl rfl
  · exact .still (congrArg KeyRouter.forwarded kept) silent

theorem release_moves (router : KeyRouter) (name : Option String) (modifiers : Modifiers)
    (focused : Bool) :
    Moves router (router.release name modifiers focused).1
      (router.release name modifiers focused).2 .released := by
  obtain ⟨-, forgotten⟩ | ⟨raw, inside, -, released⟩ | ⟨passed, -⟩ :=
    release_cases router name modifiers focused
  · rw [forgotten]
    exact .forgotten rfl rfl
  · rw [released]
    exact .released raw inside rfl rfl
  · rw [passed]
    exact .still rfl rfl

end Router

/-! ## Runs -/

section Runs

variable [DecidableEq K] {state next : State K} {action : Action K}

theorem rawKeys_append (sent more : List InputCommand) :
    rawKeys (sent ++ more) = rawKeys sent ++ rawKeys more :=
  List.filterMap_append

theorem Moves.tracks {before after : KeyRouter} {delivery : Delivery} {edge : Edge}
    (moves : Moves before after delivery edge) {sent : List InputCommand}
    (tracks : Tracks (rawKeys sent) before.forwarded) :
    Tracks (rawKeys (sent ++ deliverKey delivery edge)) after.forwarded := by
  rw [rawKeys_append]
  cases moves with
  | still kept silent =>
    rw [silent, List.append_nil, kept]
    exact tracks
  | pressed name down added sent =>
    rw [sent, added]
    exact tracks.pressed name
  | released name inside removed sent =>
    rw [sent, removed]
    exact tracks.released inside
  | forgotten removed silent =>
    rw [silent, List.append_nil, removed]
    exact tracks.forgotten escapeKey

theorem step_press {key : K} {name : Option String} {unicode : Option Char}
    {modifiers : Modifiers} (taken : state.step (.press key name unicode modifiers) = some next) :
    next.router = (state.router.press name unicode modifiers state.focused).1 ∧
      next.held = (key, rawName (state.router.press name unicode modifiers state.focused).2) ::
        state.held ∧
      next.sent = state.sent ++
        deliverKey (state.router.press name unicode modifiers state.focused).2 .pressed := by
  simp only [State.step] at taken
  split at taken
  · cases taken
  · cases taken
    exact ⟨rfl, rfl, rfl⟩

theorem step_release {key : K} {name : Option String} {modifiers : Modifiers}
    (taken : state.step (.release key name modifiers) = some next) :
    next.router = (state.router.release name modifiers state.focused).1 ∧
      next.held = (state.held.filter fun entry => entry.1 ≠ key) ∧
      next.sent = state.sent ++
        deliverKey (state.router.release name modifiers state.focused).2 .released := by
  simp only [State.step] at taken
  split at taken
  · cases taken
    exact ⟨rfl, rfl, rfl⟩
  · cases taken

/-- What holds whatever the user does. -/
structure Sound (state : State K) : Prop where
  tracks : Tracks (rawKeys state.sent) state.router.forwarded
  inked : ∀ raw ∈ state.router.forwarded, raw ≠ ""

theorem sound_step (sound : Sound state) (taken : (viewer K).step state action = some next) :
    Sound next := by
  cases action with
  | press key name unicode modifiers =>
    obtain ⟨router, -, sent⟩ := step_press taken
    refine ⟨?_, ?_⟩
    · rw [router, sent]
      exact (press_moves _ _ _ _ _).tracks sound.tracks
    · rw [router]
      obtain ⟨raw, -, -, routed, pressed⟩ | ⟨kept, -⟩ :=
        press_cases state.router name unicode modifiers state.focused
      · rw [pressed]
        intro other member
        rcases Finset.mem_insert.mp member with rfl | inside
        · exact route_key routed
        · exact sound.inked other inside
      · rw [kept]
        exact sound.inked
  | release key name modifiers =>
    obtain ⟨router, -, sent⟩ := step_release taken
    refine ⟨?_, ?_⟩
    · rw [router, sent]
      exact (release_moves _ _ _ _).tracks sound.tracks
    · rw [router]
      obtain ⟨-, forgotten⟩ | ⟨raw, -, -, released⟩ | ⟨passed, -⟩ :=
        release_cases state.router name modifiers state.focused
      · rw [forgotten]
        exact fun other member => sound.inked other (Finset.mem_of_mem_erase member)
      · rw [released]
        exact fun other member => sound.inked other (Finset.mem_of_mem_erase member)
      · rw [passed]
        exact sound.inked
  | focus focused =>
    cases taken
    exact ⟨sound.tracks, sound.inked⟩

theorem sound_of_reachable {allowed : State K → Action K → Prop}
    (reached : Reachable (viewer K) allowed state) : Sound state := by
  induction reached with
  | start => exact ⟨tracks_nil, fun _ member => absurd member (Finset.notMem_empty _)⟩
  | next _ _ taken ih => exact sound_step ih taken

/-- Each outstanding name is down by one press and stands for a key that is held. -/
structure Paired (state : State K) : Prop where
  accounts : Accounts (rawKeys state.sent) state.router.forwarded
  owned : ∀ raw ∈ state.router.forwarded, ∃ key, (key, some raw) ∈ state.held

/-- A key other than the released one is still held. -/
theorem still_held {key other : K} {raw : String} (inside : (other, some raw) ∈ state.held)
    (apart : other ≠ key) :
    ∃ holder, (holder, some raw) ∈ state.held.filter fun entry => entry.1 ≠ key :=
  ⟨other, List.mem_filter.mpr ⟨inside, decide_eq_true apart⟩⟩

/-- After a release each name that stays outstanding has its holder, unless the released key was
the last one and was released under its name with the focus. -/
theorem owner_kept {key : K} {name : Option String} {modifiers : Modifiers} {raw : String}
    (paired : Paired state) (pairs : Pairs state (.release key name modifiers))
    (inside : raw ∈ state.router.forwarded)
    (stays : ¬ (state.focused = true ∧ name = some raw)) :
    ∃ holder, (holder, some raw) ∈ state.held.filter fun entry => entry.1 ≠ key := by
  obtain ⟨holder, held⟩ := paired.owned raw inside
  by_cases same : holder = key
  · subst same
    obtain answered | ⟨entry, member, apart, equal⟩ := pairs.2 raw inside held
    · exact absurd answered stays
    · obtain ⟨other, label⟩ := entry
      cases equal
      exact still_held member apart
  · exact still_held held same

theorem paired_press {key : K} {name : Option String} {unicode : Option Char}
    {modifiers : Modifiers} (paired : Paired state)
    (pairs : Pairs state (.press key name unicode modifiers))
    (taken : state.step (.press key name unicode modifiers) = some next) : Paired next := by
  obtain ⟨router, held, sent⟩ := step_press taken
  obtain ⟨raw, plain, here, routed, pressed⟩ | ⟨kept, -, silent⟩ :=
    press_cases state.router name unicode modifiers state.focused
  · rw [pressed] at router held sent
    refine ⟨?_, ?_⟩
    · rw [router, sent, rawKeys_append]
      exact paired.accounts.pressed (pairs plain here raw routed)
    · rw [router, held]
      intro other member
      rcases Finset.mem_insert.mp member with rfl | inside
      · exact ⟨key, List.mem_cons_self⟩
      · obtain ⟨holder, there⟩ := paired.owned other inside
        exact ⟨holder, List.mem_cons_of_mem _ there⟩
  · refine ⟨?_, ?_⟩
    · rw [router, sent, rawKeys_append, silent, List.append_nil, kept]
      exact paired.accounts
    · rw [router, held, kept]
      intro other member
      obtain ⟨holder, there⟩ := paired.owned other member
      exact ⟨holder, List.mem_cons_of_mem _ there⟩

theorem paired_release {key : K} {name : Option String} {modifiers : Modifiers} (sound : Sound state)
    (paired : Paired state) (pairs : Pairs state (.release key name modifiers))
    (taken : state.step (.release key name modifiers) = some next) : Paired next := by
  obtain ⟨router, held, sent⟩ := step_release taken
  obtain ⟨chord, forgotten⟩ | ⟨raw, inside, label, released⟩ | ⟨passed, plain, unanswered⟩ :=
    release_cases state.router name modifiers state.focused
  · -- the chord forgets an Escape that is not there
    have absent := pairs.1 chord
    rw [forgotten, Finset.erase_eq_of_notMem absent] at router
    rw [forgotten] at sent
    refine ⟨?_, ?_⟩
    · rw [router, sent, rawKeys_append]
      exact (List.append_nil (rawKeys state.sent)).symm ▸ paired.accounts
    · rw [router, held]
      intro other member
      refine owner_kept paired pairs member ?_
      rintro ⟨-, same⟩
      rw [same] at chord
      have escape : other = escapeKey := by
        simp only [isEscapeChord, Bool.and_eq_true, beq_iff_eq, Option.some.injEq] at chord
        exact chord.1
      exact absent (escape ▸ member)
  · rw [released] at router sent
    refine ⟨?_, ?_⟩
    · rw [router, sent, rawKeys_append]
      exact paired.accounts.released inside
    · rw [router, held]
      intro other member
      obtain ⟨apart, there⟩ := Finset.mem_erase.mp member
      refine owner_kept paired pairs there ?_
      rintro ⟨-, same⟩
      exact apart (Option.some.inj (same.symm.trans label))
  · rw [passed] at router sent
    refine ⟨?_, ?_⟩
    · rw [router, sent, rawKeys_append]
      exact (List.append_nil (rawKeys state.sent)).symm ▸ paired.accounts
    · rw [router, held]
      intro other member
      refine owner_kept paired pairs member ?_
      rintro ⟨here, same⟩
      exact unanswered other member (sound.inked other member) here same

theorem paired_of_reachable (reached : Reachable (viewer K) Pairs state) : Paired state := by
  refine invariant_relative (P := Paired) (Q := Sound) sound_of_reachable ?_ ?_ reached
  · exact ⟨accounts_nil, fun _ member => absurd member (Finset.notMem_empty _)⟩
  · intro before after action sound _ paired pairs taken
    cases action with
    | press => exact paired_press paired pairs taken
    | release => exact paired_release sound paired pairs taken
    | focus focused =>
      cases taken
      exact ⟨paired.accounts, paired.owned⟩

/-- Whatever the user does, no release is forwarded without a press that is still to be answered.
In every run whose events pair, when no physical key is held each raw key that was pressed has
been released exactly once, and none is down. -/
theorem raw_keys_pair (K : Type u) [DecidableEq K] :
    (∀ state, Reachable (viewer K) anyStep state → Covered (rawKeys state.sent)) ∧
      ∀ state, Reachable (viewer K) Pairs state → state.held = [] →
        (∀ name, presses name (rawKeys state.sent) = releases name (rawKeys state.sent)) ∧
          down (rawKeys state.sent) = ∅ := by
  refine ⟨fun state reached => (sound_of_reachable reached).tracks.covered, ?_⟩
  intro state reached released
  have paired := paired_of_reachable reached
  have nothing : state.router.forwarded = ∅ := by
    refine Finset.eq_empty_of_forall_notMem fun raw inside => ?_
    obtain ⟨holder, held⟩ := paired.owned raw inside
    rw [released] at held
    cases held
  exact (nothing ▸ paired.accounts).settled

end Runs

/-! ## Two runs -/

instance [DecidableEq K] (state : State K) (action : Action K) : Decidable (Pairs state action) :=
  match action with
  | .press _ name unicode modifiers =>
    match routed : routePress name unicode modifiers with
    | .key raw =>
      decidable_of_iff (isEscapeChord name modifiers = false → state.focused = true →
          raw ∉ state.router.forwarded) <| by
        simp [Pairs, routed]
    | .text _ | .ignore => isTrue (by simp [Pairs, routed])
  | .release key name modifiers =>
    inferInstanceAs (Decidable ((isEscapeChord name modifiers = true →
        escapeKey ∉ state.router.forwarded) ∧
      ∀ raw ∈ state.router.forwarded, (key, some raw) ∈ state.held →
        (state.focused = true ∧ name = some raw) ∨
          ∃ entry ∈ state.held, entry.1 ≠ key ∧ entry.2 = some raw))
  | .focus _ => isTrue trivial

/-- A chord on one key, then Tab on another. -/
def chordAndTab : State ℕ :=
  finalState (viewer ℕ) Pairs
    [.focus true, .press 0 (some "c") (some 'c') { ctrl := true },
      .release 0 (some "c") { ctrl := true }, .press 1 (some "Tab") (some '\t') {},
      .release 1 (some "Tab") {}] (by decide +kernel)

theorem raw_keys_pair_chord :
    (∀ name, presses name (rawKeys chordAndTab.sent) = releases name (rawKeys chordAndTab.sent)) ∧
      down (rawKeys chordAndTab.sent) = ∅ :=
  (raw_keys_pair ℕ).2 chordAndTab (final_state_reachable _ _ _ _) (by decide +kernel)

/-- The frame view loses the focus while Tab is held. -/
def tabOverFocusChange : State ℕ :=
  finalState (viewer ℕ) anyStep
    [.focus true, .press 0 (some "Tab") (some '\t') {}, .focus false, .release 0 (some "Tab") {}]
    (by decide +kernel)

/-- No physical key is held and Tab stays down in the remote desktop. -/
theorem tab_stays_down :
    Reachable (viewer ℕ) anyStep tabOverFocusChange ∧ tabOverFocusChange.held = [] ∧
      presses "Tab" (rawKeys tabOverFocusChange.sent) = 1 ∧
      releases "Tab" (rawKeys tabOverFocusChange.sent) = 0 ∧
      "Tab" ∈ down (rawKeys tabOverFocusChange.sent) :=
  ⟨final_state_reachable _ _ _ _, by decide +kernel, by decide +kernel, by decide +kernel,
    by decide +kernel⟩

end ADesk.Viewer.Keystroke
