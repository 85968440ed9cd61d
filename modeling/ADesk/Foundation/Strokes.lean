/- ADesk/Foundation/Strokes
   digest: Sequences of presses and releases of named things, the set that is down after one, and
   the sets of outstanding names that account for it. -/

import Mathlib.Data.Finset.Basic
import Mathlib.Data.List.Infix

set_option autoImplicit false

namespace ADesk.Foundation.Strokes

universe u

inductive Edge
  | pressed | released
  deriving DecidableEq, Repr

variable {α : Type u} [DecidableEq α]

def presses (name : α) (strokes : List (α × Edge)) : ℕ := strokes.count (name, .pressed)

def releases (name : α) (strokes : List (α × Edge)) : ℕ := strokes.count (name, .released)

def apply (held : Finset α) : α × Edge → Finset α
  | (name, .pressed) => insert name held
  | (name, .released) => held.erase name

/-- The names that are down after the strokes. -/
def down (strokes : List (α × Edge)) : Finset α := strokes.foldl apply ∅

/-- Every release comes after a press of its name that no earlier release answers. -/
def Covered (strokes : List (α × Edge)) : Prop :=
  ∀ earlier, earlier <+: strokes → ∀ name, releases name earlier ≤ presses name earlier

/-- The outstanding names have a press to spare. -/
structure Tracks (strokes : List (α × Edge)) (outstanding : Finset α) : Prop where
  covered : Covered strokes
  spare : ∀ name ∈ outstanding, releases name strokes < presses name strokes

/-- The outstanding names are the ones that are down, each by one press. -/
structure Accounts (strokes : List (α × Edge)) (outstanding : Finset α) : Prop where
  counted : ∀ name,
    presses name strokes = releases name strokes + if name ∈ outstanding then 1 else 0
  standing : down strokes = outstanding

variable {strokes : List (α × Edge)} {outstanding : Finset α} {name other : α}

theorem presses_append (stroke : α × Edge) :
    presses other (strokes ++ [stroke]) =
      presses other strokes + if stroke = (other, .pressed) then 1 else 0 := by
  simp [presses, List.count_append, List.count_singleton]

theorem releases_append (stroke : α × Edge) :
    releases other (strokes ++ [stroke]) =
      releases other strokes + if stroke = (other, .released) then 1 else 0 := by
  simp [releases, List.count_append, List.count_singleton]

theorem down_append (stroke : α × Edge) :
    down (strokes ++ [stroke]) = apply (down strokes) stroke := by
  simp [down, List.foldl_append]

theorem Covered.append {stroke : α × Edge} (covered : Covered strokes)
    (last : ∀ name, releases name (strokes ++ [stroke]) ≤ presses name (strokes ++ [stroke])) :
    Covered (strokes ++ [stroke]) := by
  intro earlier begins
  rcases List.prefix_concat_iff.mp begins with whole | shorter
  · rw [whole]
    exact last
  · exact covered earlier shorter

theorem Covered.whole (covered : Covered strokes) (name : α) :
    releases name strokes ≤ presses name strokes :=
  covered strokes (List.prefix_refl strokes) name

theorem tracks_nil : Tracks ([] : List (α × Edge)) ∅ where
  covered earlier begins name := by
    rw [List.prefix_nil.mp begins]
    exact Nat.le_refl 0
  spare _ member := absurd member (Finset.notMem_empty _)

theorem Tracks.pressed (tracks : Tracks strokes outstanding) (name : α) :
    Tracks (strokes ++ [(name, .pressed)]) (insert name outstanding) where
  covered := by
    refine tracks.covered.append fun other => ?_
    rw [presses_append, releases_append, if_neg (by simp)]
    have before := tracks.covered.whole other
    omega
  spare other member := by
    rw [presses_append, releases_append, if_neg (by simp)]
    rcases Finset.mem_insert.mp member with rfl | inside
    · have before := tracks.covered.whole other
      rw [if_pos rfl]
      omega
    · have before := tracks.spare other inside
      omega

theorem Tracks.released (tracks : Tracks strokes outstanding) (inside : name ∈ outstanding) :
    Tracks (strokes ++ [(name, .released)]) (outstanding.erase name) where
  covered := by
    refine tracks.covered.append fun other => ?_
    rw [presses_append, releases_append]
    by_cases same : name = other
    · subst same
      have before := tracks.spare name inside
      simp only [Prod.mk.injEq, reduceCtorEq, and_false, if_false, if_true]
      omega
    · have before := tracks.covered.whole other
      simp only [Prod.mk.injEq, same, false_and, if_false]
      exact before
  spare other member := by
    obtain ⟨apart, kept⟩ := Finset.mem_erase.mp member
    rw [presses_append, releases_append]
    have before := tracks.spare other kept
    simp only [Prod.mk.injEq, Ne.symm apart, false_and, if_false]
    exact before

/-- A name may be forgotten without a release. -/
theorem Tracks.forgotten (tracks : Tracks strokes outstanding) (name : α) :
    Tracks strokes (outstanding.erase name) where
  covered := tracks.covered
  spare other member := tracks.spare other (Finset.mem_of_mem_erase member)

theorem accounts_nil : Accounts ([] : List (α × Edge)) ∅ where
  counted name := by simp [presses, releases]
  standing := rfl

theorem Accounts.pressed (accounts : Accounts strokes outstanding) (fresh : name ∉ outstanding) :
    Accounts (strokes ++ [(name, .pressed)]) (insert name outstanding) where
  counted other := by
    rw [presses_append, releases_append, accounts.counted other]
    by_cases same : name = other
    · subst same
      simp [fresh]
    · simp [same, Ne.symm same]
  standing := by rw [down_append, accounts.standing]; rfl

theorem Accounts.released (accounts : Accounts strokes outstanding) (inside : name ∈ outstanding) :
    Accounts (strokes ++ [(name, .released)]) (outstanding.erase name) where
  counted other := by
    rw [presses_append, releases_append, accounts.counted other]
    by_cases same : name = other
    · subst same
      simp [inside]
    · simp [same, Ne.symm same]
  standing := by rw [down_append, accounts.standing]; rfl

/-- Nothing outstanding: every press was answered once, and nothing is down. -/
theorem Accounts.settled (accounts : Accounts strokes ∅) :
    (∀ name, presses name strokes = releases name strokes) ∧ down strokes = ∅ :=
  ⟨fun name => by rw [accounts.counted name, if_neg (Finset.notMem_empty _), Nat.add_zero],
    accounts.standing⟩

/-! ## Taps -/

/-- Names pressed in order and released in reverse. -/
def tap (names : List α) : List (α × Edge) :=
  names.map (·, .pressed) ++ names.reverse.map (·, .released)

theorem count_stroked (names : List α) (edge other : Edge) :
    (names.map (·, edge)).count (name, other) = if edge = other then names.count name else 0 := by
  induction names with
  | nil => simp
  | cons first names ih =>
    rw [List.map_cons, List.count_cons, List.count_cons, ih]
    by_cases same : edge = other
    · simp [same]
    · simp [same]

theorem presses_tap (names : List α) : presses name (tap names) = names.count name := by
  rw [presses, tap, List.count_append, count_stroked, count_stroked]
  simp

theorem releases_tap (names : List α) : releases name (tap names) = names.count name := by
  rw [releases, tap, List.count_append, count_stroked, count_stroked]
  simp

/-- In a tap every release answers an earlier press. -/
theorem covered_tap (names : List α) : Covered (tap names) := by
  intro earlier begins name
  have none : releases name (names.map (·, Edge.pressed)) = 0 := by
    rw [releases, count_stroked, if_neg (by decide)]
  have all : presses name (names.map (·, Edge.pressed)) = names.count name := by
    rw [presses, count_stroked, if_pos rfl]
  rcases List.prefix_or_prefix_of_prefix begins (List.prefix_append _ _) with pressing | whole
  · have fewer : releases name earlier ≤ releases name (names.map (·, Edge.pressed)) :=
      pressing.sublist.count_le _
    omega
  · have fewer : releases name earlier ≤ releases name (tap names) := begins.sublist.count_le _
    have more : presses name (names.map (·, Edge.pressed)) ≤ presses name earlier :=
      whole.sublist.count_le _
    rw [releases_tap] at fewer
    omega

/-- What has been pressed is down, beside what was down before. -/
theorem mem_pressed {names : List α} {held : Finset α} :
    name ∈ (names.map (·, Edge.pressed)).foldl apply held ↔ name ∈ names ∨ name ∈ held := by
  induction names generalizing held with
  | nil => simp
  | cons first names ih =>
    rw [List.map_cons, List.foldl_cons, ih, apply, Finset.mem_insert, List.mem_cons]
    tauto

end ADesk.Foundation.Strokes
