/- ADesk/Machines/Mounts
   digest: The mount check compares components as they are written; when that is the same as
   comparing the places that the paths lead to. -/

import ADesk.Foundation.Climbing
import ADesk.Machines.Host

set_option autoImplicit false

namespace ADesk.Machines.Mounts

open ADesk.Foundation.Climbing
open ADesk.Machines.Host

/-! ## Where a path leads -/

def move : Component → Option (Move (List Char))
  | .rootDir | .curDir => none
  | .parentDir => some .up
  | .normal name => some (.down name)

def moves (path : String) : List (Move (List Char)) := (components path).filterMap move

/-- The names of a path with its dots resolved; the parent of the root is the root. -/
def resolved (path : String) : List (List Char) := walk [] (moves path)

def isAbsolute (path : String) : Bool := path.toList.head? == some '/'

/-- The path leads to the root or to a place below it; no absolute path lies below a relative
one. -/
def Below (root path : String) : Prop :=
  isAbsolute root = true ∧ resolved root <+: resolved path

instance (root path : String) : Decidable (Below root path) :=
  inferInstanceAs (Decidable (_ ∧ _))

/-! ## Components as they are written -/

/-- What follows the root of an absolute path. -/
theorem absolute_components {path : String} (absolute : isAbsolute path = true) :
    components path =
      .rootDir :: ((path.toList.splitOn '/').filterMap component) := by
  unfold components
  exact if_pos (beq_iff_eq.mp absolute)

theorem component_cases {piece : List Char} {part : Component}
    (found : component piece = some part) : part = .parentDir ∨ part = .normal piece := by
  unfold component at found
  split at found
  · cases found
  · split at found
    · exact Or.inl (Option.some.inj found).symm
    · exact Or.inr (Option.some.inj found).symm

/-- Only an absolute path has the root among its components. -/
theorem absolute_of_root {path : String} (rooted : .rootDir ∈ components path) :
    isAbsolute path = true := by
  have pieces : ∀ list : List (List Char), Component.rootDir ∉ list.filterMap component := by
    intro list member
    obtain ⟨piece, _, found⟩ := List.mem_filterMap.mp member
    rcases component_cases found with same | same <;> cases same
  by_contra relative
  unfold components at rooted
  rw [if_neg fun head => relative (beq_iff_eq.mpr head)] at rooted
  split at rooted
  · rcases List.mem_cons.mp rooted with same | member
    · cases same
    · exact pieces _ member
  · exact pieces _ rooted

/-- Without parent components an absolute path is the list of its names. -/
theorem plain_components {path : String} (absolute : isAbsolute path = true)
    (plain : .parentDir ∉ components path) :
    components path = .rootDir :: (resolved path).map .normal := by
  have names : ∀ list : List (List Char), Component.parentDir ∉ list.filterMap component →
      ∃ names : List (List Char), list.filterMap component = names.map .normal := by
    intro list
    induction list with
    | nil => exact fun _ => ⟨[], rfl⟩
    | cons piece rest ih =>
      intro free
      cases found : component piece with
      | none =>
        rw [List.filterMap_cons_none found] at free ⊢
        exact ih free
      | some part =>
        rw [List.filterMap_cons_some found] at free ⊢
        obtain ⟨later, same⟩ := ih fun member => free (List.mem_cons_of_mem _ member)
        rcases component_cases found with rfl | rfl
        · exact absurd List.mem_cons_self free
        · exact ⟨piece :: later, by rw [same]; rfl⟩
  have written := absolute_components absolute
  rw [written] at plain
  obtain ⟨list, same⟩ := names _ fun member => plain (List.mem_cons_of_mem _ member)
  rw [same] at written
  have downward : moves path = list.map .down := by
    unfold moves
    rw [written, List.filterMap_cons_none rfl, List.filterMap_map]
    exact congrFun List.filterMap_eq_map list
  rw [resolved, downward, walk_down, List.nil_append]
  exact written

/-! ## When the check is right -/

/-- The path is written with the components of an allowed root at its start. -/
def Begins (allowed : List String) (path : String) : Prop :=
  ∃ root ∈ allowed, components root <+: components path

/-- The first components of the path lead to the root, and the others never climb above it. -/
structure LeadsInto (root path : String) (before : List Component) : Prop where
  absolute : isAbsolute root = true
  arrives : walk [] (before.filterMap move) = resolved root
  stays : ∃ rest, components path = before ++ rest ∧ Stays 0 (rest.filterMap move)

/-- The components of an allowed root lead into it. -/
def Direct (allowed : List String) (path : String) : Prop :=
  ∃ root ∈ allowed, LeadsInto root path (components root)

/-- Other components lead into an allowed root than those it is written with. -/
def Detour (allowed : List String) (path : String) : Prop :=
  ∃ root ∈ allowed, ∃ before, before ≠ components root ∧ LeadsInto root path before

/-- The path stays in an allowed root that it begins with; or a detour leads it into one just when
it begins with one that it leaves again. -/
def Straight (allowed : List String) (path : String) : Prop :=
  Direct allowed path ∨ (Begins allowed path ↔ Detour allowed path)

/-- A path lies below a root when some of its components lead into the root. -/
theorem below_iff {root path : String} :
    Below root path ↔ ∃ before, LeadsInto root path before := by
  constructor
  · rintro ⟨absolute, below⟩
    obtain ⟨before, rest, split, arrives, stays⟩ := enters_iff.mpr below
    obtain ⟨first, second, parts, rfl, rfl⟩ := List.filterMap_eq_append_iff.mp split
    exact ⟨first, absolute, arrives, second, parts, stays⟩
  · rintro ⟨before, absolute, arrives, rest, parts, stays⟩
    refine ⟨absolute, Enters.below ⟨before.filterMap move, rest.filterMap move, ?_, arrives, stays⟩⟩
    unfold moves
    rw [parts, List.filterMap_append]

/-- A path lies below an allowed root directly or by a detour. -/
theorem below_allowed_iff {allowed : List String} {path : String} :
    (∃ root ∈ allowed, Below root path) ↔ Direct allowed path ∨ Detour allowed path := by
  constructor
  · rintro ⟨root, member, below⟩
    obtain ⟨before, leads⟩ := below_iff.mp below
    by_cases written : before = components root
    · exact Or.inl ⟨root, member, written ▸ leads⟩
    · exact Or.inr ⟨root, member, before, written, leads⟩
  · rintro (⟨root, member, leads⟩ | ⟨root, member, before, -, leads⟩)
    · exact ⟨root, member, below_iff.mpr ⟨_, leads⟩⟩
    · exact ⟨root, member, below_iff.mpr ⟨before, leads⟩⟩

theorem allows_mount_written {capabilities : HostCapabilities} {path : String} :
    capabilities.allowsMount path = true ↔ Begins capabilities.allowedMounts path := by
  unfold HostCapabilities.allowsMount startsWith Begins
  simp only [List.any_eq_true, List.isPrefixOf_iff_prefix]

/-- A path without parent components begins with every root that it lies below. -/
theorem begins_of_below {root path : String} (absolute : isAbsolute path = true)
    (plain : .parentDir ∉ components path) (straight : .parentDir ∉ components root)
    (below : Below root path) : components root <+: components path := by
  obtain ⟨above, inside⟩ := below
  rw [plain_components absolute plain, plain_components above straight]
  exact List.cons_prefix_cons.mpr ⟨rfl, inside.map _⟩

theorem stays_of_plain {rest : List Component} (plain : .parentDir ∉ rest) (depth : ℕ) :
    Stays depth (rest.filterMap move) := by
  induction rest generalizing depth with
  | nil => exact trivial
  | cons part rest ih =>
    have later := ih fun member => plain (List.mem_cons_of_mem _ member)
    cases part with
    | parentDir => exact absurd List.mem_cons_self plain
    | rootDir => exact later depth
    | curDir => exact later depth
    | normal name => exact later (depth + 1)

/-- Written without parent components, and with no empty root, paths lead where they are written. -/
theorem straight_of_plain {allowed : List String} {path : String}
    (absolute : isAbsolute path = true) (plain : .parentDir ∉ components path)
    (roots : ∀ root ∈ allowed, components root ≠ [] ∧ .parentDir ∉ components root) :
    Straight allowed path := by
  by_cases begins : Begins allowed path
  · left
    obtain ⟨root, member, rest, parts⟩ := begins
    obtain ⟨nonempty, -⟩ := roots root member
    have rooted : .rootDir ∈ components root := by
      rw [plain_components absolute plain] at parts
      obtain ⟨first, others, same⟩ := List.exists_cons_of_ne_nil nonempty
      rw [same] at parts ⊢
      rw [(List.cons.inj parts).1]
      exact List.mem_cons_self
    refine ⟨root, member, absolute_of_root rooted, rfl, rest, parts.symm, stays_of_plain ?_ 0⟩
    intro inside
    exact plain (parts ▸ List.mem_append_right _ inside)
  · refine Or.inr (iff_of_false begins ?_)
    rintro ⟨root, member, before, -, leads⟩
    have below := below_iff.mpr ⟨before, leads⟩
    exact begins ⟨root, member, begins_of_below absolute plain (roots root member).2 below⟩

end ADesk.Machines.Mounts
