/- ADesk/Agent/Caps
   digest: Contexts are within their caps, and trimmed regions still cover what was trimmed. -/

import ADesk.Agent.Collapsing
import ADesk.Core.Coverage
import Mathlib.Data.List.ModifyLast

set_option autoImplicit false

namespace ADesk.Agent.Caps

open ADesk.Agent.Collapsing
open ADesk.Agent.Context
open ADesk.Core.Coalescing
open ADesk.Core.Coverage (contains contains_iff)
open ADesk.Core.Event
open ADesk.Core.Geometry
open ADesk.Foundation.Merging (AllValid Covers)

/-! ## Trimmed regions -/

/-- A filled bounding box is grown by every rectangle that is folded into it. -/
theorem fold_union {rects : List Rect} (valid : ∀ r ∈ rects, Valid r) {box : Rect}
    (filled : Valid box) :
    Valid (rects.foldl Rect.union box) ∧ ∀ r ∈ box :: rects, r ≤ rects.foldl Rect.union box := by
  induction rects generalizing box with
  | nil =>
    refine ⟨filled, fun r member => ?_⟩
    rw [List.mem_singleton.mp member]
    exact le_refl box
  | cons first rest ih =>
    obtain ⟨own, others⟩ := List.forall_mem_cons.mp valid
    obtain ⟨grown, above⟩ := ih others (filled.union own)
    obtain ⟨joined, later⟩ := List.forall_mem_cons.mp above
    refine ⟨grown, List.forall_mem_cons.mpr ⟨?_, List.forall_mem_cons.mpr ⟨?_, later⟩⟩⟩
    · exact le_trans (boxes.left_le filled own) joined
    · exact le_trans (boxes.right_le filled own) joined

/-- The bounds of rectangles that are folded into the empty one. -/
theorem fold_bounds {rects : List Rect} (valid : ∀ r ∈ rects, Valid r) (filled : rects ≠ []) :
    Valid (rects.foldl Rect.union Rect.empty) ∧
      ∀ r ∈ rects, r ≤ rects.foldl Rect.union Rect.empty := by
  cases rects with
  | nil => exact absurd rfl filled
  | cons first rest =>
    obtain ⟨own, others⟩ := List.forall_mem_cons.mp valid
    exact fold_union others own

theorem modify_last_length {α : Type} (change : α → α) (entries : List α) :
    (entries.modifyLast change).length = entries.length := by
  rcases List.eq_nil_or_concat entries with rfl | ⟨front, last, rfl⟩
  · rfl
  · rw [List.concat_eq_append, List.modifyLast_concat, List.length_append, List.length_append]
    rfl

theorem trim_length (regions : List Rect) (cap : ℕ) : (trimRegions regions cap).length ≤ cap := by
  unfold trimRegions
  dsimp only
  split
  · assumption
  · split
    · exact Nat.zero_le _
    · rw [modify_last_length]
      exact List.length_take_le _ _

/-- Every rectangle lies within one that is left of them. -/
theorem trim_covers {regions : List Rect} (fits : ∀ r ∈ regions, Fits r) {cap : ℕ}
    (room : 0 < cap) :
    Covers (trimRegions regions cap) (regions.filter fun rect => !rect.isEmpty) := by
  have valid : ∀ r ∈ regions.filter fun rect => !rect.isEmpty, Valid r := by
    intro r member
    obtain ⟨inside, filled⟩ := List.mem_filter.mp member
    exact valid_of (fits r inside) (by simpa using filled)
  unfold trimRegions
  dsimp only
  generalize regions.filter (fun rect => !rect.isEmpty) = kept at valid ⊢
  split
  · exact Covers.refl kept
  next many =>
  rw [if_neg (Nat.ne_of_gt room)]
  have perm := List.perm_insertionSort (fun a b : Rect => keptBefore a b = true) kept
  generalize kept.insertionSort (fun a b => keptBefore a b = true) = sorted at perm ⊢
  have sound : ∀ r ∈ sorted, Valid r := fun r member => valid r (perm.mem_iff.mp member)
  have parts := List.take_append_drop cap sorted
  have long := perm.length_eq
  -- Both parts hold something, since more rectangles are there than are kept.
  have cut : sorted.drop cap ≠ [] := by
    rw [ne_eq, List.drop_eq_nil_iff]
    omega
  rcases List.eq_nil_or_concat (sorted.take cap) with none | ⟨front, last, split⟩
  · have lengths := congrArg List.length none
    rw [List.length_take, List.length_nil] at lengths
    omega
  rw [List.concat_eq_append] at split
  generalize sorted.drop cap = dropped at parts cut ⊢
  rw [split] at parts
  rw [split, List.modifyLast_concat]
  obtain ⟨filled, below⟩ := fold_bounds (fun r member => sound r (by
    rw [← parts]
    exact List.mem_append_right _ member)) cut
  have own : Valid last := sound last (by
    rw [← parts]
    exact List.mem_append_left _ (List.mem_append_right _ List.mem_cons_self))
  intro r member
  rw [← perm.mem_iff, ← parts, List.mem_append, List.mem_append] at member
  rcases member with (before | final) | beyond
  · exact ⟨r, List.mem_append_left _ before, le_refl r⟩
  · rw [List.mem_singleton.mp final]
    exact ⟨_, List.mem_append_right _ List.mem_cons_self, boxes.left_le own filled⟩
  · exact ⟨_, List.mem_append_right _ List.mem_cons_self,
      le_trans (below r beyond) (boxes.right_le own filled)⟩

/-- A point of a rectangle is in every larger one. -/
theorem contains_of_le {a b : Rect} (below : a ≤ b) {p : Point} (inside : contains a p = true) :
    contains b p = true := by
  obtain ⟨-, left, right, top, bottom⟩ := contains_iff.mp inside
  obtain ⟨outLeft, outTop, outRight, outBottom⟩ := le_iff.mp below
  rw [contains_iff, Core.Coverage.empty_iff]
  omega

/-! ## Contexts -/

/-- Every list of the context, its images and its texts are within their caps. -/
structure Bounded (budget : ContextBudget) (context : AgentContext) : Prop where
  actions : context.recentActions.length ≤ budget.maxActions
  events : context.recentEvents.length ≤ budget.maxEvents
  windows : context.windows.length ≤ budget.maxWindows
  apps : context.apps.length ≤ budget.maxApps
  changedRegions : ∀ observation, context.observation = some observation →
    observation.changedRegions.length ≤ budget.maxChangedRegions
  images : context.imageCount ≤ budget.maxImages
  details : ∀ summary ∈ context.recentEvents, summary.detail.length ≤ budget.maxDetailChars
  accessibility : ∀ outline, context.accessibility = some outline →
    outline.length ≤ budget.maxAccessibilityChars

theorem collapsed_details (maxDetailChars : ℕ) (history : List RuntimeEvent) :
    ∀ summary ∈ collapsed maxDetailChars history, summary.detail.length ≤ maxDetailChars := by
  intro summary member
  obtain ⟨run, -, own⟩ := List.mem_filterMap.mp member
  obtain ⟨last, -, rfl⟩ := Option.map_eq_some_iff.mp own
  exact truncate_length _ _

theorem sound_bounded {budget : ContextBudget} {history : List RuntimeEvent} {b : ContextBuilder}
    (sound : Sound budget history b) (input : ContextInput) : Bounded budget (b.build input) := by
  obtain ⟨rfl, follows, actions, images⟩ := sound
  exact {
    actions := actions
    events := by
      show b.events.length ≤ _
      rw [follows.events]
      exact List.length_take_le _ _
    windows := List.length_take_le _ _
    apps := List.length_take_le _ _
    changedRegions := by
      intro observation shown
      obtain ⟨whole, -, rfl⟩ := Option.map_eq_some_iff.mp shown
      exact trim_length _ _
    images := images
    details := by
      intro summary member
      have kept : summary ∈ b.events := member
      rw [follows.events] at kept
      exact collapsed_details _ _ summary (List.mem_reverse.mp (List.mem_of_mem_take kept))
    accessibility := by
      intro outline shown
      obtain ⟨whole, -, rfl⟩ := Option.map_eq_some_iff.mp shown
      exact truncate_length _ _ }

/-- After any operations and with any caps, the context that is built shows the newest runs of the
recorded events, newest first, and is within its caps; and where regions are trimmed to one at
least, every point of a changed region is in one that is shown. -/
theorem built_context (budget : ContextBudget) (operations : List Operation)
    (input : ContextInput) :
    ((builderAfter budget operations).build input).recentEvents =
        (collapsed budget.maxDetailChars (historyOf operations)).reverse.take budget.maxEvents ∧
      Bounded budget ((builderAfter budget operations).build input) ∧
      ∀ observation, input.observation = some observation → 0 < budget.maxChangedRegions →
        (∀ r ∈ observation.changedRegions, Fits r) →
        ∃ shown, ((builderAfter budget operations).build input).observation = some shown ∧
          ∀ r ∈ observation.changedRegions, ∀ p, contains r p = true →
            ∃ kept ∈ shown.changedRegions, contains kept p = true := by
  have sound := sound_after budget operations
  refine ⟨?_, sound_bounded sound input, ?_⟩
  · have events := sound.follows.events
    rw [sound.same] at events
    exact events
  · intro observation given room fits
    refine ⟨(builderAfter budget operations).trimObservation observation,
      congrArg (Option.map _) given, ?_⟩
    intro r member p inside
    have filled := (contains_iff.mp inside).1
    have part : r ∈ observation.changedRegions.filter fun rect => !rect.isEmpty :=
      List.mem_filter.mpr ⟨member, by rw [filled]; rfl⟩
    obtain ⟨kept, left, above⟩ := trim_covers fits room r part
    refine ⟨kept, ?_, contains_of_le above inside⟩
    unfold ContextBuilder.trimObservation
    dsimp only
    rw [sound.same]
    exact left

def tight : ContextBudget := ⟨8, 2, 8, 12, 1, 2, 40, 4000⟩

def commits : List Operation :=
  [.recordEvents [.surfaceCommit 1 10 ⟨3⟩ 5 .empty, .windowDestroyed 2 20 ⟨3⟩,
      .surfaceCommit 3 30 ⟨4⟩ 7 .empty],
    .recordEvents [.surfaceCommit 4 40 ⟨4⟩ 8 (.fromRect ⟨0, 0, 2, 2⟩)]]

def regions : List Rect := [⟨0, 0, 2, 2⟩, ⟨5, 5, 3, 3⟩, ⟨9, 0, 0, 4⟩, ⟨-4, 1, 1, 1⟩]

def observed : Observation :=
  ⟨some ⟨4⟩, none, 2, regions, none, false, [], [], [], [], 12, true, false, 8, 4⟩

def observing : ContextInput :=
  ⟨⟨"close the dialog", none⟩, 1, 10, none, [], some ⟨4⟩, [], some observed, none, none⟩

/-- The commits of two calls are one summary, and three rectangles are shown as their bounds. -/
theorem built_context_tight :
    ((builderAfter tight commits).build observing).recentEvents.map
        (fun summary => (summary.seq, summary.detail)) =
        [(4, "commit 8 (2 commits, 1 damage rect)"), (2, "window destroyed")] ∧
      trimRegions regions 1 = [⟨-4, 0, 12, 8⟩] ∧
      ∃ shown, ((builderAfter tight commits).build observing).observation = some shown ∧
        ∀ r ∈ regions, ∀ p, contains r p = true →
          ∃ kept ∈ shown.changedRegions, contains kept p = true := by
  refine ⟨by decide, by decide, ?_⟩
  refine (built_context tight commits observing).2.2 observed rfl (by decide) ?_
  intro r member
  simp only [observed, regions, List.mem_cons, List.not_mem_nil, or_false] at member
  rcases member with rfl | rfl | rfl | rfl
  · exact ⟨by decide, by decide, by decide, by decide⟩
  · exact ⟨by decide, by decide, by decide, by decide⟩
  · exact ⟨by decide, by decide, by decide, by decide⟩
  · exact ⟨by decide, by decide, by decide, by decide⟩

end ADesk.Agent.Caps
