/- ADesk/Wm/Recency
   digest: The activation order of the window manager against the history of activations. -/

import ADesk.Wm.Consistency

set_option autoImplicit false

namespace ADesk.Wm.Recency

open ADesk.Core.Ids (WindowId)
open ADesk.Wm.Policy
open ADesk.Wm.Consistency

/-! ## The history of activations -/

/-- The window that a call activates: the one a map creates, or the one `activate` names. -/
def activates (manager : WindowManager) : Operation → Option WindowId
  | .map request =>
    if (windowBySurface manager.model request.surfaceKey).isNone then
      some ⟨manager.model.nextId⟩
    else none
  | .activate id => if (window manager.model id).isSome then some id else none
  | _ => none

/-- A run of the manager with the number of its calls so far and the call that last activated
each window. -/
structure Timeline where
  manager : WindowManager
  now : ℕ
  activatedAt : WindowId → Option ℕ

namespace Timeline

def start (config : PolicyConfig) : Timeline := ⟨WindowManager.new config, 0, fun _ => none⟩

def step (timeline : Timeline) (operation : Operation) : Timeline where
  manager := (timeline.manager.perform operation).1
  now := timeline.now + 1
  activatedAt :=
    match activates timeline.manager operation with
    | some id => Function.update timeline.activatedAt id (some timeline.now)
    | none => timeline.activatedAt

def run (timeline : Timeline) (operations : List Operation) : Timeline :=
  operations.foldl step timeline

/-- The second window was activated after the first one, and both were. -/
def Earlier (timeline : Timeline) (older newer : WindowId) : Prop :=
  ∃ before after, timeline.activatedAt older = some before ∧
    timeline.activatedAt newer = some after ∧ before < after

end Timeline

/-! ## The order is the history -/

/-- The activation order is sorted by the last activation, the latest first. -/
structure Ranked (timeline : Timeline) : Prop where
  consistent : Consistent timeline.manager
  sorted : timeline.manager.model.mru.Pairwise fun newer older => timeline.Earlier older newer
  past : ∀ id ∈ timeline.manager.model.mru, ∃ at', at' < timeline.now ∧
    timeline.activatedAt id = some at'

theorem Ranked.initial (config : PolicyConfig) : Ranked (Timeline.start config) where
  consistent := Consistent.initial config
  sorted := List.Pairwise.nil
  past := fun _ member => by cases member

/-- A call that activates nothing may only remove windows from the order. -/
theorem Ranked.thinned {timeline : Timeline} (ranked : Ranked timeline) {operation : Operation}
    (quiet : activates timeline.manager operation = none)
    (fewer : (timeline.manager.perform operation).1.model.mru.Sublist
      timeline.manager.model.mru) : Ranked (timeline.step operation) := by
  have history : (timeline.step operation).activatedAt = timeline.activatedAt := by
    rw [Timeline.step, quiet]
  refine ⟨ranked.consistent.step operation, ?_, fun id member => ?_⟩
  · refine (ranked.sorted.sublist fewer).imp fun {newer older} earlier => ?_
    rw [Timeline.Earlier, history]
    exact earlier
  · obtain ⟨last, bound, stamped⟩ := ranked.past id (fewer.subset member)
    rw [history]
    exact ⟨last, Nat.lt_succ_of_lt bound, stamped⟩

/-- A call that activates a window moves it to the front and keeps the others in order. -/
theorem Ranked.promoted {timeline : Timeline} (ranked : Ranked timeline) {operation : Operation}
    {id : WindowId} (active : activates timeline.manager operation = some id)
    (front : (timeline.manager.perform operation).1.model.mru =
      id :: timeline.manager.model.mru.filter (fun entry => entry ≠ id)) :
    Ranked (timeline.step operation) := by
  have history : (timeline.step operation).activatedAt =
      Function.update timeline.activatedAt id (some timeline.now) := by
    rw [Timeline.step, active]
  have kept : ∀ other ∈ timeline.manager.model.mru.filter (fun entry => entry ≠ id),
      other ∈ timeline.manager.model.mru ∧
        (timeline.step operation).activatedAt other = timeline.activatedAt other := by
    intro other member
    obtain ⟨inside, apart⟩ := List.mem_filter.mp member
    rw [history, Function.update_of_ne (by simpa using apart)]
    exact ⟨inside, rfl⟩
  refine ⟨ranked.consistent.step operation, ?_, fun other member => ?_⟩
  · change ((timeline.manager.perform operation).1.model.mru).Pairwise _
    rw [front]
    refine List.pairwise_cons.mpr ⟨fun other member => ?_, ?_⟩
    · obtain ⟨inside, same⟩ := kept other member
      obtain ⟨last, bound, stamped⟩ := ranked.past other inside
      refine ⟨last, timeline.now, same.trans stamped, ?_, bound⟩
      rw [history, Function.update_self]
    · refine ((ranked.sorted.filter _).imp_of_mem fun {newer older} first second earlier => ?_)
      obtain ⟨before, after, older', newer', order⟩ := earlier
      exact ⟨before, after, (kept older second).2.trans older',
        (kept newer first).2.trans newer', order⟩
  · change other ∈ (timeline.manager.perform operation).1.model.mru at member
    rw [front] at member
    rcases List.mem_cons.mp member with rfl | inside
    · refine ⟨timeline.now, Nat.lt_succ_self _, ?_⟩
      rw [history, Function.update_self]
    · obtain ⟨present, same⟩ := kept other inside
      obtain ⟨last, bound, stamped⟩ := ranked.past other present
      exact ⟨last, Nat.lt_succ_of_lt bound, same.trans stamped⟩

theorem Ranked.mapped {timeline : Timeline} (ranked : Ranked timeline) (request : MapRequest) :
    Ranked (timeline.step (.map request)) := by
  cases known : windowBySurface timeline.manager.model request.surfaceKey with
  | some existing =>
    refine ranked.thinned (by simp [activates, known]) ?_
    have unchanged : (onMap timeline.manager.model timeline.manager.config request).1 =
        timeline.manager.model := by
      unfold onMap
      rw [known]
    change (onMap timeline.manager.model timeline.manager.config request).1.mru.Sublist _
    rw [unchanged]
  | none =>
    obtain ⟨-, -, -, mru⟩ := on_map_fresh timeline.manager.config known
    have active : activates timeline.manager (.map request) =
        some ⟨timeline.manager.model.nextId⟩ := by simp [activates, known]
    refine ranked.promoted active (mru.trans ?_)
    -- a new id is not in the order yet
    congr 1
    refine (List.filter_eq_self.mpr fun entry member => ?_).symm
    have bound := ranked.consistent.below entry
      (ranked.consistent.permuted.mem_iff.mp member)
    simp only [ne_eq, decide_not, Bool.not_eq_true', decide_eq_false_iff_not]
    rintro rfl
    exact Nat.lt_irrefl _ bound

theorem Ranked.activated {timeline : Timeline} (ranked : Ranked timeline) (id : WindowId) :
    Ranked (timeline.step (.activate id)) := by
  cases known : window timeline.manager.model id with
  | none =>
    refine ranked.thinned (by simp [activates, known]) ?_
    change (Policy.activate timeline.manager.model id).1.mru.Sublist _
    rw [Policy.activate, known]
  | some record =>
    have active : activates timeline.manager (.activate id) = some id := by
      simp [activates, known]
    refine ranked.promoted active ?_
    change (Policy.activate timeline.manager.model id).1.mru = _
    rw [Policy.activate, known]
    dsimp only
    split
    · next front =>
      -- the window is in front already, and only there
      obtain ⟨rest, order⟩ := List.head?_eq_some_iff.mp front
      have once := ranked.consistent.mru_nodup
      rw [order] at once ⊢
      rw [List.filter_cons_of_neg (by simp)]
      congr 1
      refine (List.filter_eq_self.mpr fun entry member => ?_).symm
      simp only [ne_eq, decide_not, Bool.not_eq_true', decide_eq_false_iff_not]
      rintro rfl
      exact (List.nodup_cons.mp once).1 member
    · rfl

theorem Ranked.step {timeline : Timeline} (ranked : Ranked timeline) (operation : Operation) :
    Ranked (timeline.step operation) := by
  cases operation with
  | map request => exact ranked.mapped request
  | activate id => exact ranked.activated id
  | destroy id =>
    refine ranked.thinned rfl ?_
    change (onDestroy timeline.manager.model id).1.mru.Sublist _
    rw [(on_destroy_spec ranked.consistent.formed id).2.2.1]
    exact List.filter_sublist
  | title id title => exact ranked.thinned rfl (List.Sublist.refl _)
  | appId id appId => exact ranked.thinned rfl (List.Sublist.refl _)
  | commit id commitSeq => exact ranked.thinned rfl (List.Sublist.refl _)
  | popupAdded id => exact ranked.thinned rfl (List.Sublist.refl _)
  | popupRemoved id => exact ranked.thinned rfl (List.Sublist.refl _)
  | setOutputSize width height => exact ranked.thinned rfl (List.Sublist.refl _)

theorem run_ranked {timeline : Timeline} (ranked : Ranked timeline)
    (operations : List Operation) : Ranked (timeline.run operations) := by
  induction operations generalizing timeline with
  | nil => exact ranked
  | cons operation rest ih => exact ih (ranked.step operation)

/-! ## Destroying a window -/

/-- What destroying the active window decides: the front of the remaining order, if any. -/
theorem destroy_active {model : WindowModel} (formed : WellFormed model) {id : WindowId}
    (active : activeWindow model = some id) :
    (onDestroy model id).2 =
      (activeWindow (onDestroy model id).1).toList.map WmAction.activatePrevious := by
  have tracked : id ∈ model.ids := formed.recent id (List.mem_of_mem_head? active)
  obtain ⟨record, known⟩ : ∃ record, window model id = some record := by
    rw [mem_ids_iff, commitOf, Option.isSome_map] at tracked
    exact Option.isSome_iff_exists.mp tracked
  have mru := (on_destroy_spec formed id).2.2.1
  rw [activeWindow, mru]
  unfold onDestroy
  simp only [known, active, ne_eq, not_true_eq_false, if_false]
  rw [activeWindow]
  split
  · next fallback front =>
    change (model.mru.filter fun entry => entry ≠ id).head? = some fallback at front
    rw [front]
    rfl
  · next empty =>
    change (model.mru.filter fun entry => entry ≠ id).head? = none at empty
    rw [empty]
    rfl

theorem destroy_inactive {model : WindowModel} (formed : WellFormed model) {id : WindowId}
    (inactive : activeWindow model ≠ some id) :
    activeWindow (onDestroy model id).1 = activeWindow model := by
  rw [activeWindow, (on_destroy_spec formed id).2.2.1]
  exact head_filter inactive

/-- After any sequence of calls: destroying the active window falls back to the remaining window
that was activated last, if one remains, and destroying another window leaves the active window
as it is. -/
theorem destroy_falls_back_to_most_recent (config : PolicyConfig) (operations : List Operation)
    (id : WindowId) :
    let timeline := (Timeline.start config).run operations
    let after := timeline.manager.perform (.destroy id)
    (activeWindow timeline.manager.model = some id →
      after.1.model.ids = [] ∧ after.2 = [] ∧ activeWindow after.1.model = none ∨
      ∃ fallback ∈ after.1.model.ids, after.2 = [.activatePrevious fallback] ∧
        activeWindow after.1.model = some fallback ∧
        ∀ other ∈ after.1.model.ids, other ≠ fallback → timeline.Earlier other fallback) ∧
    (activeWindow timeline.manager.model ≠ some id →
      activeWindow after.1.model = activeWindow timeline.manager.model) := by
  intro timeline after
  have ranked : Ranked timeline := run_ranked (Ranked.initial config) operations
  have formed := ranked.consistent.formed
  have later := ranked.consistent.step (.destroy id)
  have mru : after.1.model.mru = timeline.manager.model.mru.filter (fun entry => entry ≠ id) :=
    (on_destroy_spec formed id).2.2.1
  refine ⟨fun active => ?_, destroy_inactive formed⟩
  have decided : after.2 = (activeWindow after.1.model).toList.map WmAction.activatePrevious :=
    destroy_active formed active
  cases order : after.1.model.mru with
  | nil =>
    have none' : activeWindow after.1.model = none := by rw [activeWindow, order]; rfl
    refine Or.inl ⟨?_, by rw [decided, none']; rfl, none'⟩
    have permuted := later.permuted
    change after.1.model.mru.Perm after.1.model.ids at permuted
    rw [order] at permuted
    exact permuted.nil_eq.symm
  | cons fallback rest =>
    have front : activeWindow after.1.model = some fallback := by rw [activeWindow, order]; rfl
    have sorted : after.1.model.mru.Pairwise fun newer older => timeline.Earlier older newer :=
      mru ▸ ranked.sorted.filter _
    rw [order] at sorted
    refine Or.inr ⟨fallback, ?_, by rw [decided, front]; rfl, front, fun other member apart => ?_⟩
    · refine later.permuted.mem_iff.mp ?_
      change fallback ∈ after.1.model.mru
      rw [order]
      exact List.mem_cons_self
    · have inside : other ∈ after.1.model.mru := later.permuted.mem_iff.mpr member
      rw [order] at inside
      exact (List.pairwise_cons.mp sorted).1 other
        ((List.mem_cons.mp inside).resolve_left apart)

end ADesk.Wm.Recency
