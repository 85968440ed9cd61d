/- ADesk/Wm/Consistency
   digest: The window manager over operation sequences: ids, surfaces, order and activity agree. -/

import ADesk.Foundation.UniqueKeys
import ADesk.Wm.Policy

set_option autoImplicit false

namespace ADesk.Wm.Consistency

open ADesk.Core.Ids (WindowId AppId)
open ADesk.Foundation.KeyedLog (Ascending)
open ADesk.Foundation.UniqueKeys
open ADesk.Wm.Policy

/-! ## The manager -/

/-- Changes the output size and re-tiles every window. Inactive windows are configured too:
they must have the right size when they become visible again. -/
def onOutputSize (model : WindowModel) (config : PolicyConfig) (width height : ℕ) :
    WindowModel × PolicyConfig × List WmAction :=
  let resized : PolicyConfig := { config with outputWidth := width, outputHeight := height }
  ({ model with
      records := model.records.map fun record => { record with geometry := resized.tiledRect } },
    resized,
    (model.records.filter WindowRecord.mapped).map fun record =>
      .configureWindow record.id resized.tiledRect)

/-- The window model and the policy configuration that the compositor owns. -/
structure WindowManager where
  config : PolicyConfig
  model : WindowModel

/-- One call of the manager; ids and surface keys are the caller's, tracked or not. -/
inductive Operation
  | map (request : MapRequest)
  | destroy (id : WindowId)
  | title (id : WindowId) (title : Option String)
  | appId (id : WindowId) (appId : Option AppId)
  | commit (id : WindowId) (commitSeq : ℕ)
  | popupAdded (id : WindowId)
  | popupRemoved (id : WindowId)
  | activate (id : WindowId)
  | setOutputSize (width height : ℕ)

namespace WindowManager

def new (config : PolicyConfig) : WindowManager := ⟨config, WindowModel.new⟩

/-- The manager after one call and the actions that the call hands to the compositor. -/
def perform (manager : WindowManager) : Operation → WindowManager × List WmAction
  | .map request =>
    let mapped := onMap manager.model manager.config request
    ({ manager with model := mapped.1 }, mapped.2.2)
  | .destroy id =>
    let destroyed := onDestroy manager.model id
    ({ manager with model := destroyed.1 }, destroyed.2)
  | .title id title => ({ manager with model := onTitle manager.model id title }, [])
  | .appId id appId => ({ manager with model := onAppId manager.model id appId }, [])
  | .commit id commitSeq => ({ manager with model := onCommit manager.model id commitSeq }, [])
  | .popupAdded id => ({ manager with model := onPopupAdded manager.model id }, [])
  | .popupRemoved id => ({ manager with model := onPopupRemoved manager.model id }, [])
  | .activate id =>
    let activated := Policy.activate manager.model id
    ({ manager with model := activated.1 }, activated.2)
  | .setOutputSize width height =>
    let resized := onOutputSize manager.model manager.config width height
    (⟨resized.2.1, resized.1⟩, resized.2.2)

def performAll : WindowManager → List Operation → WindowManager
  | manager, [] => manager
  | manager, operation :: rest => performAll (manager.perform operation).1 rest

/-- The ids that a call brings into the model. -/
def assigned (before after : WindowManager) : List WindowId :=
  after.model.ids.filter fun id => id ∉ before.model.ids

/-- Every id that enters the model during a run, in order and with repetitions. -/
def assignedIds : WindowManager → List Operation → List WindowId
  | _, [] => []
  | manager, operation :: rest =>
    assigned manager (manager.perform operation).1 ++
      assignedIds (manager.perform operation).1 rest

end WindowManager

/-! ## Consistency -/

def surfaceKeys (model : WindowModel) : List SurfaceKey :=
  model.records.map WindowRecord.surfaceKey

/-- What every call keeps. Activity is stored twice, in the record states and in the order of
`mru`; `active` says that the two agree on every record. -/
structure Consistent (manager : WindowManager) : Prop where
  ascending : Ascending WindowId.val manager.model.ids
  below : ∀ id ∈ manager.model.ids, id.val < manager.model.nextId
  surfaces : (surfaceKeys manager.model).Nodup
  permuted : manager.model.mru.Perm manager.model.ids
  active : ∀ record ∈ manager.model.records,
    record.state = .active ↔ activeWindow manager.model = some record.id
  tiled : ∀ record ∈ manager.model.records, record.geometry = manager.config.tiledRect

theorem Consistent.initial (config : PolicyConfig) : Consistent (WindowManager.new config) where
  ascending := List.Pairwise.nil
  below := fun _ member => by cases member
  surfaces := List.Pairwise.nil
  permuted := List.Perm.nil
  active := fun _ member => by cases member
  tiled := fun _ member => by cases member

theorem Consistent.formed {manager : WindowManager} (consistent : Consistent manager) :
    WellFormed manager.model where
  ascending := consistent.ascending
  below := consistent.below
  recent := fun _ member => consistent.permuted.mem_iff.mp member

theorem Consistent.mru_nodup {manager : WindowManager} (consistent : Consistent manager) :
    manager.model.mru.Nodup :=
  consistent.permuted.nodup_iff.mpr consistent.formed.nodup

/-- When there is a window, exactly one record is active and it is the front of the order. -/
theorem Consistent.sole_active {manager : WindowManager} (consistent : Consistent manager)
    (some_window : manager.model.records ≠ []) :
    ∃ record, manager.model.records.filter (fun record => record.state = .active) = [record] ∧
      manager.model.mru.head? = some record.id := by
  cases order : manager.model.mru with
  | nil =>
    have empty : manager.model.ids = [] := by
      have permuted := consistent.permuted
      rw [order] at permuted
      exact permuted.nil_eq.symm
    exact absurd (List.map_eq_nil_iff.mp empty) some_window
  | cons front rest =>
    have tracked : front ∈ manager.model.ids := by
      refine consistent.permuted.mem_iff.mp ?_
      rw [order]
      exact List.mem_cons_self
    obtain ⟨record, inside, named⟩ := List.mem_map.mp tracked
    refine ⟨record, ?_, congrArg some named.symm⟩
    have states : manager.model.records.filter (fun record => record.state = .active) =
        manager.model.records.filter (fun other => other.id = record.id) := by
      refine List.filter_congr fun other member => ?_
      rw [decide_eq_decide, consistent.active other member, activeWindow, order]
      constructor
      · intro same
        exact (Option.some.inj same).symm.trans named.symm
      · intro same
        exact congrArg some (named.symm.trans same.symm)
    rw [states]
    exact filter_key consistent.formed.nodup inside

/-! ## One call -/

/-- The part of a record that consistency speaks about. -/
def outline (record : WindowRecord) : WindowId × SurfaceKey × WindowState × Core.Geometry.Rect :=
  (record.id, record.surfaceKey, record.state, record.geometry)

/-- A call that keeps every outline and the order keeps consistency. -/
theorem Consistent.of_outline {manager : WindowManager} (consistent : Consistent manager)
    {records : List WindowRecord}
    (same : records.map outline = manager.model.records.map outline) :
    Consistent { manager with model := { manager.model with records := records } } := by
  have project : ∀ {β : Type} (part : WindowId × SurfaceKey × WindowState × Core.Geometry.Rect → β),
      records.map (fun record => part (outline record)) =
        manager.model.records.map (fun record => part (outline record)) := by
    intro β part
    have mapped := congrArg (List.map part) same
    rw [List.map_map, List.map_map] at mapped
    exact mapped
  have ids := project (fun parts => parts.1)
  have keys := project (fun parts => parts.2.1)
  have origin : ∀ record ∈ records, ∃ before ∈ manager.model.records,
      outline before = outline record := by
    intro record member
    have mapped : outline record ∈ records.map outline := List.mem_map_of_mem member
    rw [same] at mapped
    exact List.mem_map.mp mapped
  refine ⟨?_, ?_, ?_, ?_, ?_, ?_⟩
  · exact (congrArg (Ascending WindowId.val) ids).mpr consistent.ascending
  · intro id member
    exact consistent.below id ((congrArg (fun ids => id ∈ ids) ids).mp member)
  · exact (congrArg List.Nodup keys).mpr consistent.surfaces
  · exact (congrArg manager.model.mru.Perm ids).mpr consistent.permuted
  · intro record member
    obtain ⟨before, inside, equal⟩ := origin record member
    have agreed := consistent.active before inside
    simp only [outline, Prod.mk.injEq] at equal
    rw [equal.1, equal.2.2.1] at agreed
    exact agreed
  · intro record member
    obtain ⟨before, inside, equal⟩ := origin record member
    simp only [outline, Prod.mk.injEq] at equal
    exact equal.2.2.2.symm.trans (consistent.tiled before inside)

theorem Consistent.updated {manager : WindowManager} (consistent : Consistent manager)
    (id : WindowId) (update : WindowRecord → WindowRecord)
    (keeps : ∀ record, outline (update record) = outline record) :
    Consistent { manager with
      model := { manager.model with
        records := updateRecord id update manager.model.records } } :=
  consistent.of_outline (update_record_map outline id update keeps manager.model.records)

theorem mark_active_state {id : WindowId} {records : List WindowRecord} {record : WindowRecord}
    (member : record ∈ markActive id records) : record.state = .active ↔ id = record.id := by
  obtain ⟨before, _, rfl⟩ := List.mem_map.mp member
  by_cases named : before.id = id
  · simp [named]
  · have other : id ≠ before.id := fun same => named same.symm
    simp only [named, if_false, reduceCtorEq, false_iff]
    exact other

theorem mark_active_tiled {id : WindowId} {records : List WindowRecord} {rect : Core.Geometry.Rect}
    (tiled : ∀ record ∈ records, record.geometry = rect) :
    ∀ record ∈ markActive id records, record.geometry = rect := by
  intro record member
  obtain ⟨before, inside, rfl⟩ := List.mem_map.mp member
  exact tiled before inside

theorem Consistent.mapped {manager : WindowManager} (consistent : Consistent manager)
    (request : MapRequest) : Consistent (manager.perform (.map request)).1 := by
  change Consistent { manager with model := (onMap manager.model manager.config request).1 }
  cases known : windowBySurface manager.model request.surfaceKey with
  | some existing =>
    have unchanged : (onMap manager.model manager.config request).1 = manager.model := by
      unfold onMap
      rw [known]
    rw [unchanged]
    exact consistent
  | none =>
    obtain ⟨_, ids, _, mru⟩ := on_map_fresh manager.config known
    have keys := on_map_keys manager.config known
    have formed := consistent.formed.mapped manager.config known
    have unused : request.surfaceKey ∉ surfaceKeys manager.model := by
      intro used
      obtain ⟨record, inside, same⟩ := List.mem_map.mp used
      have found := List.find?_eq_none.mp (Option.map_eq_none_iff.mp known) record inside
      simp only [decide_eq_true_eq] at found
      exact found same
    refine ⟨formed.ascending, formed.below, ?_, ?_, ?_, ?_⟩
    · have surfaces := congrArg (List.map Prod.fst) keys
      simp only [WindowModel.keys, List.map_append, List.map_map] at surfaces
      refine (congrArg List.Nodup surfaces).mpr ?_
      refine List.nodup_append.mpr ⟨consistent.surfaces, List.nodup_singleton _, ?_⟩
      intro key old other new same
      rw [List.mem_map] at new
      obtain ⟨pair, single, rfl⟩ := new
      rw [List.mem_singleton.mp single] at same
      subst same
      exact unused old
    · rw [ids, mru]
      exact (consistent.permuted.cons _).trans (List.perm_append_singleton _ _).symm
    · intro record member
      rw [activeWindow, mru]
      unfold onMap at member
      rw [known] at member
      rw [mark_active_state member, List.head?_cons, Option.some.injEq]
    · unfold onMap
      rw [known]
      refine mark_active_tiled fun record member => ?_
      rcases List.mem_append.mp member with old | new
      · exact consistent.tiled record old
      · rw [List.mem_singleton.mp new]

/-- Removing an id that is not in front keeps the front. -/
theorem head_filter {id : WindowId} {order : List WindowId} (behind : order.head? ≠ some id) :
    (order.filter (fun entry => entry ≠ id)).head? = order.head? := by
  cases order with
  | nil => rfl
  | cons front rest =>
    have other : front ≠ id := fun same => behind (congrArg some same)
    rw [List.filter_cons_of_pos (by simpa using other)]
    rfl

theorem Consistent.destroyed {manager : WindowManager} (consistent : Consistent manager)
    (id : WindowId) : Consistent (manager.perform (.destroy id)).1 := by
  change Consistent { manager with model := (onDestroy manager.model id).1 }
  have formed := consistent.formed.destroyed id
  obtain ⟨ids, _, mru, _⟩ := on_destroy_spec consistent.formed id
  have permuted : (onDestroy manager.model id).1.mru.Perm (onDestroy manager.model id).1.ids := by
    rw [ids, mru]
    rw [← erase_eq_filter consistent.mru_nodup]
    exact consistent.permuted.erase id
  cases known : window manager.model id with
  | none =>
    have unchanged : (onDestroy manager.model id).1 = manager.model := by
      unfold onDestroy
      rw [known]
    rw [unchanged]
    exact consistent
  | some removed =>
    have sublist := @List.eraseP_sublist _ (fun record : WindowRecord => decide (record.id = id))
      manager.model.records
    have surfaces := consistent.surfaces.sublist (sublist.map WindowRecord.surfaceKey)
    have tiled : ∀ record ∈ manager.model.records.eraseP (fun record => record.id = id),
        record.geometry = manager.config.tiledRect :=
      fun record member => consistent.tiled record (sublist.subset member)
    refine ⟨formed.ascending, formed.below, ?_, permuted, ?_, ?_⟩
    all_goals unfold onDestroy at permuted ⊢
    all_goals simp only [known] at permuted ⊢
    · split
      · exact surfaces
      · split
        · exact (congrArg List.Nodup
            (mark_active_map WindowRecord.surfaceKey (fun _ _ => rfl) _ _)).mpr surfaces
        · exact surfaces
    · split
      · next behind =>
        intro record member
        have agreed := consistent.active record (sublist.subset member)
        rw [agreed]
        unfold activeWindow at behind ⊢
        rw [head_filter behind]
      · next front =>
        simp only [front, if_false] at permuted
        split
        · next fallback next_front =>
          intro record member
          rw [mark_active_state member]
          change _ ↔ activeWindow { manager.model with mru := _ } = _
          unfold activeWindow at next_front ⊢
          rw [next_front, Option.some.injEq]
        · next no_window =>
          intro record member
          -- No id is left in the order, so no record is left either.
          have empty : manager.model.mru.filter (fun entry => entry ≠ id) = [] :=
            List.head?_eq_none_iff.mp no_window
          simp only [no_window] at permuted
          have listed := permuted.mem_iff.mpr (List.mem_map_of_mem member)
          rw [empty] at listed
          cases listed
    · split
      · exact tiled
      · split
        · exact mark_active_tiled tiled
        · exact tiled

theorem Consistent.activated {manager : WindowManager} (consistent : Consistent manager)
    (id : WindowId) : Consistent (manager.perform (.activate id)).1 := by
  change Consistent { manager with model := (Policy.activate manager.model id).1 }
  have formed := (activate_spec consistent.formed id).1
  have keys := (activate_spec consistent.formed id).2.1
  unfold Policy.activate at formed keys ⊢
  cases known : window manager.model id with
  | none => exact consistent
  | some found =>
    simp only [known] at formed keys ⊢
    split
    · exact consistent
    · next behind =>
      simp only [behind, if_false] at formed keys
      have tracked : id ∈ manager.model.mru := by
        refine consistent.permuted.mem_iff.mpr ?_
        rw [mem_ids_iff, commitOf, known]
        rfl
      have surfaces := congrArg (List.map Prod.fst) keys
      simp only [WindowModel.keys, List.map_map] at surfaces
      refine ⟨formed.ascending, formed.below, ?_, ?_, ?_, ?_⟩
      · exact (congrArg List.Nodup surfaces).mpr consistent.surfaces
      · have reordered := front_perm consistent.mru_nodup tracked
        have ids := mark_active_map WindowRecord.id (fun _ _ => rfl) id manager.model.records
        exact reordered.trans (consistent.permuted.trans (List.Perm.of_eq ids.symm))
      · intro record member
        rw [mark_active_state member]
        change _ ↔ some id = some record.id
        rw [Option.some.injEq]
      · exact mark_active_tiled consistent.tiled

theorem Consistent.resized {manager : WindowManager} (consistent : Consistent manager)
    (width height : ℕ) : Consistent (manager.perform (.setOutputSize width height)).1 := by
  have project : ∀ {β : Type} (part : WindowRecord → β),
      (∀ record geometry, part { record with geometry := geometry } = part record) →
      (manager.perform (.setOutputSize width height)).1.model.records.map part =
        manager.model.records.map part := by
    intro β part keeps
    simp only [WindowManager.perform, onOutputSize, List.map_map]
    exact List.map_congr_left fun record _ => keeps record _
  have ids := project WindowRecord.id fun _ _ => rfl
  have keys := project WindowRecord.surfaceKey fun _ _ => rfl
  refine ⟨?_, ?_, ?_, ?_, ?_, ?_⟩
  · exact (congrArg (Ascending WindowId.val) ids).mpr consistent.ascending
  · intro id member
    exact consistent.below id ((congrArg (fun ids => id ∈ ids) ids).mp member)
  · exact (congrArg List.Nodup keys).mpr consistent.surfaces
  · exact (congrArg manager.model.mru.Perm ids).mpr consistent.permuted
  · intro record member
    obtain ⟨before, inside, rfl⟩ := List.mem_map.mp member
    exact consistent.active before inside
  · intro record member
    obtain ⟨before, _, rfl⟩ := List.mem_map.mp member
    rfl

theorem Consistent.step {manager : WindowManager} (consistent : Consistent manager)
    (operation : Operation) : Consistent (manager.perform operation).1 := by
  cases operation with
  | map request => exact consistent.mapped request
  | destroy id => exact consistent.destroyed id
  | title id title => exact consistent.updated id _ fun _ => rfl
  | appId id appId => exact consistent.updated id _ fun _ => rfl
  | commit id commitSeq => exact consistent.updated id _ fun _ => rfl
  | popupAdded id => exact consistent.updated id _ fun _ => rfl
  | popupRemoved id => exact consistent.updated id _ fun _ => rfl
  | activate id => exact consistent.activated id
  | setOutputSize width height => exact consistent.resized width height

/-! ## Runs -/

theorem assigned_map {manager : WindowManager} (consistent : Consistent manager)
    (request : MapRequest) :
    WindowManager.assigned manager (manager.perform (.map request)).1 = [] ∨
      WindowManager.assigned manager (manager.perform (.map request)).1 =
          [⟨manager.model.nextId⟩] ∧
        (manager.perform (.map request)).1.model.nextId = manager.model.nextId + 1 := by
  cases known : windowBySurface manager.model request.surfaceKey with
  | some existing =>
    left
    refine List.filter_eq_nil_iff.mpr fun id member => ?_
    simp only [WindowManager.perform, onMap, known] at member
    simpa using member
  | none =>
    right
    obtain ⟨_, ids, nextId, _⟩ := on_map_fresh manager.config known
    refine ⟨?_, nextId⟩
    have old : manager.model.ids.filter (fun id => id ∉ manager.model.ids) = [] :=
      List.filter_eq_nil_iff.mpr fun id member => by simpa using member
    have new : (⟨manager.model.nextId⟩ : WindowId) ∉ manager.model.ids :=
      fun member => Nat.lt_irrefl _ (consistent.below _ member)
    change (onMap manager.model manager.config request).1.ids.filter
      (fun id => id ∉ manager.model.ids) = _
    rw [ids, List.filter_append, old, List.nil_append, List.filter_cons_of_pos (by simpa using new)]
    rfl

/-- Only a map call brings an id into the model, and the counter never goes back. -/
theorem assigned_step {manager : WindowManager} (consistent : Consistent manager)
    (operation : Operation) :
    (∀ id ∈ WindowManager.assigned manager (manager.perform operation).1,
        id = ⟨manager.model.nextId⟩ ∧
          (manager.perform operation).1.model.nextId = manager.model.nextId + 1) ∧
      (WindowManager.assigned manager (manager.perform operation).1).Nodup ∧
      manager.model.nextId ≤ (manager.perform operation).1.model.nextId := by
  -- A call that adds no id to the list assigns none.
  have kept : ∀ after : WindowManager, (∀ id ∈ after.model.ids, id ∈ manager.model.ids) →
      WindowManager.assigned manager after = [] := by
    intro after subset
    refine List.filter_eq_nil_iff.mpr fun id member => ?_
    simpa using subset id member
  have quiet : ∀ after : WindowManager, (∀ id ∈ after.model.ids, id ∈ manager.model.ids) →
      after.model.nextId = manager.model.nextId →
      (∀ id ∈ WindowManager.assigned manager after,
          id = ⟨manager.model.nextId⟩ ∧ after.model.nextId = manager.model.nextId + 1) ∧
        (WindowManager.assigned manager after).Nodup ∧
        manager.model.nextId ≤ after.model.nextId := by
    intro after subset nextId
    rw [kept after subset]
    exact ⟨(fun id member => by cases member), List.nodup_nil, nextId.ge⟩
  have updated : ∀ (id : WindowId) (update : WindowRecord → WindowRecord),
      (∀ record, (update record).id = record.id) →
      ∀ other ∈ (updateRecord id update manager.model.records).map WindowRecord.id,
        other ∈ manager.model.ids := by
    intro id update keeps other member
    rw [update_record_map WindowRecord.id id update keeps] at member
    exact member
  cases operation with
  | map request =>
    rcases assigned_map consistent request with none_new | ⟨one, nextId⟩
    · rw [none_new]
      refine ⟨(fun id member => by cases member), List.nodup_nil, ?_⟩
      cases known : windowBySurface manager.model request.surfaceKey with
      | some existing => simp [WindowManager.perform, onMap, known]
      | none => simp [WindowManager.perform, onMap, known]
    · rw [one]
      refine ⟨fun id member => ⟨List.mem_singleton.mp member, nextId⟩, List.nodup_singleton _, ?_⟩
      omega
  | destroy id =>
    obtain ⟨ids, nextId, _⟩ := on_destroy_spec consistent.formed id
    refine quiet _ (fun other member => ?_) nextId
    change other ∈ (onDestroy manager.model id).1.ids at member
    rw [ids] at member
    exact List.mem_of_mem_erase member
  | title id title => exact quiet _ (updated id _ fun _ => rfl) rfl
  | appId id appId => exact quiet _ (updated id _ fun _ => rfl) rfl
  | commit id commitSeq => exact quiet _ (updated id _ fun _ => rfl) rfl
  | popupAdded id => exact quiet _ (updated id _ fun _ => rfl) rfl
  | popupRemoved id => exact quiet _ (updated id _ fun _ => rfl) rfl
  | activate id =>
    obtain ⟨_, keys, nextId, _⟩ := activate_spec consistent.formed id
    refine quiet _ (fun other member => ?_) nextId
    have ids := congrArg (List.map Prod.snd) keys
    simp only [WindowModel.keys, List.map_map] at ids
    exact (congrArg (fun ids => other ∈ ids) ids).mp member
  | setOutputSize width height =>
    refine quiet _ (fun other member => ?_) rfl
    simp only [WindowManager.perform, onOutputSize, WindowModel.ids, List.map_map] at member
    exact member

theorem perform_all_consistent {manager : WindowManager} (consistent : Consistent manager)
    (operations : List Operation) : Consistent (manager.performAll operations) := by
  induction operations generalizing manager with
  | nil => exact consistent
  | cons operation rest ih => exact ih (consistent.step operation)

/-- Every id that a run assigns is at or above the counter it starts with, so none repeats. -/
theorem assigned_ids_fresh {manager : WindowManager} (consistent : Consistent manager)
    (operations : List Operation) :
    (∀ id ∈ manager.assignedIds operations, manager.model.nextId ≤ id.val) ∧
      (manager.assignedIds operations).Nodup := by
  induction operations generalizing manager with
  | nil => exact ⟨(fun id member => by cases member), List.nodup_nil⟩
  | cons operation rest ih =>
    obtain ⟨now, once, grows⟩ := assigned_step consistent operation
    obtain ⟨later, distinct⟩ := ih (consistent.step operation)
    constructor
    · intro id member
      rcases List.mem_append.mp member with new | following
      · rw [(now id new).1]
      · exact grows.trans (later id following)
    · refine List.nodup_append.mpr ⟨once, distinct, ?_⟩
      intro id new other following same
      obtain ⟨named, nextId⟩ := now id new
      have bound := later other following
      rw [← same, named] at bound
      change (manager.perform operation).1.model.nextId ≤ manager.model.nextId at bound
      omega

/-- After any sequence of calls the ids ascend below the next id, the surface keys are distinct,
`mru` is a permutation of the ids, the sole active record is the front of `mru`, every window is
tiled, and the run assigned no id twice. -/
theorem operations_consistent (config : PolicyConfig) (operations : List Operation) :
    let manager := (WindowManager.new config).performAll operations
    Consistent manager ∧
      (manager.model.records ≠ [] → ∃ record,
        manager.model.records.filter (fun record => record.state = .active) = [record] ∧
          manager.model.mru.head? = some record.id) ∧
      ((WindowManager.new config).assignedIds operations).Nodup := by
  intro manager
  have consistent := perform_all_consistent (Consistent.initial config) operations
  exact ⟨consistent, consistent.sole_active,
    (assigned_ids_fresh (Consistent.initial config) operations).2⟩

end ADesk.Wm.Consistency
