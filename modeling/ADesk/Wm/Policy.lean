/- ADesk/Wm/Policy
   digest: The window model and the tiling policy: ids, activation order and commit counters. -/

import ADesk.Core.Geometry
import ADesk.Core.Ids
import ADesk.Foundation.KeyedLog

set_option autoImplicit false

namespace ADesk.Wm.Policy

open ADesk.Core.Geometry (Rect)
open ADesk.Core.Ids (WindowId AppId)
open ADesk.Foundation.KeyedLog (Ascending)

/-- Names a surface tree; only compared, never interpreted. -/
structure SurfaceKey where
  raw : ℕ
  deriving DecidableEq

inductive WindowState
  | active | inactive
  deriving DecidableEq

/-- Everything the window model knows about one toplevel. -/
structure WindowRecord where
  id : WindowId
  surfaceKey : SurfaceKey
  appId : Option AppId
  pid : Option ℤ
  title : Option String
  geometry : Rect
  state : WindowState
  mapped : Bool
  createdSeq : ℕ
  lastCommitSeq : ℕ
  popupCount : ℕ
  deriving DecidableEq

/-- Metadata the compositor supplies when a toplevel is mapped. -/
structure MapRequest where
  surfaceKey : SurfaceKey
  appId : Option AppId
  pid : Option ℤ
  title : Option String
  createdSeq : ℕ

structure PolicyConfig where
  outputWidth : ℕ
  outputHeight : ℕ
  deriving DecidableEq

/-- Every mapped window covers the whole output at the origin. -/
def PolicyConfig.tiledRect (config : PolicyConfig) : Rect :=
  ⟨0, 0, config.outputWidth, config.outputHeight⟩

/-- `records` in creation order, `mru` most recently used first, `nextId` never reused. -/
structure WindowModel where
  records : List WindowRecord
  mru : List WindowId
  nextId : ℕ
  deriving DecidableEq

def WindowModel.new : WindowModel := ⟨[], [], 1⟩

/-- A decision for the compositor to apply. -/
inductive WmAction
  | configureWindow (id : WindowId) (rect : Rect)
  | activate (id : WindowId)
  | activatePrevious (id : WindowId)
  | none
  deriving DecidableEq

def window (model : WindowModel) (id : WindowId) : Option WindowRecord :=
  model.records.find? (fun record => record.id = id)

/-- The active window is the front of the activation order. -/
def activeWindow (model : WindowModel) : Option WindowId := model.mru.head?

def windowBySurface (model : WindowModel) (key : SurfaceKey) : Option WindowId :=
  (model.records.find? (fun record => record.surfaceKey = key)).map WindowRecord.id

/-- Updates the first record of an id, as through `record_mut`. -/
def updateRecord (id : WindowId) (update : WindowRecord → WindowRecord) :
    List WindowRecord → List WindowRecord
  | [] => []
  | record :: rest =>
    if record.id = id then update record :: rest else record :: updateRecord id update rest

def markActive (id : WindowId) (records : List WindowRecord) : List WindowRecord :=
  records.map fun record =>
    { record with state := if record.id = id then .active else .inactive }

def onMap (model : WindowModel) (config : PolicyConfig) (request : MapRequest) :
    WindowModel × WindowId × List WmAction :=
  match windowBySurface model request.surfaceKey with
  | some existing => (model, existing, [.none])
  | none =>
    let id : WindowId := ⟨model.nextId⟩
    let record : WindowRecord :=
      { id := id
        surfaceKey := request.surfaceKey
        appId := request.appId
        pid := request.pid
        title := request.title
        geometry := config.tiledRect
        state := .active
        mapped := true
        createdSeq := request.createdSeq
        lastCommitSeq := 0
        popupCount := 0 }
    ({ records := markActive id (model.records ++ [record])
       mru := id :: model.mru
       nextId := model.nextId + 1 },
      id, [.configureWindow id config.tiledRect, .activate id])

def onDestroy (model : WindowModel) (id : WindowId) : WindowModel × List WmAction :=
  match window model id with
  | none => (model, [])
  | some _ =>
    let remaining : WindowModel :=
      { model with
        records := model.records.eraseP (fun record => record.id = id)
        mru := model.mru.filter (fun entry => entry ≠ id) }
    if activeWindow model ≠ some id then (remaining, [])
    else
      match activeWindow remaining with
      | some fallback =>
        ({ remaining with records := markActive fallback remaining.records },
          [.activatePrevious fallback])
      | none => (remaining, [])

def onTitle (model : WindowModel) (id : WindowId) (title : Option String) : WindowModel :=
  { model with
    records := updateRecord id (fun record => { record with title := title }) model.records }

def onAppId (model : WindowModel) (id : WindowId) (appId : Option AppId) : WindowModel :=
  { model with
    records := updateRecord id (fun record => { record with appId := appId }) model.records }

def onCommit (model : WindowModel) (id : WindowId) (commitSeq : ℕ) : WindowModel :=
  { model with
    records := updateRecord id
      (fun record => { record with lastCommitSeq := max record.lastCommitSeq commitSeq })
      model.records }

def onPopupAdded (model : WindowModel) (id : WindowId) : WindowModel :=
  { model with
    records := updateRecord id
      (fun record => { record with popupCount := min (record.popupCount + 1) (2 ^ 32 - 1) })
      model.records }

def onPopupRemoved (model : WindowModel) (id : WindowId) : WindowModel :=
  { model with
    records := updateRecord id
      (fun record => { record with popupCount := record.popupCount - 1 }) model.records }

def activate (model : WindowModel) (id : WindowId) : WindowModel × List WmAction :=
  match window model id with
  | none => (model, [])
  | some _ =>
    if activeWindow model = some id then (model, [.none])
    else
      ({ model with
          records := markActive id model.records
          mru := id :: model.mru.filter (fun entry => entry ≠ id) },
        [.activate id])

def WindowModel.ids (model : WindowModel) : List WindowId := model.records.map WindowRecord.id

/-- The surface key and the id of every tracked window. -/
def WindowModel.keys (model : WindowModel) : List (SurfaceKey × WindowId) :=
  model.records.map fun record => (record.surfaceKey, record.id)

/-- The commit counter of a window; `none` when the window is not tracked. -/
def commitOf (model : WindowModel) (id : WindowId) : Option ℕ :=
  (window model id).map WindowRecord.lastCommitSeq

/-- Ids ascend in creation order, stay below the next id and include those of the activation
order. -/
structure WellFormed (model : WindowModel) : Prop where
  ascending : Ascending WindowId.val model.ids
  below : ∀ id ∈ model.ids, id.val < model.nextId
  recent : ∀ id ∈ model.mru, id ∈ model.ids

theorem WellFormed.initial : WellFormed WindowModel.new where
  ascending := List.Pairwise.nil
  below := fun _ member => by cases member
  recent := fun _ member => by cases member

theorem WellFormed.nodup {model : WindowModel} (formed : WellFormed model) : model.ids.Nodup :=
  formed.ascending.imp fun {a b} before same => by
    subst same
    exact Nat.lt_irrefl _ before

/-- Operations that keep ids and activation order keep the model well formed. -/
theorem WellFormed.of_ids {before after : WindowModel} (formed : WellFormed before)
    (ids : after.ids = before.ids) (nextId : after.nextId = before.nextId)
    (mru : after.mru = before.mru) : WellFormed after where
  ascending := ids ▸ formed.ascending
  below := by
    rw [ids, nextId]
    exact formed.below
  recent := by
    rw [ids, mru]
    exact formed.recent

theorem mem_ids_iff {model : WindowModel} {id : WindowId} :
    id ∈ model.ids ↔ (commitOf model id).isSome = true := by
  unfold commitOf window WindowModel.ids
  rw [Option.isSome_map, List.find?_isSome]
  simp

theorem mem_keys_ids {model : WindowModel} {key : SurfaceKey} {id : WindowId}
    (member : (key, id) ∈ model.keys) : id ∈ model.ids := by
  obtain ⟨record, inside, named⟩ := List.mem_map.mp member
  cases named
  exact List.mem_map_of_mem inside

theorem window_by_surface_fresh {model : WindowModel} {key : SurfaceKey}
    (unused : ∀ pair ∈ model.keys, pair.1 ≠ key) : windowBySurface model key = none := by
  unfold windowBySurface
  rw [Option.map_eq_none_iff, List.find?_eq_none]
  intro record member
  rw [decide_eq_true_iff]
  exact unused (record.surfaceKey, record.id)
    (@List.mem_map_of_mem _ _ _ _ (fun record => (record.surfaceKey, record.id)) member)

/-! ## Updating one record -/

theorem update_record_map {β : Type} (view : WindowRecord → β) (id : WindowId)
    (update : WindowRecord → WindowRecord) (keeps : ∀ record, view (update record) = view record)
    (records : List WindowRecord) :
    (updateRecord id update records).map view = records.map view := by
  induction records with
  | nil => rfl
  | cons record rest ih =>
    unfold updateRecord
    split
    · rw [List.map_cons, List.map_cons, keeps]
    · rw [List.map_cons, List.map_cons, ih]

theorem update_record_find (id other : WindowId) (update : WindowRecord → WindowRecord)
    (keeps : ∀ record, (update record).id = record.id) (records : List WindowRecord) :
    (updateRecord id update records).find? (fun record => record.id = other) =
      if id = other then (records.find? (fun record => record.id = other)).map update
      else records.find? (fun record => record.id = other) := by
  induction records with
  | nil => simp [updateRecord]
  | cons record rest ih =>
    unfold updateRecord
    by_cases named : record.id = id
    · rw [if_pos named]
      by_cases same : id = other
      · simp [keeps, named, same]
      · simp [keeps, named, same]
    · rw [if_neg named]
      by_cases found : record.id = other
      · have different : id ≠ other := fun same => named (found.trans same.symm)
        simp [found, different]
      · simp only [List.find?_cons, found, decide_false, ih]

theorem mark_active_map {β : Type} (view : WindowRecord → β)
    (keeps : ∀ record state, view { record with state := state } = view record) (id : WindowId)
    (records : List WindowRecord) : (markActive id records).map view = records.map view := by
  unfold markActive
  rw [List.map_map]
  exact List.map_congr_left fun record _ => keeps record _

theorem mark_active_commit (id other : WindowId) (records : List WindowRecord) :
    ((markActive id records).find? (fun record => record.id = other)).map
        WindowRecord.lastCommitSeq =
      (records.find? (fun record => record.id = other)).map WindowRecord.lastCommitSeq := by
  unfold markActive
  rw [List.find?_map, Option.map_map]
  rfl

/-- Updates that keep id and commit counter keep every commit counter. -/
theorem update_record_commit (model : WindowModel) (id : WindowId)
    (update : WindowRecord → WindowRecord) (keeps : ∀ record, (update record).id = record.id)
    (commit : ∀ record, (update record).lastCommitSeq = record.lastCommitSeq) (other : WindowId) :
    commitOf { model with records := updateRecord id update model.records } other =
      commitOf model other := by
  unfold commitOf window
  rw [update_record_find id other update keeps]
  split
  · rw [Option.map_map]
    congr 1
    funext record
    exact commit record
  · rfl

theorem on_commit_commit (model : WindowModel) (id : WindowId) (commitSeq : ℕ)
    (other : WindowId) :
    commitOf (onCommit model id commitSeq) other =
      if id = other then (commitOf model other).map (fun last => max last commitSeq)
      else commitOf model other := by
  unfold commitOf window onCommit
  rw [update_record_find id other]
  · split
    · rw [Option.map_map, Option.map_map]
      rfl
    · rfl
  · intro record
    rfl

/-! ## Mapping, destroying and activating -/

theorem on_map_fresh {model : WindowModel} (config : PolicyConfig) {request : MapRequest}
    (fresh : windowBySurface model request.surfaceKey = none) :
    (onMap model config request).2 =
        (⟨model.nextId⟩, [.configureWindow ⟨model.nextId⟩ config.tiledRect,
          .activate ⟨model.nextId⟩]) ∧
      (onMap model config request).1.ids = model.ids ++ [⟨model.nextId⟩] ∧
      (onMap model config request).1.nextId = model.nextId + 1 ∧
      (onMap model config request).1.mru = ⟨model.nextId⟩ :: model.mru := by
  unfold onMap
  rw [fresh]
  refine ⟨rfl, ?_, rfl, rfl⟩
  unfold WindowModel.ids
  rw [mark_active_map WindowRecord.id (fun _ _ => rfl), List.map_append]
  rfl

theorem on_map_keys {model : WindowModel} (config : PolicyConfig) {request : MapRequest}
    (fresh : windowBySurface model request.surfaceKey = none) :
    (onMap model config request).1.keys =
      model.keys ++ [(request.surfaceKey, ⟨model.nextId⟩)] := by
  unfold onMap
  rw [fresh]
  unfold WindowModel.keys
  rw [mark_active_map _ (fun _ _ => rfl), List.map_append]
  rfl

theorem WellFormed.mapped {model : WindowModel} (formed : WellFormed model)
    (config : PolicyConfig) {request : MapRequest}
    (fresh : windowBySurface model request.surfaceKey = none) :
    WellFormed (onMap model config request).1 := by
  obtain ⟨_, ids, nextId, mru⟩ := on_map_fresh config fresh
  refine ⟨?_, ?_, ?_⟩
  · rw [ids]
    refine List.pairwise_append.mpr ⟨formed.ascending, List.pairwise_singleton _ _, ?_⟩
    intro id member last inside
    rw [List.mem_singleton.mp inside]
    exact formed.below id member
  · intro id member
    rw [ids, List.mem_append, List.mem_singleton] at member
    rw [nextId]
    rcases member with old | rfl
    · exact Nat.lt_succ_of_lt (formed.below id old)
    · exact Nat.lt_succ_self _
  · intro id member
    rw [mru, List.mem_cons] at member
    rw [ids, List.mem_append, List.mem_singleton]
    rcases member with new | old
    · exact Or.inr new
    · exact Or.inl (formed.recent id old)

theorem on_map_commit {model : WindowModel} (formed : WellFormed model) (config : PolicyConfig)
    {request : MapRequest} (fresh : windowBySurface model request.surfaceKey = none)
    (other : WindowId) :
    commitOf (onMap model config request).1 other =
      if (⟨model.nextId⟩ : WindowId) = other then some 0 else commitOf model other := by
  unfold commitOf window onMap
  rw [fresh]
  simp only [mark_active_commit]
  rw [List.find?_append]
  by_cases same : (⟨model.nextId⟩ : WindowId) = other
  · subst same
    have absent : model.records.find? (fun record => record.id = ⟨model.nextId⟩) = none := by
      rw [List.find?_eq_none]
      intro record member
      have bound := formed.below record.id (List.mem_map_of_mem member)
      simp only [decide_eq_true_eq]
      intro named
      rw [named] at bound
      exact Nat.lt_irrefl _ bound
    simp [absent]
  · simp [same]

private theorem erase_ids (id : WindowId) (records : List WindowRecord) :
    (records.eraseP (fun record => record.id = id)).map WindowRecord.id =
      (records.map WindowRecord.id).erase id := by
  induction records with
  | nil => rfl
  | cons record rest ih =>
    by_cases named : record.id = id
    · simp [named]
    · simp [named, ih]

/-- What is found after one id was removed. -/
theorem erase_find {records : List WindowRecord} (id other : WindowId)
    (distinct : (records.map WindowRecord.id).Nodup) :
    (records.eraseP (fun record => record.id = id)).find? (fun record => record.id = other) =
      if id = other then none else records.find? (fun record => record.id = other) := by
  induction records with
  | nil => simp
  | cons record rest ih =>
    rw [List.map_cons, List.nodup_cons] at distinct
    by_cases named : record.id = id
    · rw [List.eraseP_cons_of_pos (by simpa using named)]
      by_cases same : id = other
      · have absent : rest.find? (fun later => later.id = other) = none := by
          rw [List.find?_eq_none]
          intro later member
          simp only [decide_eq_true_eq]
          intro found
          exact distinct.1 (named.trans (same.trans found.symm) ▸ List.mem_map_of_mem member)
        rw [absent, if_pos same]
      · have different : record.id ≠ other := fun found => same (named.symm.trans found)
        rw [if_neg same, List.find?_cons_of_neg (by simpa using different)]
    · rw [List.eraseP_cons_of_neg (by simpa using named)]
      by_cases found : record.id = other
      · have different : id ≠ other := fun same => named (found.trans same.symm)
        simp [found, different]
      · simp only [List.find?_cons, found, decide_false, ih distinct.2]

private theorem erase_commit {records : List WindowRecord} (id other : WindowId)
    (distinct : (records.map WindowRecord.id).Nodup) :
    ((records.eraseP (fun record => record.id = id)).find? (fun record => record.id = other)).map
        WindowRecord.lastCommitSeq =
      if id = other then none
      else (records.find? (fun record => record.id = other)).map WindowRecord.lastCommitSeq := by
  rw [erase_find id other distinct]
  split <;> rfl

/-- Destroying removes one id; the fallback activation changes no id and no counter. -/
theorem on_destroy_spec {model : WindowModel} (formed : WellFormed model) (id : WindowId) :
    (onDestroy model id).1.ids = model.ids.erase id ∧
      (onDestroy model id).1.nextId = model.nextId ∧
      (onDestroy model id).1.mru = model.mru.filter (fun entry => entry ≠ id) ∧
      ∀ other, commitOf (onDestroy model id).1 other =
        if id = other then none else commitOf model other := by
  have ids := erase_ids id model.records
  have commits : ∀ other, _ := fun other => erase_commit id other formed.nodup
  unfold onDestroy
  cases known : window model id with
  | none =>
    have absent : id ∉ model.ids := by
      rw [mem_ids_iff, commitOf, known]
      simp
    refine ⟨(List.erase_of_not_mem absent).symm, rfl, ?_, fun other => ?_⟩
    · refine (List.filter_eq_self.mpr fun entry member => ?_).symm
      simp only [ne_eq, decide_not, Bool.not_eq_true', decide_eq_false_iff_not]
      intro same
      exact absent (same ▸ formed.recent entry member)
    change commitOf model other = _
    by_cases same : id = other
    · rw [if_pos same, ← same, commitOf, known]
      rfl
    · rw [if_neg same]
  | some record =>
    dsimp only
    split
    · exact ⟨ids, rfl, rfl, commits⟩
    · split
      · next fallback _ =>
        refine ⟨(mark_active_map WindowRecord.id (fun _ _ => rfl) fallback _).trans ids, rfl, rfl,
          fun other => ?_⟩
        exact (mark_active_commit fallback other _).trans (commits other)
      · exact ⟨ids, rfl, rfl, commits⟩

theorem on_destroy_keys (model : WindowModel) (id : WindowId) :
    ∀ pair ∈ (onDestroy model id).1.keys, pair ∈ model.keys := by
  have erased : ∀ pair ∈ (model.records.eraseP (fun record => record.id = id)).map
      (fun record => (record.surfaceKey, record.id)), pair ∈ model.keys :=
    (List.eraseP_sublist.map _).subset
  unfold onDestroy
  cases window model id with
  | none => exact fun _ member => member
  | some record =>
    dsimp only
    split
    · exact erased
    · split
      · next fallback _ =>
        intro pair member
        unfold WindowModel.keys at member
        rw [mark_active_map _ (fun _ _ => rfl)] at member
        exact erased pair member
      · exact erased

theorem WellFormed.destroyed {model : WindowModel} (formed : WellFormed model) (id : WindowId) :
    WellFormed (onDestroy model id).1 := by
  obtain ⟨ids, nextId, mru, _⟩ := on_destroy_spec formed id
  refine ⟨?_, ?_, ?_⟩
  · rw [ids]
    exact formed.ascending.sublist List.erase_sublist
  · intro other member
    rw [ids] at member
    rw [nextId]
    exact formed.below other (List.mem_of_mem_erase member)
  · intro other member
    rw [mru, List.mem_filter, decide_eq_true_iff] at member
    rw [ids]
    exact (List.mem_erase_of_ne member.2).mpr (formed.recent other member.1)

/-- The fallback of a destruction is a window that is still tracked. -/
theorem on_destroy_actions {model : WindowModel} (formed : WellFormed model) {id : WindowId}
    {action : WmAction} (decided : action ∈ (onDestroy model id).2) :
    ∃ fallback ∈ (onDestroy model id).1.ids, action = .activatePrevious fallback := by
  have recent := (formed.destroyed id).recent
  unfold onDestroy at decided recent ⊢
  cases known : window model id with
  | none =>
    simp only [known] at decided
    cases decided
  | some record =>
    simp only [known] at decided recent ⊢
    split at decided
    · cases decided
    · next active =>
      split at decided
      · next fallback front =>
        simp only [active, front] at recent ⊢
        refine ⟨fallback, recent fallback (List.mem_of_mem_head? front), ?_⟩
        exact List.mem_singleton.mp decided
      · cases decided

/-- Activation changes no id and no counter, and decides at most the activation asked for. -/
theorem activate_spec {model : WindowModel} (formed : WellFormed model) (id : WindowId) :
    WellFormed (activate model id).1 ∧ (activate model id).1.keys = model.keys ∧
      (activate model id).1.nextId = model.nextId ∧
      (∀ other, commitOf (activate model id).1 other = commitOf model other) ∧
      ∀ action ∈ (activate model id).2,
        action = .none ∨ (id ∈ model.ids ∧ action = .activate id) := by
  unfold activate
  cases known : window model id with
  | none => exact ⟨formed, rfl, rfl, fun _ => rfl, fun action decided => by cases decided⟩
  | some record =>
    have tracked : id ∈ model.ids := by
      rw [mem_ids_iff, commitOf, known]
      rfl
    dsimp only
    split
    · exact ⟨formed, rfl, rfl, fun _ => rfl, fun action decided =>
        Or.inl (List.mem_singleton.mp decided)⟩
    · have ids := mark_active_map WindowRecord.id (fun _ _ => rfl) id model.records
      refine ⟨⟨?_, ?_, ?_⟩, mark_active_map _ (fun _ _ => rfl) id model.records, rfl,
        fun other => mark_active_commit id other _,
        fun action decided => Or.inr ⟨tracked, List.mem_singleton.mp decided⟩⟩
      · exact (congrArg (Ascending WindowId.val) ids).mpr formed.ascending
      · intro other member
        change other ∈ (markActive id model.records).map WindowRecord.id at member
        rw [ids] at member
        exact formed.below other member
      · intro other member
        change other ∈ (markActive id model.records).map WindowRecord.id
        rw [ids]
        rcases List.mem_cons.mp member with rfl | older
        · exact tracked
        · exact formed.recent other (List.mem_of_mem_filter older)

end ADesk.Wm.Policy
