/- ADesk/Compositor/Tables
   digest: The tables of the window bridge beside its surface registry, and when they agree. -/

import ADesk.Compositor.Sourcing
import ADesk.Foundation.Execution
import ADesk.Foundation.UniqueKeys

set_option autoImplicit false

namespace ADesk.Compositor.Tables

open ADesk.Core.Ids (WindowId LaunchId AppId)
open ADesk.Compositor.Bridge
open ADesk.Compositor.Sourcing
open ADesk.Compositor.State
open ADesk.Foundation.Execution
open ADesk.Foundation.UniqueKeys
open ADesk.Wm.Policy

/-! ## The tables -/

/-- The most recent popup grab; recorded, never enforced by the seat. -/
structure PopupGrab where
  popup : Surface
  windowId : WindowId
  popupId : ℕ
  deriving DecidableEq

/-- The window bridge with its popup handles, grab, correlated launches and last app ids. -/
structure BridgeTables where
  wm : WmBridge
  popupHandles : Surface → Bool
  grab : Option PopupGrab
  launchIds : WindowId → Option LaunchId
  appIds : WindowId → Option (Option AppId)

/-- One call of the bridge. What the launch ledger answers is part of the call. -/
inductive Operation
  | registerToplevel (surface : Surface)
  | mapToplevel (surface : Surface) (metadata : ToplevelMetadata) (createdSeq : ℕ)
  | destroyToplevel (surface : Surface)
  | titleChanged (surface : Surface) (title : Option String)
  | appIdChanged (surface : Surface) (appId : Option AppId) (correlated : Option LaunchId)
  | popupAdded (surface : Surface) (parent : Option Surface)
  | popupRemoved (surface : Surface)
  | notePopupGrab (surface : Surface)
  | takePopupGrab
  | commit (windowId : WindowId)
  | activate (windowId : WindowId)
  deriving DecidableEq

namespace BridgeTables

def new (config : PolicyConfig) : BridgeTables :=
  ⟨WmBridge.new config, fun _ => false, none, fun _ => none, fun _ => none⟩

def recordLaunch (tables : BridgeTables) (id : WindowId) (correlated : Option LaunchId) :
    WindowId → Option LaunchId :=
  match correlated with
  | some launchId => Function.update tables.launchIds id (some launchId)
  | none => tables.launchIds

def mapToplevel (tables : BridgeTables) (surface : Surface) (metadata : ToplevelMetadata)
    (createdSeq : ℕ) : BridgeTables :=
  match tables.wm.mapToplevel surface metadata createdSeq with
  | (_, .alreadyMapped _) => tables
  | (mapped, .created id _) =>
    { tables with
      wm := mapped
      appIds := Function.update tables.appIds id (some metadata.appId)
      launchIds := tables.recordLaunch id metadata.launchId }

/-- Drops the handles of the popups that the registry has just forgotten. -/
def dropHandles (handles : Surface → Bool) (popups : List PopupRecord) : Surface → Bool :=
  popups.foldl (fun handles popup => Function.update handles popup.surface false) handles

def destroyToplevel (tables : BridgeTables) (surface : Surface) : BridgeTables :=
  match tables.wm.destroyToplevel surface with
  | none => tables
  | some (removed, destroyed) =>
    let handles := dropHandles tables.popupHandles (tables.wm.surfaces.unbindToplevel surface).2.2
    match destroyed.windowId with
    | none => { tables with wm := removed, popupHandles := handles }
    | some id =>
      { tables with
        wm := removed
        popupHandles := handles
        launchIds := Function.update tables.launchIds id none
        appIds := Function.update tables.appIds id none }

def titleChanged (tables : BridgeTables) (surface : Surface) (title : Option String) :
    BridgeTables :=
  match tables.wm.titleChanged surface title with
  | none => tables
  | some (changed, _) => { tables with wm := changed }

/-- An app id that did not change is ignored; a changed one may correlate a launch. -/
def noteAppId (tables : BridgeTables) (id : WindowId) (appId : Option AppId)
    (correlated : Option LaunchId) : BridgeTables :=
  if (tables.appIds id).join = appId then tables
  else
    { tables with
      wm := { tables.wm with manager := onAppId tables.wm.manager id appId }
      appIds := Function.update tables.appIds id (some appId)
      launchIds :=
        if (tables.launchIds id).isSome then tables.launchIds
        else tables.recordLaunch id correlated }

def appIdChanged (tables : BridgeTables) (surface : Surface) (appId : Option AppId)
    (correlated : Option LaunchId) : BridgeTables :=
  match tables.wm.windowForSurface surface [] with
  | none => tables
  | some id => tables.noteAppId id appId correlated

def popupAdded (tables : BridgeTables) (surface : Surface) (parent : Option Surface) :
    BridgeTables :=
  match tables.wm.popupAdded surface parent with
  | none => tables
  | some (added, _) =>
    { tables with
      wm := added
      popupHandles := Function.update tables.popupHandles surface true }

/-- Removing the popup that grabs clears the grab. -/
def popupRemoved (tables : BridgeTables) (surface : Surface) : BridgeTables :=
  match tables.wm.popupRemoved surface with
  | none => tables
  | some (removed, _) =>
    { tables with
      wm := removed
      popupHandles := Function.update tables.popupHandles surface false
      grab := tables.grab.filter fun grab => grab.popup ≠ surface }

def notePopupGrab (tables : BridgeTables) (surface : Surface) : BridgeTables :=
  match tables.wm.surfaces.popups.find? fun popup => popup.surface = surface with
  | none => tables
  | some record => { tables with grab := some ⟨surface, record.windowId, record.popupId⟩ }

def perform (tables : BridgeTables) : Operation → BridgeTables
  | .registerToplevel surface => { tables with wm := tables.wm.registerToplevel surface }
  | .mapToplevel surface metadata createdSeq => tables.mapToplevel surface metadata createdSeq
  | .destroyToplevel surface => tables.destroyToplevel surface
  | .titleChanged surface title => tables.titleChanged surface title
  | .appIdChanged surface appId correlated => tables.appIdChanged surface appId correlated
  | .popupAdded surface parent => tables.popupAdded surface parent
  | .popupRemoved surface => tables.popupRemoved surface
  | .notePopupGrab surface => tables.notePopupGrab surface
  | .takePopupGrab => { tables with grab := none }
  | .commit windowId => { tables with wm := (tables.wm.commit windowId).1 }
  | .activate windowId =>
    match tables.wm.activate windowId with
    | none => tables
    | some (activated, _) => { tables with wm := activated }

end BridgeTables

def bridgeMachine (config : PolicyConfig) : Machine BridgeTables Operation :=
  ⟨BridgeTables.new config, fun tables operation => some (tables.perform operation)⟩

/-! ## Agreement -/

/-- The popups that a window owns. -/
def popupsOf (popups : List PopupRecord) (id : WindowId) : List PopupRecord :=
  popups.filter fun popup => popup.windowId = id

def Live (tables : BridgeTables) (id : WindowId) : Prop := id ∈ tables.wm.manager.ids

/-- The tables of the bridge speak about the same windows and popups. -/
structure Agree (tables : BridgeTables) : Prop where
  counts : ∀ record ∈ tables.wm.manager.records,
    record.popupCount = (popupsOf tables.wm.surfaces.popups record.id).length
  handles : ∀ surface, tables.popupHandles surface = true ↔
    ∃ popup ∈ tables.wm.surfaces.popups, popup.surface = surface
  owners : ∀ surface id, tables.wm.surfaces.owners surface = some id → Live tables id
  roots : ∀ id surface, tables.wm.roots id = some surface → Live tables id
  launches : ∀ id launchId, tables.launchIds id = some launchId → Live tables id
  apps : ∀ id appId, tables.appIds id = some appId → Live tables id
  grab : ∀ grab, tables.grab = some grab → Live tables grab.windowId ∧
    (⟨grab.popup, grab.windowId, grab.popupId⟩ : PopupRecord) ∈ tables.wm.surfaces.popups

/-- The window that a toplevel surface is mapped as. -/
def windowOf (tables : BridgeTables) (surface : Surface) : Option WindowId :=
  (tables.wm.surfaces.toplevels surface).bind ToplevelSlot.window

/-- A popup is announced once, and no window is destroyed while it holds the recorded grab. The
bridge counts a popup before it knows whether the registry tracks it already, and it forgets the
popups of a destroyed window without looking at the grab. The counter has 32 bits. -/
def Orderly (tables : BridgeTables) : Operation → Prop
  | .popupAdded surface parent =>
    (∀ popup ∈ tables.wm.surfaces.popups, popup.surface ≠ surface) ∧
      ∀ id ∈ parent.bind tables.wm.surfaces.owners,
        (popupsOf tables.wm.surfaces.popups id).length < 2 ^ 32 - 1
  | .destroyToplevel surface =>
    ∀ id ∈ windowOf tables surface, tables.grab.map PopupGrab.windowId ≠ some id
  | _ => True

instance (tables : BridgeTables) (operation : Operation) : Decidable (Orderly tables operation) := by
  cases operation <;> unfold Orderly <;> infer_instance

/-- Agreement with what its induction needs: the window table is linked to the surfaces, and each
surface is at most one popup. -/
structure Kept (tables : BridgeTables) : Prop where
  agree : Agree tables
  linked : Linked tables.wm
  distinct : (tables.wm.surfaces.popups.map PopupRecord.surface).Nodup

theorem Kept.initial (config : PolicyConfig) : Kept (BridgeTables.new config) where
  agree :=
    { counts := fun _ member => by cases member
      handles := fun _ => ⟨(fun held => by cases held), (fun ⟨_, member, _⟩ => by cases member)⟩
      owners := fun _ _ owned => by cases owned
      roots := fun _ _ found => by cases found
      launches := fun _ _ found => by cases found
      apps := fun _ _ found => by cases found
      grab := fun _ found => by cases found }
  linked := initial_linked config
  distinct := List.Pairwise.nil

/-! ## Calls that leave the popups alone -/

/-- Every record comes from one of the same id and popup count. -/
def SameCounts (before after : WindowModel) : Prop :=
  ∀ record ∈ after.records, ∃ old ∈ before.records,
    old.id = record.id ∧ old.popupCount = record.popupCount

theorem same_counts_of_map {before after : WindowModel}
    (same : after.records.map (fun record => (record.id, record.popupCount)) =
      before.records.map (fun record => (record.id, record.popupCount))) :
    SameCounts before after := by
  intro record member
  have mapped : (record.id, record.popupCount) ∈
      after.records.map (fun record => (record.id, record.popupCount)) :=
    List.mem_map.mpr ⟨record, member, rfl⟩
  rw [same] at mapped
  obtain ⟨old, inside, equal⟩ := List.mem_map.mp mapped
  exact ⟨old, inside, congrArg Prod.fst equal, congrArg Prod.snd equal⟩

/-- A call that changes neither the popups nor the handles nor the grab, keeps the windows and
every count, and only adds entries about live windows. -/
theorem Kept.unchanged {tables after : BridgeTables} (kept : Kept tables)
    (linked : Linked after.wm) (counts : SameCounts tables.wm.manager after.wm.manager)
    (live : ∀ id, Live tables id → Live after id)
    (popups : after.wm.surfaces.popups = tables.wm.surfaces.popups)
    (handles : after.popupHandles = tables.popupHandles) (grab : after.grab = tables.grab)
    (roots : ∀ id surface, after.wm.roots id = some surface → Live after id)
    (launches : ∀ id launchId, after.launchIds id = some launchId → Live after id)
    (apps : ∀ id appId, after.appIds id = some appId → Live after id) : Kept after := by
  refine ⟨⟨?_, ?_, linked.ownersLive, roots, launches, apps, ?_⟩, linked, ?_⟩
  · intro record member
    obtain ⟨old, inside, sameId, sameCount⟩ := counts record member
    rw [popups, ← sameId, ← sameCount]
    exact kept.agree.counts old inside
  · rw [handles, popups]
    exact kept.agree.handles
  · rw [grab, popups]
    intro held found
    obtain ⟨isLive, tracked⟩ := kept.agree.grab held found
    exact ⟨live _ isLive, tracked⟩
  · rw [popups]
    exact kept.distinct

/-- A change of the window model alone, which keeps its keys. -/
private theorem Kept.remodelled {tables : BridgeTables} (kept : Kept tables)
    {manager : WindowModel} (formed : WellFormed manager)
    (keys : manager.keys = tables.wm.manager.keys)
    (counts : SameCounts tables.wm.manager manager) :
    Kept { tables with wm := { tables.wm with manager := manager } } := by
  have ids : manager.ids = tables.wm.manager.ids := by
    rw [ids_eq_keys, keys, ids_eq_keys]
  have live : ∀ id, id ∈ tables.wm.manager.ids → id ∈ manager.ids := by
    intro id member
    rw [ids]
    exact member
  refine kept.unchanged (kept.linked.of_keys formed keys rfl) counts live rfl rfl rfl ?_ ?_ ?_
  · exact fun id surface found => live id (kept.agree.roots id surface found)
  · exact fun id launchId found => live id (kept.agree.launches id launchId found)
  · exact fun id appId found => live id (kept.agree.apps id appId found)

/-- An update of one record that keeps its id, its key and its popup count. -/
private theorem Kept.updated {tables : BridgeTables} (kept : Kept tables) (id : WindowId)
    (update : WindowRecord → WindowRecord)
    (keeps : ∀ record, (update record).id = record.id ∧
      (update record).surfaceKey = record.surfaceKey ∧
      (update record).popupCount = record.popupCount) :
    Kept { tables with
      wm := { tables.wm with
        manager := { tables.wm.manager with
          records := updateRecord id update tables.wm.manager.records } } } := by
  have keys : { tables.wm.manager with
      records := updateRecord id update tables.wm.manager.records }.keys =
        tables.wm.manager.keys :=
    update_record_map _ id update (fun record => by rw [(keeps record).1, (keeps record).2.1]) _
  refine kept.remodelled ?_ keys ?_
  · refine kept.linked.formed.of_ids ?_ rfl rfl
    rw [ids_eq_keys, keys, ids_eq_keys]
  · exact same_counts_of_map (update_record_map _ id update
      (fun record => by rw [(keeps record).1, (keeps record).2.2]) _)

private theorem Kept.registered {tables : BridgeTables} (kept : Kept tables) (surface : Surface) :
    Kept (tables.perform (.registerToplevel surface)) := by
  refine kept.unchanged (kept.linked.registered surface)
    (fun record member => ⟨record, member, rfl, rfl⟩) (fun _ live => live) ?_ rfl rfl
    kept.agree.roots kept.agree.launches kept.agree.apps
  change (tables.wm.surfaces.registerToplevel surface).1.popups = _
  unfold SurfaceRegistry.registerToplevel
  split <;> rfl

private theorem Kept.titled {tables : BridgeTables} (kept : Kept tables) (surface : Surface)
    (title : Option String) : Kept (tables.titleChanged surface title) := by
  unfold BridgeTables.titleChanged WmBridge.titleChanged
  cases tables.wm.windowForSurface surface [] with
  | none => exact kept
  | some id =>
    rw [Option.bind_some]
    split
    · exact kept
    · next found =>
      split at found
      · cases found
      · cases found
        exact kept.updated id _ fun _ => ⟨rfl, rfl, rfl⟩

private theorem recorded_live {tables : BridgeTables} {isLive : WindowId → Prop}
    (old : ∀ id launchId, tables.launchIds id = some launchId → isLive id) {id : WindowId}
    (live : isLive id) {correlated : Option LaunchId} :
    ∀ other launchId, tables.recordLaunch id correlated other = some launchId → isLive other := by
  intro other launchId found
  cases correlated with
  | none => exact old other launchId found
  | some noted =>
    change Function.update tables.launchIds id (some noted) other = some launchId at found
    by_cases same : other = id
    · rw [same]
      exact live
    · rw [Function.update_of_ne same] at found
      exact old other launchId found

private theorem Kept.appIdNoted {tables : BridgeTables} (kept : Kept tables) (surface : Surface)
    (appId : Option AppId) (correlated : Option LaunchId) :
    Kept (tables.appIdChanged surface appId correlated) := by
  unfold BridgeTables.appIdChanged
  cases owner : tables.wm.windowForSurface surface [] with
  | none => exact kept
  | some id =>
    have live : Live tables id := by
      obtain ⟨tracked, _, owned⟩ := List.exists_of_findSome?_eq_some owner
      exact kept.agree.owners tracked id owned
    change Kept (tables.noteAppId id appId correlated)
    unfold BridgeTables.noteAppId
    split
    · exact kept
    · have updated := kept.updated id (fun record => { record with appId := appId })
        fun _ => ⟨rfl, rfl, rfl⟩
      have ids : ∀ other, Live tables other → other ∈ (onAppId tables.wm.manager id appId).ids := by
        intro other member
        have same := update_record_map WindowRecord.id id
          (fun record => { record with appId := appId }) (fun _ => rfl) tables.wm.manager.records
        exact (congrArg (fun ids => other ∈ ids) same).mpr member
      refine updated.unchanged updated.linked (fun record member => ⟨record, member, rfl, rfl⟩)
        (fun _ live => live) rfl rfl rfl updated.agree.roots ?_ ?_
      · intro other launchId found
        refine ids other ?_
        dsimp only at found
        split at found
        · exact kept.agree.launches other launchId found
        · exact recorded_live kept.agree.launches live other launchId found
      · intro other value found
        refine ids other ?_
        by_cases same : other = id
        · rw [same]
          exact live
        · dsimp only at found
          rw [Function.update_of_ne same] at found
          exact kept.agree.apps other value found

private theorem Kept.activated {tables : BridgeTables} (kept : Kept tables) (id : WindowId) :
    Kept (tables.perform (.activate id)) := by
  change Kept (match tables.wm.activate id with
    | none => tables
    | some (activated, _) => { tables with wm := activated })
  unfold WmBridge.activate
  cases window tables.wm.manager id with
  | none => exact kept
  | some record =>
    obtain ⟨formed, keys, _⟩ := activate_spec kept.linked.formed id
    refine kept.remodelled formed keys ?_
    unfold Wm.Policy.activate
    split
    · exact fun record member => ⟨record, member, rfl, rfl⟩
    · split
      · exact fun record member => ⟨record, member, rfl, rfl⟩
      · exact same_counts_of_map (mark_active_map _ (fun _ _ => rfl) id _)

/-! ## Mapping and destroying -/

private theorem Kept.mapped {tables : BridgeTables} (kept : Kept tables) (surface : Surface)
    (metadata : ToplevelMetadata) (createdSeq : ℕ) :
    Kept (tables.mapToplevel surface metadata createdSeq) := by
  have linked := (mapped_sourced kept.linked surface metadata createdSeq).linked
  unfold onToplevelMapped at linked
  unfold BridgeTables.mapToplevel
  cases unmapped : (tables.wm.surfaces.toplevels surface).bind ToplevelSlot.window with
  | some existing =>
    have outcome : tables.wm.mapToplevel surface metadata createdSeq =
        (tables.wm, .alreadyMapped existing) := by
      unfold WmBridge.mapToplevel
      rw [unmapped]
    rw [outcome]
    exact kept
  | none =>
    let request : MapRequest := ⟨(tables.wm.surfaces.registerToplevel surface).2, metadata.appId,
      metadata.pid, metadata.title, createdSeq⟩
    have fresh : windowBySurface tables.wm.manager request.surfaceKey = none :=
      kept.linked.fresh_key unmapped
    obtain ⟨decided, ids, _, _⟩ := on_map_fresh tables.wm.config fresh
    let manager := (onMap tables.wm.manager tables.wm.config request).1
    let wm : WmBridge :=
      { tables.wm with
        manager := manager
        surfaces := (tables.wm.surfaces.registerToplevel surface).1.bind surface
          ⟨tables.wm.manager.nextId⟩
        roots := Function.update tables.wm.roots ⟨tables.wm.manager.nextId⟩ (some surface) }
    have outcome : tables.wm.mapToplevel surface metadata createdSeq =
        (wm, .created ⟨tables.wm.manager.nextId⟩
          ⟨(onMap tables.wm.manager tables.wm.config request).2.2, tables.wm.keyboardFocus⟩) := by
      unfold WmBridge.mapToplevel
      rw [unmapped]
      dsimp only
      rw [show (onMap tables.wm.manager tables.wm.config request).2.1 =
        ⟨tables.wm.manager.nextId⟩ from congrArg Prod.fst decided]
    rw [outcome] at linked ⊢
    have live : ∀ id, Live tables id → id ∈ manager.ids := by
      intro id member
      rw [ids]
      exact List.mem_append_left _ member
    have newLive : (⟨tables.wm.manager.nextId⟩ : WindowId) ∈ manager.ids := by
      rw [ids]
      exact List.mem_append_right _ List.mem_cons_self
    have updateLive : ∀ {β : Type} (entries : WindowId → Option β) (value : Option β),
        (∀ id entry, entries id = some entry → Live tables id) →
        ∀ id entry, Function.update entries ⟨tables.wm.manager.nextId⟩ value id = some entry →
          id ∈ manager.ids := by
      intro β entries value old id entry found
      by_cases same : id = ⟨tables.wm.manager.nextId⟩
      · rw [same]
        exact newLive
      · rw [Function.update_of_ne same] at found
        exact live id (old id entry found)
    have popups : wm.surfaces.popups = tables.wm.surfaces.popups := by
      change (tables.wm.surfaces.registerToplevel surface).1.popups = _
      unfold SurfaceRegistry.registerToplevel
      split <;> rfl
    refine ⟨⟨?_, ?_, linked.ownersLive, ?_, ?_, ?_, ?_⟩, linked, ?_⟩
    · intro record member
      change record ∈ (onMap tables.wm.manager tables.wm.config request).1.records at member
      unfold onMap at member
      rw [fresh] at member
      obtain ⟨before, inside, rfl⟩ := List.mem_map.mp member
      change before.popupCount = (popupsOf wm.surfaces.popups before.id).length
      rw [popups]
      rcases List.mem_append.mp inside with old | new
      · exact kept.agree.counts before old
      · -- The new id is above every id that a popup names.
        rw [List.mem_singleton.mp new]
        have none_owned : popupsOf tables.wm.surfaces.popups ⟨tables.wm.manager.nextId⟩ = [] := by
          refine List.filter_eq_nil_iff.mpr fun popup tracked => ?_
          rw [decide_eq_true_iff]
          intro named
          have bound := kept.linked.formed.below _ (kept.linked.popupsLive popup tracked)
          rw [named] at bound
          exact Nat.lt_irrefl _ bound
        rw [none_owned]
        rfl
    · change ∀ surface, tables.popupHandles surface = true ↔
        ∃ popup ∈ wm.surfaces.popups, popup.surface = surface
      rw [popups]
      exact kept.agree.handles
    · exact updateLive tables.wm.roots _ kept.agree.roots
    · exact recorded_live (fun id launchId found => live id (kept.agree.launches id launchId found))
        newLive
    · exact updateLive tables.appIds _ kept.agree.apps
    · intro grab found
      obtain ⟨isLive, tracked⟩ := kept.agree.grab grab found
      refine ⟨live _ isLive, ?_⟩
      change _ ∈ wm.surfaces.popups
      rw [popups]
      exact tracked
    · change (wm.surfaces.popups.map PopupRecord.surface).Nodup
      rw [popups]
      exact kept.distinct

theorem drop_handles_iff (handles : Surface → Bool) (popups : List PopupRecord)
    (surface : Surface) : BridgeTables.dropHandles handles popups surface = true ↔
      handles surface = true ∧ ∀ popup ∈ popups, popup.surface ≠ surface := by
  induction popups generalizing handles with
  | nil => simp [BridgeTables.dropHandles]
  | cons popup rest ih =>
    change BridgeTables.dropHandles (Function.update handles popup.surface false) rest surface = true ↔ _
    rw [ih]
    by_cases same : surface = popup.surface
    · subst same
      simp
    · rw [Function.update_of_ne same]
      simp [Ne.symm same]

private theorem destroyed_counts (model : WindowModel) (id : WindowId) :
    SameCounts model (onDestroy model id).1 := by
  have erased : ∀ record ∈ model.records.eraseP (fun record => record.id = id),
      record ∈ model.records := fun record member => List.mem_of_mem_eraseP member
  unfold onDestroy
  cases window model id with
  | none => exact fun record member => ⟨record, member, rfl, rfl⟩
  | some found =>
    dsimp only
    split
    · exact fun record member => ⟨record, erased record member, rfl, rfl⟩
    · split
      · intro record member
        obtain ⟨old, inside, rfl⟩ := List.mem_map.mp member
        exact ⟨old, erased old inside, rfl, rfl⟩
      · exact fun record member => ⟨record, erased record member, rfl, rfl⟩

private theorem Kept.destroyed {tables : BridgeTables} (kept : Kept tables) {surface : Surface}
    (orderly : Orderly tables (.destroyToplevel surface)) :
    Kept (tables.destroyToplevel surface) := by
  have linked := (destroyed_sourced kept.linked surface).linked
  unfold onToplevelDestroyed at linked
  unfold BridgeTables.destroyToplevel
  cases slotted : tables.wm.surfaces.toplevels surface with
  | none =>
    have outcome : tables.wm.destroyToplevel surface = none := by
      unfold WmBridge.destroyToplevel
      rw [slotted]
    rw [outcome]
    exact kept
  | some slot =>
    obtain ⟨key, mapped⟩ := slot
    cases mapped with
    | none =>
      have unbound : tables.wm.surfaces.unbindToplevel surface =
          ({ tables.wm.surfaces with
              toplevels := Function.update tables.wm.surfaces.toplevels surface none
              owners := Function.update tables.wm.surfaces.owners surface none }, none, []) := by
        simp [SurfaceRegistry.unbindToplevel, slotted]
      have outcome : tables.wm.destroyToplevel surface =
          some ({ tables.wm with surfaces := (tables.wm.surfaces.unbindToplevel surface).1 },
            ⟨none, [], ⟨[], none⟩⟩) := by
        unfold WmBridge.destroyToplevel
        rw [slotted]
        simp only [unbound]
      rw [outcome] at linked ⊢
      rw [unbound] at linked ⊢
      exact kept.unchanged linked (fun record member => ⟨record, member, rfl, rfl⟩)
        (fun _ live => live) rfl rfl rfl kept.agree.roots kept.agree.launches kept.agree.apps
    | some id =>
      have window : windowOf tables surface = some id := by
        unfold windowOf
        rw [slotted]
        rfl
      have notGrabbing := orderly id window
      let unbound := tables.wm.surfaces.unbindToplevel surface
      let manager := (onDestroy tables.wm.manager id).1
      have removed : unbound.2.2 = popupsOf tables.wm.surfaces.popups id := by
        simp [unbound, SurfaceRegistry.unbindToplevel, slotted, SurfaceRegistry.removePopupsOf,
          popupsOf]
      have popups : unbound.1.popups =
          tables.wm.surfaces.popups.filter (fun popup => popup.windowId ≠ id) := by
        simp [unbound, SurfaceRegistry.unbindToplevel, slotted, SurfaceRegistry.removePopupsOf]
      have outcome : tables.wm.destroyToplevel surface =
          some ({ tables.wm with
              manager := manager
              surfaces := unbound.1
              roots := Function.update tables.wm.roots id none },
            ⟨some id, unbound.2.2.map PopupRecord.popupId,
              ⟨(onDestroy tables.wm.manager id).2, none⟩⟩) := by
        have mapped : (tables.wm.surfaces.unbindToplevel surface).2.1 = some id := by
          simp [SurfaceRegistry.unbindToplevel, slotted]
        unfold WmBridge.destroyToplevel
        rw [slotted]
        simp only [mapped]
        rfl
      rw [outcome] at linked ⊢
      have ids := (on_destroy_spec kept.linked.formed id).1
      have survives : ∀ other, Live tables other → other ≠ id → other ∈ manager.ids := by
        intro other member different
        rw [ids]
        exact (List.mem_erase_of_ne different).mpr member
      have clearedLive : ∀ {β : Type} (entries : WindowId → Option β),
          (∀ other entry, entries other = some entry → Live tables other) →
          ∀ other entry, Function.update entries id none other = some entry →
            other ∈ manager.ids := by
        intro β entries old other entry found
        by_cases same : other = id
        · rw [same, Function.update_self] at found
          cases found
        · rw [Function.update_of_ne same] at found
          exact survives other (old other entry found) same
      have tracked : ∀ popup, popup ∈ unbound.1.popups ↔
          popup ∈ tables.wm.surfaces.popups ∧ popup.windowId ≠ id := by
        intro popup
        rw [popups, List.mem_filter, decide_eq_true_iff]
      refine ⟨⟨?_, ?_, linked.ownersLive, ?_, ?_, ?_, ?_⟩, linked, ?_⟩
      · intro record member
        have isLive : record.id ∈ manager.ids := List.mem_map_of_mem member
        have different : record.id ≠ id := by
          rw [ids] at isLive
          intro same
          exact kept.linked.formed.nodup.not_mem_erase (same ▸ isLive)
        obtain ⟨old, inside, sameId, sameCount⟩ :=
          destroyed_counts tables.wm.manager id record member
        change record.popupCount = (popupsOf unbound.1.popups record.id).length
        rw [← sameCount, kept.agree.counts old inside, sameId, popups]
        unfold popupsOf
        rw [List.filter_filter]
        congr 1
        refine List.filter_congr fun popup _ => ?_
        by_cases named : popup.windowId = record.id
        · simp [named, different]
        · simp [named]
      · intro other
        change BridgeTables.dropHandles tables.popupHandles unbound.2.2 other = true ↔
          ∃ popup ∈ unbound.1.popups, popup.surface = other
        rw [drop_handles_iff, kept.agree.handles, removed]
        constructor
        · rintro ⟨⟨popup, inside, named⟩, notRemoved⟩
          refine ⟨popup, (tracked popup).mpr ⟨inside, fun owned => ?_⟩, named⟩
          exact notRemoved popup (List.mem_filter.mpr ⟨inside, decide_eq_true owned⟩) named
        · rintro ⟨popup, member, named⟩
          obtain ⟨inside, foreign⟩ := (tracked popup).mp member
          refine ⟨⟨popup, inside, named⟩, fun gone goneMember goneNamed => ?_⟩
          obtain ⟨goneInside, owned⟩ := List.mem_filter.mp goneMember
          have same := eq_of_key kept.distinct goneInside inside (goneNamed.trans named.symm)
          exact foreign (same ▸ of_decide_eq_true owned)
      · exact clearedLive tables.wm.roots kept.agree.roots
      · exact clearedLive tables.launchIds kept.agree.launches
      · exact clearedLive tables.appIds kept.agree.apps
      · intro grab found
        change tables.grab = some grab at found
        obtain ⟨isLive, inside⟩ := kept.agree.grab grab found
        have different : grab.windowId ≠ id := by
          intro same
          rw [found, Option.map_some, same] at notGrabbing
          exact notGrabbing rfl
        exact ⟨survives _ isLive different, (tracked _).mpr ⟨inside, different⟩⟩
      · change (unbound.1.popups.map PopupRecord.surface).Nodup
        rw [popups]
        exact kept.distinct.sublist (List.filter_sublist.map _)

/-! ## Popups -/

/-- A record after an update is the updated record of that id, or an old one of another id. -/
theorem mem_update_record {id : WindowId} {update : WindowRecord → WindowRecord}
    {records : List WindowRecord} (distinct : (records.map WindowRecord.id).Nodup)
    {record : WindowRecord} (member : record ∈ updateRecord id update records) :
    ∃ old ∈ records, record = if old.id = id then update old else old := by
  induction records with
  | nil => cases member
  | cons head tail ih =>
    rw [List.map_cons, List.nodup_cons] at distinct
    unfold updateRecord at member
    split at member
    · next named =>
      rcases List.mem_cons.mp member with rfl | later
      · exact ⟨head, List.mem_cons_self, (if_pos named).symm⟩
      · have other : record.id ≠ id := by
          intro same
          exact distinct.1 (named.trans same.symm ▸ List.mem_map_of_mem later)
        exact ⟨record, List.mem_cons_of_mem _ later, (if_neg other).symm⟩
    · next other =>
      rcases List.mem_cons.mp member with rfl | later
      · exact ⟨record, List.mem_cons_self, (if_neg other).symm⟩
      · obtain ⟨old, inside, equal⟩ := ih distinct.2 later
        exact ⟨old, List.mem_cons_of_mem _ inside, equal⟩

private theorem Kept.popupAdded {tables : BridgeTables} (kept : Kept tables) {surface : Surface}
    {parent : Option Surface} (orderly : Orderly tables (.popupAdded surface parent)) :
    Kept (tables.popupAdded surface parent) := by
  obtain ⟨untracked, room⟩ := orderly
  have linked := (popup_created_sourced kept.linked surface parent).linked
  unfold onPopupCreated at linked
  unfold BridgeTables.popupAdded
  cases owner : parent.bind tables.wm.surfaces.owners with
  | none =>
    have outcome : tables.wm.popupAdded surface parent = none := by
      unfold WmBridge.popupAdded
      rw [owner]
      rfl
    rw [outcome]
    exact kept
  | some id =>
    have new : tables.wm.surfaces.popups.find? (fun popup => popup.surface = surface) = none := by
      refine List.find?_eq_none.mpr fun popup member => ?_
      rw [decide_eq_true_iff]
      exact untracked popup member
    let popupId := tables.wm.surfaces.nextPopupId
    let surfaces : SurfaceRegistry :=
      { tables.wm.surfaces with
        popups := tables.wm.surfaces.popups ++ [⟨surface, id, popupId⟩]
        owners := Function.update tables.wm.surfaces.owners surface (some id)
        nextPopupId := tables.wm.surfaces.nextPopupId + 1 }
    let manager := onPopupAdded tables.wm.manager id
    have outcome : tables.wm.popupAdded surface parent =
        some ({ tables.wm with manager := manager, surfaces := surfaces }, id, popupId) := by
      unfold WmBridge.popupAdded SurfaceRegistry.addPopup
      rw [owner, new]
      rfl
    rw [outcome] at linked ⊢
    have ids : manager.ids = tables.wm.manager.ids :=
      update_record_map WindowRecord.id id
        (fun record => { record with popupCount := min (record.popupCount + 1) (2 ^ 32 - 1) })
        (fun _ => rfl) tables.wm.manager.records
    have live : ∀ other, Live tables other → other ∈ manager.ids := by
      intro other member
      rw [ids]
      exact member
    refine ⟨⟨?_, ?_, linked.ownersLive, ?_, ?_, ?_, ?_⟩, linked, ?_⟩
    · intro record member
      obtain ⟨old, inside, rfl⟩ := mem_update_record kept.linked.formed.nodup member
      have counted := kept.agree.counts old inside
      change _ = (popupsOf (tables.wm.surfaces.popups ++ [⟨surface, id, popupId⟩]) _).length
      unfold popupsOf at counted ⊢
      rw [List.filter_append, List.length_append]
      by_cases named : old.id = id
      · have few := room id owner
        unfold popupsOf at few
        rw [← named, ← counted] at few
        simp only [named, if_true, decide_true, List.filter_cons_of_pos, List.filter_nil,
          List.length_singleton]
        rw [named] at counted
        rw [← counted]
        omega
      · have foreign : ¬id = old.id := fun same => named same.symm
        simp only [named, if_false, foreign, decide_false, Bool.false_eq_true, not_false_eq_true,
          List.filter_cons_of_neg, List.filter_nil, List.length_nil, Nat.add_zero]
        exact counted
    · intro other
      change Function.update tables.popupHandles surface true other = true ↔
        ∃ popup ∈ surfaces.popups, popup.surface = other
      by_cases same : other = surface
      · subst same
        rw [Function.update_self]
        exact iff_of_true rfl ⟨_, List.mem_append_right _ List.mem_cons_self, rfl⟩
      · rw [Function.update_of_ne same, kept.agree.handles]
        constructor
        · rintro ⟨popup, inside, named⟩
          exact ⟨popup, List.mem_append_left _ inside, named⟩
        · rintro ⟨popup, member, named⟩
          rcases List.mem_append.mp member with inside | added
          · exact ⟨popup, inside, named⟩
          · rw [List.mem_singleton.mp added] at named
            exact absurd named.symm same
    · exact fun other root found => live other (kept.agree.roots other root found)
    · exact fun other launchId found => live other (kept.agree.launches other launchId found)
    · exact fun other appId found => live other (kept.agree.apps other appId found)
    · intro grab found
      obtain ⟨isLive, inside⟩ := kept.agree.grab grab found
      exact ⟨live _ isLive, List.mem_append_left _ inside⟩
    · change ((tables.wm.surfaces.popups ++ [(⟨surface, id, popupId⟩ : PopupRecord)]).map
        PopupRecord.surface).Nodup
      rw [List.map_append, List.nodup_append]
      refine ⟨kept.distinct, List.nodup_singleton _, ?_⟩
      intro first old second added same
      obtain ⟨popup, inside, rfl⟩ := List.mem_map.mp old
      exact untracked popup inside (same.trans (List.mem_singleton.mp added))

/-- Untracking one popup takes one away from its owner and none from the others. -/
theorem popups_of_removed {popups : List PopupRecord}
    (distinct : (popups.map PopupRecord.surface).Nodup) {popup : PopupRecord}
    (inside : popup ∈ popups) (id : WindowId) :
    (popupsOf (popups.filter fun other => other.surface ≠ popup.surface) id).length +
        (if popup.windowId = id then 1 else 0) = (popupsOf popups id).length := by
  have parts := List.length_eq_length_filter_add (l := popupsOf popups id)
    (fun other => decide (other.surface = popup.surface))
  have sole : popups.filter (fun other => other.surface = popup.surface) = [popup] :=
    filter_key distinct inside
  have taken : (popupsOf popups id).filter (fun other => other.surface = popup.surface) =
      if popup.windowId = id then [popup] else [] := by
    unfold popupsOf
    rw [List.filter_filter]
    have order : popups.filter (fun other =>
        decide (other.surface = popup.surface) && decide (other.windowId = id)) =
          (popups.filter fun other => other.surface = popup.surface).filter
            (fun other => other.windowId = id) := by
      rw [List.filter_filter]
      exact List.filter_congr fun other _ => Bool.and_comm _ _
    rw [order, sole]
    by_cases named : popup.windowId = id
    · simp [named]
    · simp [named]
  have left : popupsOf (popups.filter fun other => other.surface ≠ popup.surface) id =
      (popupsOf popups id).filter (fun other => !decide (other.surface = popup.surface)) := by
    unfold popupsOf
    rw [List.filter_filter, List.filter_filter]
    refine List.filter_congr fun other _ => ?_
    rw [Bool.and_comm, ← decide_not]
  rw [taken] at parts
  rw [left, parts]
  split
  · simp only [List.length_singleton]
    omega
  · simp

private theorem Kept.popupRemoved {tables : BridgeTables} (kept : Kept tables)
    (surface : Surface) : Kept (tables.popupRemoved surface) := by
  have linked := (popup_destroyed_sourced kept.linked surface).linked
  unfold onPopupDestroyed at linked
  unfold BridgeTables.popupRemoved
  cases found : tables.wm.surfaces.popups.find? (fun popup => popup.surface = surface) with
  | none =>
    have outcome : tables.wm.popupRemoved surface = none := by
      unfold WmBridge.popupRemoved SurfaceRegistry.removePopup
      rw [found]
      rfl
    rw [outcome]
    exact kept
  | some popup =>
    have inside := List.mem_of_find?_eq_some found
    have named : popup.surface = surface := by
      have holds := List.find?_some found
      exact of_decide_eq_true holds
    subst named
    let surfaces : SurfaceRegistry :=
      { tables.wm.surfaces with
        popups := tables.wm.surfaces.popups.filter (fun other => other.surface ≠ popup.surface)
        owners := Function.update tables.wm.surfaces.owners popup.surface none }
    let manager := onPopupRemoved tables.wm.manager popup.windowId
    have outcome : tables.wm.popupRemoved popup.surface =
        some ({ tables.wm with manager := manager, surfaces := surfaces },
          popup.windowId, popup.popupId) := by
      unfold WmBridge.popupRemoved SurfaceRegistry.removePopup
      rw [found]
      rfl
    rw [outcome] at linked ⊢
    have ids : manager.ids = tables.wm.manager.ids :=
      update_record_map WindowRecord.id popup.windowId
        (fun record => { record with popupCount := record.popupCount - 1 })
        (fun _ => rfl) tables.wm.manager.records
    have live : ∀ other, Live tables other → other ∈ manager.ids := by
      intro other member
      rw [ids]
      exact member
    have tracked : ∀ other, other ∈ surfaces.popups ↔
        other ∈ tables.wm.surfaces.popups ∧ other.surface ≠ popup.surface := by
      intro other
      rw [List.mem_filter, decide_eq_true_iff]
    refine ⟨⟨?_, ?_, linked.ownersLive, ?_, ?_, ?_, ?_⟩, linked, ?_⟩
    · intro record member
      obtain ⟨old, was, rfl⟩ := mem_update_record kept.linked.formed.nodup member
      have counted := kept.agree.counts old was
      have removed := popups_of_removed kept.distinct inside old.id
      change _ = (popupsOf (tables.wm.surfaces.popups.filter
        fun other => other.surface ≠ popup.surface) _).length
      by_cases owned : old.id = popup.windowId
      · rw [if_pos owned]
        rw [if_pos owned.symm] at removed
        change old.popupCount - 1 = (popupsOf _ old.id).length
        omega
      · rw [if_neg owned]
        rw [if_neg fun same => owned same.symm] at removed
        omega
    · intro other
      change Function.update tables.popupHandles popup.surface false other = true ↔
        ∃ tracked ∈ surfaces.popups, tracked.surface = other
      by_cases same : other = popup.surface
      · subst same
        rw [Function.update_self]
        refine iff_of_false Bool.false_ne_true ?_
        rintro ⟨left, member, named⟩
        exact ((tracked left).mp member).2 named
      · rw [Function.update_of_ne same, kept.agree.handles]
        constructor
        · rintro ⟨left, member, rfl⟩
          exact ⟨left, (tracked left).mpr ⟨member, same⟩, rfl⟩
        · rintro ⟨left, member, named⟩
          exact ⟨left, ((tracked left).mp member).1, named⟩
    · exact fun other root found => live other (kept.agree.roots other root found)
    · exact fun other launchId found => live other (kept.agree.launches other launchId found)
    · exact fun other appId found => live other (kept.agree.apps other appId found)
    · intro grab held
      obtain ⟨known, elsewhere⟩ := Option.filter_eq_some_iff.mp held
      obtain ⟨isLive, member⟩ := kept.agree.grab grab known
      exact ⟨live _ isLive, (tracked _).mpr ⟨member, of_decide_eq_true elsewhere⟩⟩
    · exact kept.distinct.sublist (List.filter_sublist.map _)

private theorem Kept.grabbed {tables : BridgeTables} (kept : Kept tables) (surface : Surface) :
    Kept (tables.notePopupGrab surface) := by
  unfold BridgeTables.notePopupGrab
  cases found : tables.wm.surfaces.popups.find? (fun popup => popup.surface = surface) with
  | none => exact kept
  | some popup =>
    have inside := List.mem_of_find?_eq_some found
    have named : popup.surface = surface := by
      have holds := List.find?_some found
      exact of_decide_eq_true holds
    subst named
    refine ⟨⟨kept.agree.counts, kept.agree.handles, kept.agree.owners, kept.agree.roots,
      kept.agree.launches, kept.agree.apps, ?_⟩, kept.linked, kept.distinct⟩
    intro grab held
    cases held
    exact ⟨kept.linked.popupsLive popup inside, inside⟩

/-! ## Runs -/

theorem Kept.next {tables : BridgeTables} {operation : Operation} (kept : Kept tables)
    (orderly : Orderly tables operation) : Kept (tables.perform operation) := by
  cases operation with
  | registerToplevel surface => exact kept.registered surface
  | mapToplevel surface metadata createdSeq => exact kept.mapped surface metadata createdSeq
  | destroyToplevel surface => exact kept.destroyed orderly
  | titleChanged surface title => exact kept.titled surface title
  | appIdChanged surface appId correlated => exact kept.appIdNoted surface appId correlated
  | popupAdded surface parent => exact kept.popupAdded orderly
  | popupRemoved surface => exact kept.popupRemoved surface
  | notePopupGrab surface => exact kept.grabbed surface
  | takePopupGrab =>
    exact ⟨⟨kept.agree.counts, kept.agree.handles, kept.agree.owners, kept.agree.roots,
      kept.agree.launches, kept.agree.apps, fun grab held => by cases held⟩,
      kept.linked, kept.distinct⟩
  | commit windowId => exact kept.updated windowId _ fun _ => ⟨rfl, rfl, rfl⟩
  | activate windowId => exact kept.activated windowId

/-- In every run of bridge calls that announces each popup once and destroys no window that holds
the recorded grab, the tables agree in every state reached. -/
theorem tables_agree {config : PolicyConfig} {tables : BridgeTables}
    (reached : Reachable (bridgeMachine config) Orderly tables) : Agree tables := by
  have invariant : Inductive (bridgeMachine config) Orderly Kept := by
    refine ⟨Kept.initial config, fun kept orderly taken => ?_⟩
    cases taken
    exact kept.next orderly
  exact (invariant.holds reached).agree

def orderlyRun : List Operation :=
  [.registerToplevel 1, .mapToplevel 1 {} 0, .popupAdded 2 (some 1), .popupAdded 3 (some 2),
    .notePopupGrab 3, .popupRemoved 3, .destroyToplevel 1]

def orderlyTables : BridgeTables :=
  finalState (bridgeMachine ⟨1280, 800⟩) Orderly orderlyRun (by decide +kernel)

theorem tables_agree_orderly : Agree orderlyTables :=
  tables_agree (final_state_reachable (bridgeMachine ⟨1280, 800⟩) Orderly orderlyRun
    (by decide +kernel))

/-- A client destroys the toplevel of the popup that grabs. -/
def orphanedRun : List Operation :=
  [.registerToplevel 1, .mapToplevel 1 {} 0, .popupAdded 2 (some 1), .notePopupGrab 2,
    .destroyToplevel 1]

def orphanedTables : BridgeTables :=
  finalState (bridgeMachine ⟨1280, 800⟩) anyStep orphanedRun (by decide +kernel)

theorem orphaned_grab_kept :
    ¬∀ {config : PolicyConfig} {tables : BridgeTables},
      Reachable (bridgeMachine config) anyStep tables → Agree tables := by
  intro claim
  have agree := claim (final_state_reachable (bridgeMachine ⟨1280, 800⟩) anyStep orphanedRun
    (by decide +kernel))
  have live := (agree.grab ⟨2, ⟨1⟩, 1⟩
    (show orphanedTables.grab = _ by decide +kernel)).1
  exact absurd live (show ¬(⟨1⟩ : WindowId) ∈ orphanedTables.wm.manager.ids by decide +kernel)

/-- A popup announced twice is counted twice. -/
example : ((finalState (bridgeMachine ⟨1280, 800⟩) anyStep [.registerToplevel 1,
    .mapToplevel 1 {} 0, .popupAdded 2 (some 1), .popupAdded 2 (some 1)]
    (by decide +kernel)).wm.manager.records.map WindowRecord.popupCount) = [2] := by
  decide +kernel

end ADesk.Compositor.Tables
