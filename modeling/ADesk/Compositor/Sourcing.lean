/- ADesk/Compositor/Sourcing
   digest: The emitted events account for the window table: replaying them gives its ids and
   commit counters. -/

import ADesk.Compositor.State

set_option autoImplicit false

namespace ADesk.Compositor.Sourcing

open ADesk.Core.Geometry (Region)
open ADesk.Core.Ids (WindowId)
open ADesk.Compositor.Bridge
open ADesk.Compositor.Events
open ADesk.Compositor.State
open ADesk.Wm.Policy

/-- Every tracked window has a slot of its own key, and every owner is tracked. -/
structure Linked (bridge : WmBridge) : Prop where
  formed : WellFormed bridge.manager
  keysBelow : ∀ surface slot, bridge.surfaces.toplevels surface = some slot →
    slot.key.raw < bridge.surfaces.nextSurfaceKey
  keysInjective : ∀ surface other slot slot',
    bridge.surfaces.toplevels surface = some slot →
    bridge.surfaces.toplevels other = some slot' → slot.key = slot'.key → surface = other
  recorded : ∀ key id, (key, id) ∈ bridge.manager.keys →
    ∃ surface, bridge.surfaces.toplevels surface = some ⟨key, some id⟩
  windowsLive : ∀ surface slot windowId, bridge.surfaces.toplevels surface = some slot →
    slot.window = some windowId → windowId ∈ bridge.manager.ids
  windowsInjective : ∀ surface other slot slot' windowId,
    bridge.surfaces.toplevels surface = some slot →
    bridge.surfaces.toplevels other = some slot' → slot.window = some windowId →
    slot'.window = some windowId → surface = other
  ownersLive : ∀ surface windowId, bridge.surfaces.owners surface = some windowId →
    windowId ∈ bridge.manager.ids
  popupsLive : ∀ popup ∈ bridge.surfaces.popups, popup.windowId ∈ bridge.manager.ids

/-- The ledger of the window table. -/
def ledgerOf (bridge : WmBridge) : Ledger := ⟨commitOf bridge.manager, bridge.manager.nextId⟩

/-- An operation whose events fit the table before it and lead to the table after it. -/
structure Sourced (before after : WmBridge) (emissions : List Emission) : Prop where
  linked : Linked after
  accepts : (ledgerOf before).Accepts (drafted emissions)
  result : (ledgerOf before).run (drafted emissions) = ledgerOf after

theorem Sourced.refl {bridge : WmBridge} (linked : Linked bridge) : Sourced bridge bridge [] :=
  ⟨linked, trivial, rfl⟩

theorem Sourced.append {before middle after : WmBridge} {first second : List Emission}
    (left : Sourced before middle first) (right : Sourced middle after second) :
    Sourced before after (first ++ second) where
  linked := right.linked
  accepts := by
    rw [drafted, List.map_append]
    refine Ledger.accepts_append.mpr ⟨left.accepts, ?_⟩
    change ((ledgerOf before).run (drafted first)).Accepts (drafted second)
    rw [left.result]
    exact right.accepts
  result := by
    rw [drafted, List.map_append, Ledger.run_append]
    change ((ledgerOf before).run (drafted first)).run (drafted second) = _
    rw [left.result]
    exact right.result

theorem ledger_ext {before after : WmBridge}
    (commits : ∀ id, commitOf after.manager id = commitOf before.manager id)
    (nextId : after.manager.nextId = before.manager.nextId) : ledgerOf after = ledgerOf before := by
  unfold ledgerOf
  rw [nextId, funext commits]

theorem live_iff {bridge : WmBridge} {id : WindowId} :
    ((ledgerOf bridge).commits id).isSome = true ↔ id ∈ bridge.manager.ids :=
  mem_ids_iff.symm

theorem ids_eq_keys (model : WindowModel) : model.ids = model.keys.map Prod.snd := by
  unfold WindowModel.ids WindowModel.keys
  rw [List.map_map]
  rfl

/-- Operations on the model that keep its keys, with the surface tables untouched. -/
theorem Linked.of_keys {before after : WmBridge} (linked : Linked before)
    (formed : WellFormed after.manager) (keys : after.manager.keys = before.manager.keys)
    (surfaces : after.surfaces = before.surfaces) : Linked after := by
  have ids : after.manager.ids = before.manager.ids := by
    rw [ids_eq_keys, keys, ids_eq_keys]
  constructor
  · exact formed
  · rw [surfaces]
    exact linked.keysBelow
  · rw [surfaces]
    exact linked.keysInjective
  · rw [keys, surfaces]
    exact linked.recorded
  · rw [surfaces, ids]
    exact linked.windowsLive
  · rw [surfaces]
    exact linked.windowsInjective
  · rw [surfaces, ids]
    exact linked.ownersLive
  · rw [surfaces, ids]
    exact linked.popupsLive

/-! ## Titles, commits and activations -/

/-- Updating a record without its key and commit counter emits nothing by itself. -/
private theorem update_sourced {bridge : WmBridge} (linked : Linked bridge) (id : WindowId)
    (update : WindowRecord → WindowRecord) (named : ∀ record, (update record).id = record.id)
    (keyed : ∀ record, (update record).surfaceKey = record.surfaceKey)
    (counted : ∀ record, (update record).lastCommitSeq = record.lastCommitSeq) :
    Sourced bridge
      { bridge with
        manager := { bridge.manager with
          records := updateRecord id update bridge.manager.records } } [] := by
  have keys : { bridge.manager with
      records := updateRecord id update bridge.manager.records }.keys = bridge.manager.keys :=
    update_record_map _ id update (fun record => by rw [named, keyed]) _
  have formed : WellFormed { bridge.manager with
      records := updateRecord id update bridge.manager.records } := by
    refine linked.formed.of_ids ?_ rfl rfl
    rw [ids_eq_keys, keys, ids_eq_keys]
  refine ⟨linked.of_keys formed keys rfl, trivial, Eq.symm (ledger_ext ?_ rfl)⟩
  exact update_record_commit bridge.manager id update named counted

private theorem Sourced.names {before after : WmBridge} (sourced : Sourced before after [])
    (emission : Emission) (admits : (ledgerOf before).Admits (emission.event 0 0))
    (silent : ∀ ledger : Ledger, ledger.apply (emission.event 0 0) = ledger) :
    Sourced before after [emission] where
  linked := sourced.linked
  accepts := ⟨admits, trivial⟩
  result := (silent _).trans sourced.result

theorem title_sourced {bridge : WmBridge} (linked : Linked bridge) (surface : Surface)
    (title : Option String) :
    Sourced bridge (onTitleChanged bridge surface title).1
      (onTitleChanged bridge surface title).2 := by
  unfold onTitleChanged WmBridge.titleChanged
  cases owner : bridge.windowForSurface surface [] with
  | none => exact Sourced.refl linked
  | some windowId =>
    simp only [Option.bind_some]
    split
    · next changed named found =>
      split at found
      · cases found
      · cases found
        have owned : bridge.surfaces.owners surface = some windowId := by
          simpa [WmBridge.windowForSurface] using owner
        have updated := update_sourced linked windowId
          (fun record => { record with title := title }) (fun _ => rfl) (fun _ => rfl)
          (fun _ => rfl)
        exact updated.names (.titleChanged windowId title)
          (live_iff.mpr (linked.ownersLive surface windowId owned)) (fun _ => rfl)
    · exact Sourced.refl linked

/-- A commit of a live window counts on from its last number. -/
theorem commit_sourced {bridge : WmBridge} (linked : Linked bridge) {windowId : WindowId}
    (live : windowId ∈ bridge.manager.ids) (damage : Region) :
    Sourced bridge (bridge.commit windowId).1
      [.surfaceCommit windowId (bridge.commit windowId).2 damage] := by
  obtain ⟨last, counter⟩ := Option.isSome_iff_exists.mp (mem_ids_iff.mp live)
  have numbered : (bridge.commit windowId).2 = last + 1 := by
    simp [WmBridge.commit, counter]
  have keys : (onCommit bridge.manager windowId (last + 1)).keys = bridge.manager.keys := by
    unfold WindowModel.keys onCommit
    exact update_record_map _ windowId _ (by intro record; rfl) _
  have formed : WellFormed (onCommit bridge.manager windowId (last + 1)) := by
    refine linked.formed.of_ids ?_ rfl rfl
    rw [ids_eq_keys, keys, ids_eq_keys]
  have manager : (bridge.commit windowId).1.manager =
      onCommit bridge.manager windowId (last + 1) := by
    simp [WmBridge.commit, counter]
  refine ⟨linked.of_keys (manager ▸ formed) (manager ▸ keys) rfl, ?_, ?_⟩
  · exact ⟨⟨last, counter, numbered⟩, trivial⟩
  · rw [numbered]
    unfold ledgerOf
    rw [manager]
    change Ledger.mk (Function.update (commitOf bridge.manager) windowId (some (last + 1)))
      bridge.manager.nextId = Ledger.mk _ bridge.manager.nextId
    congr 1
    funext other
    rw [on_commit_commit]
    by_cases same : windowId = other
    · subst same
      rw [Function.update_self, if_pos rfl, counter, Option.map_some, Nat.max_eq_right (by omega)]
    · rw [Function.update_of_ne (Ne.symm same), if_neg same]

/-- Applying activations of live windows keeps every ledger and is admitted by it. -/
private theorem decision_accepted (bridge : WmBridge) (decision : WmDecision)
    (live : ∀ action ∈ decision.actions, ∀ id, action = .activate id ∨
      action = .activatePrevious id → id ∈ bridge.manager.ids) :
    (ledgerOf bridge).Accepts (drafted (applyDecision decision)) ∧
      (ledgerOf bridge).run (drafted (applyDecision decision)) = ledgerOf bridge := by
  obtain ⟨actions, previous⟩ := decision
  unfold applyDecision
  simp only at live ⊢
  induction actions with
  | nil => exact ⟨trivial, rfl⟩
  | cons action rest ih =>
    obtain ⟨accepted, silent⟩ := ih fun later member => live later (List.mem_cons_of_mem _ member)
    have focus : ∀ id before, id ∈ bridge.manager.ids →
        (ledgerOf bridge).Accepts
          (drafted [.windowActivated id before, .focusChanged (some id)]) := by
      intro id before tracked
      refine ⟨live_iff.mpr tracked, ?_, trivial⟩
      rintro focused same
      cases same
      exact live_iff.mpr tracked
    have head : (ledgerOf bridge).Accepts (drafted (applyAction previous action)) ∧
        (ledgerOf bridge).run (drafted (applyAction previous action)) = ledgerOf bridge := by
      cases action with
      | activate id =>
        exact ⟨focus id previous (live _ List.mem_cons_self id (Or.inl rfl)), rfl⟩
      | activatePrevious id =>
        exact ⟨focus id none (live _ List.mem_cons_self id (Or.inr rfl)), rfl⟩
      | configureWindow id rect => exact ⟨trivial, rfl⟩
      | none => exact ⟨trivial, rfl⟩
    rw [List.flatMap_cons, drafted, List.map_append, Ledger.accepts_append, Ledger.run_append]
    change ((ledgerOf bridge).Accepts (drafted (applyAction previous action)) ∧
      ((ledgerOf bridge).run (drafted (applyAction previous action))).Accepts _) ∧ _
    rw [show (List.map (fun emission => Emission.event 0 0 emission)
      (applyAction previous action)) = drafted (applyAction previous action) from rfl, head.2]
    exact ⟨⟨head.1, accepted⟩, silent⟩

theorem activate_sourced {bridge activated : WmBridge} (linked : Linked bridge)
    {windowId : WindowId} {decision : WmDecision}
    (done : bridge.activate windowId = some (activated, decision)) :
    Sourced bridge activated (applyDecision decision) := by
  unfold WmBridge.activate at done
  obtain ⟨record, _, result⟩ := Option.map_eq_some_iff.mp done
  cases result
  obtain ⟨formed, keys, nextId, commits, actions⟩ := activate_spec linked.formed windowId
  obtain ⟨accepted, silent⟩ := decision_accepted bridge
    ⟨(Wm.Policy.activate bridge.manager windowId).2, bridge.keyboardFocus⟩
    (by
      intro action decided id named
      rcases actions action decided with rfl | ⟨tracked, rfl⟩
      · rcases named with named | named <;> cases named
      · rcases named with named | named <;> cases named
        exact tracked)
  exact ⟨linked.of_keys formed keys rfl, accepted, silent.trans (ledger_ext commits nextId).symm⟩

/-! ## Registering and mapping -/

private theorem register_known {registry : SurfaceRegistry} {surface : Surface}
    {slot : ToplevelSlot} (known : registry.toplevels surface = some slot) :
    registry.registerToplevel surface = (registry, slot.key) := by
  simp [SurfaceRegistry.registerToplevel, known]

private theorem register_new {registry : SurfaceRegistry} {surface : Surface}
    (unknown : registry.toplevels surface = none) :
    registry.registerToplevel surface =
      ({ registry with
          toplevels := Function.update registry.toplevels surface
            (some ⟨⟨registry.nextSurfaceKey⟩, none⟩)
          nextSurfaceKey := registry.nextSurfaceKey + 1 },
        ⟨registry.nextSurfaceKey⟩) := by
  simp [SurfaceRegistry.registerToplevel, unknown]

theorem Linked.registered {bridge : WmBridge} (linked : Linked bridge) (surface : Surface) :
    Linked (bridge.registerToplevel surface) := by
  unfold WmBridge.registerToplevel
  cases known : bridge.surfaces.toplevels surface with
  | some slot =>
    rw [register_known known]
    exact linked
  | none =>
    rw [register_new known]
    have cases' : ∀ {other slot},
        Function.update bridge.surfaces.toplevels surface
          (some ⟨⟨bridge.surfaces.nextSurfaceKey⟩, none⟩) other = some slot →
        (other = surface ∧ slot = ⟨⟨bridge.surfaces.nextSurfaceKey⟩, none⟩) ∨
          bridge.surfaces.toplevels other = some slot := by
      intro other slot found
      by_cases same : other = surface
      · subst same
        rw [Function.update_self] at found
        cases found
        exact Or.inl ⟨rfl, rfl⟩
      · rw [Function.update_of_ne same] at found
        exact Or.inr found
    refine ⟨linked.formed, ?_, ?_, ?_, ?_, ?_, linked.ownersLive, linked.popupsLive⟩
    · intro other slot found
      change slot.key.raw < bridge.surfaces.nextSurfaceKey + 1
      rcases cases' found with ⟨_, rfl⟩ | old
      · exact Nat.lt_succ_self _
      · exact Nat.lt_succ_of_lt (linked.keysBelow other slot old)
    · intro first second slot slot' found found' keyed
      rcases cases' found with ⟨rfl, rfl⟩ | old <;> rcases cases' found' with ⟨rfl, rfl⟩ | old'
      · rfl
      · exact absurd (linked.keysBelow second slot' old') (by rw [← keyed]; exact Nat.lt_irrefl _)
      · exact absurd (linked.keysBelow first slot old) (by rw [keyed]; exact Nat.lt_irrefl _)
      · exact linked.keysInjective first second slot slot' old old' keyed
    · intro key id member
      obtain ⟨owner, found⟩ := linked.recorded key id member
      have different : owner ≠ surface := by
        rintro rfl
        rw [known] at found
        cases found
      exact ⟨owner, (Function.update_of_ne different ..).trans found⟩
    · intro other slot id found windowed
      rcases cases' found with ⟨_, rfl⟩ | old
      · cases windowed
      · exact linked.windowsLive other slot id old windowed
    · intro first second slot slot' id found found' windowed windowed'
      rcases cases' found with ⟨_, rfl⟩ | old
      · cases windowed
      · rcases cases' found' with ⟨_, rfl⟩ | old'
        · cases windowed'
        · exact linked.windowsInjective first second slot slot' id old old' windowed windowed'

/-- Registering leaves an unmapped slot of the returned key. -/
private theorem register_slot {bridge : WmBridge} {surface : Surface}
    (unmapped : (bridge.surfaces.toplevels surface).bind ToplevelSlot.window = none) :
    (bridge.registerToplevel surface).surfaces.toplevels surface =
      some ⟨(bridge.surfaces.registerToplevel surface).2, none⟩ := by
  unfold WmBridge.registerToplevel
  cases known : bridge.surfaces.toplevels surface with
  | some slot =>
    obtain ⟨key, window⟩ := slot
    rw [known, Option.bind_some] at unmapped
    rw [register_known known, known, show window = none from unmapped]
  | none =>
    rw [register_new known]
    exact Function.update_self ..

/-- No window has the key of an unmapped toplevel. -/
theorem Linked.fresh_key {bridge : WmBridge} (linked : Linked bridge) {surface : Surface}
    (unmapped : (bridge.surfaces.toplevels surface).bind ToplevelSlot.window = none) :
    windowBySurface bridge.manager (bridge.surfaces.registerToplevel surface).2 = none := by
  have registered := linked.registered surface
  have slotted := register_slot unmapped
  refine window_by_surface_fresh fun pair member keyed => ?_
  obtain ⟨key, id⟩ := pair
  obtain ⟨owner, found⟩ := registered.recorded key id member
  have same := registered.keysInjective owner surface _ _ found slotted keyed
  subst same
  rw [slotted] at found
  cases found

/-- Mapping an unmapped slot keeps the tables linked. -/
private theorem bind_linked {bridge : WmBridge} (linked : Linked bridge) {surface : Surface}
    {request : MapRequest}
    (slotted : bridge.surfaces.toplevels surface = some ⟨request.surfaceKey, none⟩)
    (fresh : windowBySurface bridge.manager request.surfaceKey = none)
    (roots : WindowId → Option Surface) :
    Linked
      { bridge with
        manager := (onMap bridge.manager bridge.config request).1
        surfaces := bridge.surfaces.bind surface ⟨bridge.manager.nextId⟩
        roots := roots } := by
  have keys := on_map_keys bridge.config fresh
  have ids := (on_map_fresh bridge.config fresh).2.1
  have toplevels : (bridge.surfaces.bind surface ⟨bridge.manager.nextId⟩).toplevels =
      Function.update bridge.surfaces.toplevels surface
        (some ⟨request.surfaceKey, some ⟨bridge.manager.nextId⟩⟩) := by
    simp [SurfaceRegistry.bind, slotted]
  have live : ∀ id ∈ bridge.manager.ids,
      id ∈ (onMap bridge.manager bridge.config request).1.ids := by
    intro id member
    rw [ids]
    exact List.mem_append_left _ member
  have newLive : (⟨bridge.manager.nextId⟩ : WindowId) ∈
      (onMap bridge.manager bridge.config request).1.ids := by
    rw [ids]
    exact List.mem_append_right _ List.mem_cons_self
  have cases' : ∀ {other slot},
      (bridge.surfaces.bind surface ⟨bridge.manager.nextId⟩).toplevels other = some slot →
      (other = surface ∧ slot = ⟨request.surfaceKey, some ⟨bridge.manager.nextId⟩⟩) ∨
        (other ≠ surface ∧ bridge.surfaces.toplevels other = some slot) := by
    intro other slot found
    rw [toplevels] at found
    by_cases same : other = surface
    · subst same
      rw [Function.update_self] at found
      cases found
      exact Or.inl ⟨rfl, rfl⟩
    · rw [Function.update_of_ne same] at found
      exact Or.inr ⟨same, found⟩
  have unused : ∀ other slot, bridge.surfaces.toplevels other = some slot →
      slot.window ≠ some ⟨bridge.manager.nextId⟩ := by
    intro other slot found windowed
    exact Nat.lt_irrefl _
      (linked.formed.below _ (linked.windowsLive other slot _ found windowed))
  refine ⟨linked.formed.mapped bridge.config fresh, ?_, ?_, ?_, ?_, ?_, ?_, ?_⟩
  · intro other slot found
    rcases cases' found with ⟨rfl, rfl⟩ | ⟨_, old⟩
    · exact linked.keysBelow other ⟨request.surfaceKey, none⟩ slotted
    · exact linked.keysBelow other slot old
  · intro first second slot slot' found found' keyed
    rcases cases' found with ⟨rfl, rfl⟩ | ⟨_, old⟩ <;>
      rcases cases' found' with ⟨rfl, rfl⟩ | ⟨_, old'⟩
    · rfl
    · exact linked.keysInjective first second _ slot' slotted old' keyed
    · exact linked.keysInjective first second slot _ old slotted keyed
    · exact linked.keysInjective first second slot slot' old old' keyed
  · intro key id member
    change (key, id) ∈ (onMap bridge.manager bridge.config request).1.keys at member
    change ∃ owner, (bridge.surfaces.bind surface ⟨bridge.manager.nextId⟩).toplevels owner = _
    rw [toplevels]
    rw [keys, List.mem_append, List.mem_singleton] at member
    rcases member with old | new
    · obtain ⟨owner, found⟩ := linked.recorded key id old
      have different : owner ≠ surface := by
        rintro rfl
        rw [slotted] at found
        cases found
      exact ⟨owner, (Function.update_of_ne different ..).trans found⟩
    · cases new
      exact ⟨surface, Function.update_self ..⟩
  · intro other slot id found windowed
    rcases cases' found with ⟨_, rfl⟩ | ⟨_, old⟩
    · cases windowed
      exact newLive
    · exact live id (linked.windowsLive other slot id old windowed)
  · intro first second slot slot' id found found' windowed windowed'
    rcases cases' found with ⟨rfl, rfl⟩ | ⟨_, old⟩ <;>
      rcases cases' found' with ⟨rfl, rfl⟩ | ⟨_, old'⟩
    · rfl
    · cases windowed
      exact absurd windowed' (unused second slot' old')
    · cases windowed'
      exact absurd windowed (unused first slot old)
    · exact linked.windowsInjective first second slot slot' id old old' windowed windowed'
  · intro other id owned
    change Function.update bridge.surfaces.owners surface _ other = some id at owned
    by_cases same : other = surface
    · subst same
      rw [Function.update_self] at owned
      cases owned
      exact newLive
    · rw [Function.update_of_ne same] at owned
      exact live id (linked.ownersLive other id owned)
  · intro popup member
    exact live _ (linked.popupsLive popup member)

/-- Activating a live window, whatever else the decision says, keeps the ledger. -/
private theorem decision_sourced {bridge : WmBridge} (linked : Linked bridge)
    (decision : WmDecision)
    (live : ∀ action ∈ decision.actions, ∀ id, action = .activate id ∨
      action = .activatePrevious id → id ∈ bridge.manager.ids) :
    Sourced bridge bridge (applyDecision decision) := by
  obtain ⟨accepted, silent⟩ := decision_accepted _ decision live
  exact ⟨linked, accepted, silent⟩

/-- The next id is new, and announcing it leads to the table with the mapped window. -/
private theorem created_sourced {bridge after : WmBridge} (linked : Linked bridge)
    (linkedAfter : Linked after) {request : MapRequest}
    (fresh : windowBySurface bridge.manager request.surfaceKey = none)
    (manager : after.manager = (onMap bridge.manager bridge.config request).1)
    (metadata : ToplevelMetadata) :
    Sourced bridge after [.windowCreated ⟨bridge.manager.nextId⟩ metadata.appId metadata.pid
      metadata.launchId metadata.title] := by
  have unknown : commitOf bridge.manager ⟨bridge.manager.nextId⟩ = none := by
    by_contra known
    have member := mem_ids_iff.mpr (Option.isSome_iff_ne_none.mpr known)
    exact Nat.lt_irrefl _ (linked.formed.below _ member)
  refine ⟨linkedAfter, ⟨⟨Nat.le_refl _, unknown⟩, trivial⟩, ?_⟩
  unfold ledgerOf
  rw [manager, (on_map_fresh bridge.config fresh).2.2.1]
  change Ledger.mk (Function.update (commitOf bridge.manager) _ (some 0)) _ = Ledger.mk _ _
  congr 1
  funext other
  rw [on_map_commit linked.formed bridge.config fresh]
  by_cases same : (⟨bridge.manager.nextId⟩ : WindowId) = other
  · subst same
    rw [Function.update_self, if_pos rfl]
  · rw [Function.update_of_ne (Ne.symm same), if_neg same]

/-- A toplevel that is mapped gets the next id, which no event has announced before. -/
theorem mapped_sourced {bridge : WmBridge} (linked : Linked bridge) (surface : Surface)
    (metadata : ToplevelMetadata) (createdSeq : ℕ) :
    Sourced bridge (onToplevelMapped bridge surface metadata createdSeq).1
      (onToplevelMapped bridge surface metadata createdSeq).2 := by
  unfold onToplevelMapped WmBridge.mapToplevel
  cases mapped : (bridge.surfaces.toplevels surface).bind ToplevelSlot.window with
  | some existing => exact Sourced.refl linked
  | none =>
    have registered := linked.registered surface
    have slotted := register_slot mapped
    let request : MapRequest := ⟨(bridge.surfaces.registerToplevel surface).2, metadata.appId,
      metadata.pid, metadata.title, createdSeq⟩
    have fresh : windowBySurface bridge.manager request.surfaceKey = none :=
      linked.fresh_key mapped
    obtain ⟨decided, ids, _, _⟩ := on_map_fresh bridge.config fresh
    have after := bind_linked registered slotted fresh
      (Function.update bridge.roots ⟨bridge.manager.nextId⟩ (some surface))
    change Sourced bridge
      { bridge with
        manager := (onMap bridge.manager bridge.config request).1
        surfaces := (bridge.surfaces.registerToplevel surface).1.bind surface
          (onMap bridge.manager bridge.config request).2.1
        roots := Function.update bridge.roots (onMap bridge.manager bridge.config request).2.1
          (some surface) }
      (.windowCreated (onMap bridge.manager bridge.config request).2.1 _ _ _ _ ::
        applyDecision ⟨(onMap bridge.manager bridge.config request).2.2, bridge.keyboardFocus⟩)
    rw [decided]
    refine (created_sourced linked after fresh rfl metadata).append
      (decision_sourced after _ fun action member id asked => ?_)
    rw [List.mem_cons, List.mem_singleton] at member
    rcases member with rfl | rfl
    · rcases asked with asked | asked <;> cases asked
    · rcases asked with asked | asked <;> cases asked
      change (⟨bridge.manager.nextId⟩ : WindowId) ∈
        (onMap bridge.manager bridge.config request).1.ids
      rw [ids]
      exact List.mem_append_right _ List.mem_cons_self

/-! ## Destroying -/

/-- Dropping an unmapped toplevel changes the surface tables alone. -/
private theorem unmapped_dropped {bridge : WmBridge} (linked : Linked bridge) {surface : Surface}
    {slot : ToplevelSlot} (slotted : bridge.surfaces.toplevels surface = some slot)
    (unmapped : slot.window = none) :
    Linked
      { bridge with
        surfaces := { bridge.surfaces with
          toplevels := Function.update bridge.surfaces.toplevels surface none
          owners := Function.update bridge.surfaces.owners surface none } } := by
  have kept : ∀ {other : Surface} {found : ToplevelSlot},
      Function.update bridge.surfaces.toplevels surface none other = some found →
        bridge.surfaces.toplevels other = some found := by
    intro other found lookup
    by_cases same : other = surface
    · subst same
      rw [Function.update_self] at lookup
      cases lookup
    · rwa [Function.update_of_ne same] at lookup
  refine ⟨linked.formed, fun other found lookup => linked.keysBelow other found (kept lookup), ?_,
    ?_, fun other found id lookup => linked.windowsLive other found id (kept lookup), ?_, ?_,
    linked.popupsLive⟩
  · intro first second found found' lookup lookup'
    exact linked.keysInjective first second found found' (kept lookup) (kept lookup')
  · intro key id member
    obtain ⟨owner, found⟩ := linked.recorded key id member
    have different : owner ≠ surface := by
      rintro rfl
      rw [slotted] at found
      cases found
      cases unmapped
    exact ⟨owner, (Function.update_of_ne different ..).trans found⟩
  · intro first second found found' id lookup lookup'
    exact linked.windowsInjective first second found found' id (kept lookup) (kept lookup')
  · intro other id owned
    by_cases same : other = surface
    · subst same
      change Function.update bridge.surfaces.owners other none other = some id at owned
      rw [Function.update_self] at owned
      cases owned
    · change Function.update bridge.surfaces.owners surface none other = some id at owned
      rw [Function.update_of_ne same] at owned
      exact linked.ownersLive other id owned

/-- Dropping a mapped toplevel removes its window from every table. -/
private theorem mapped_dropped {bridge : WmBridge} (linked : Linked bridge) {surface : Surface}
    {key : SurfaceKey} {windowId : WindowId}
    (slotted : bridge.surfaces.toplevels surface = some ⟨key, some windowId⟩)
    (roots : WindowId → Option Surface) :
    Linked
      { bridge with
        manager := (onDestroy bridge.manager windowId).1
        surfaces := (bridge.surfaces.unbindToplevel surface).1
        roots := roots } := by
  have surfaces : (bridge.surfaces.unbindToplevel surface).1 =
      { bridge.surfaces with
        toplevels := Function.update bridge.surfaces.toplevels surface none
        owners := fun other => (Function.update bridge.surfaces.owners surface none other).filter
          (fun owner => owner ≠ windowId)
        popups := bridge.surfaces.popups.filter (fun popup => popup.windowId ≠ windowId) } := by
    simp [SurfaceRegistry.unbindToplevel, slotted, SurfaceRegistry.removePopupsOf]
  have ids := (on_destroy_spec linked.formed windowId).1
  have kept : ∀ {other : Surface} {found : ToplevelSlot},
      Function.update bridge.surfaces.toplevels surface none other = some found →
        other ≠ surface ∧ bridge.surfaces.toplevels other = some found := by
    intro other found lookup
    by_cases same : other = surface
    · subst same
      rw [Function.update_self] at lookup
      cases lookup
    · exact ⟨same, by rwa [Function.update_of_ne same] at lookup⟩
  have survives : ∀ {id : WindowId}, id ∈ bridge.manager.ids → id ≠ windowId →
      id ∈ (onDestroy bridge.manager windowId).1.ids := by
    intro id member different
    rw [ids]
    exact (List.mem_erase_of_ne different).mpr member
  rw [surfaces]
  refine ⟨linked.formed.destroyed windowId,
    fun other found lookup => linked.keysBelow other found (kept lookup).2, ?_, ?_, ?_, ?_, ?_, ?_⟩
  · intro first second found found' lookup lookup'
    exact linked.keysInjective first second found found' (kept lookup).2 (kept lookup').2
  · intro otherKey id member
    have older := on_destroy_keys bridge.manager windowId _ member
    have remains : id ≠ windowId := by
      rintro rfl
      have inside := mem_keys_ids member
      rw [ids] at inside
      exact linked.formed.nodup.not_mem_erase inside
    obtain ⟨owner, found⟩ := linked.recorded otherKey id older
    have different : owner ≠ surface := by
      rintro rfl
      rw [slotted] at found
      cases found
      exact remains rfl
    exact ⟨owner, (Function.update_of_ne different ..).trans found⟩
  · intro other found id lookup windowed
    obtain ⟨different, older⟩ := kept lookup
    refine survives (linked.windowsLive other found id older windowed) ?_
    rintro rfl
    exact different (linked.windowsInjective other surface found _ id older slotted windowed rfl)
  · intro first second found found' id lookup lookup'
    exact linked.windowsInjective first second found found' id (kept lookup).2 (kept lookup').2
  · intro other id owned
    obtain ⟨owner, different⟩ := Option.filter_eq_some_iff.mp owned
    have older : bridge.surfaces.owners other = some id := by
      by_cases same : other = surface
      · subst same
        rw [Function.update_self] at owner
        cases owner
      · rwa [Function.update_of_ne same] at owner
    exact survives (linked.ownersLive other id older) (by simpa using different)
  · intro popup member
    obtain ⟨older, different⟩ := List.mem_filter.mp member
    exact survives (linked.popupsLive popup older) (by simpa using different)

/-- Popup events name a live window and leave the ledger alone. -/
private theorem popups_sourced {bridge : WmBridge} (linked : Linked bridge) {windowId : WindowId}
    (live : windowId ∈ bridge.manager.ids) (popupIds : List ℕ) :
    Sourced bridge bridge (popupIds.map (Emission.popupDisappeared windowId)) := by
  induction popupIds with
  | nil => exact Sourced.refl linked
  | cons popupId rest ih =>
    have first : Sourced bridge bridge [.popupDisappeared windowId popupId] :=
      (Sourced.refl linked).names _ (live_iff.mpr live) (fun _ => rfl)
    exact first.append ih

private theorem removed_sourced {bridge after : WmBridge} (linked : Linked bridge)
    (linkedAfter : Linked after) {windowId : WindowId} (live : windowId ∈ bridge.manager.ids)
    (manager : after.manager = (onDestroy bridge.manager windowId).1) :
    Sourced bridge after [.windowDestroyed windowId] := by
  obtain ⟨_, nextId, _, commits⟩ := on_destroy_spec linked.formed windowId
  refine ⟨linkedAfter, ⟨live_iff.mpr live, trivial⟩, ?_⟩
  unfold ledgerOf
  rw [manager, nextId]
  change Ledger.mk (Function.update (commitOf bridge.manager) windowId none) _ = Ledger.mk _ _
  congr 1
  funext other
  rw [commits other]
  by_cases same : windowId = other
  · subst same
    rw [Function.update_self, if_pos rfl]
  · rw [Function.update_of_ne (Ne.symm same), if_neg same]

theorem destroyed_sourced {bridge : WmBridge} (linked : Linked bridge) (surface : Surface) :
    Sourced bridge (onToplevelDestroyed bridge surface).1
      (onToplevelDestroyed bridge surface).2 := by
  unfold onToplevelDestroyed WmBridge.destroyToplevel
  cases slotted : bridge.surfaces.toplevels surface with
  | none => exact Sourced.refl linked
  | some slot =>
    obtain ⟨key, window⟩ := slot
    cases window with
    | none =>
      have unbound : bridge.surfaces.unbindToplevel surface =
          ({ bridge.surfaces with
              toplevels := Function.update bridge.surfaces.toplevels surface none
              owners := Function.update bridge.surfaces.owners surface none }, none, []) := by
        simp [SurfaceRegistry.unbindToplevel, slotted]
      simp only [unbound]
      exact ⟨unmapped_dropped linked slotted rfl, trivial, rfl⟩
    | some windowId =>
      have window : (bridge.surfaces.unbindToplevel surface).2.1 = some windowId := by
        simp [SurfaceRegistry.unbindToplevel, slotted]
      have live := linked.windowsLive surface _ windowId slotted rfl
      have after := mapped_dropped linked slotted (Function.update bridge.roots windowId none)
      simp only [window]
      refine (popups_sourced linked live _).append
        ((removed_sourced linked after live rfl).append
          (decision_sourced after _ fun action decided id asked => ?_))
      obtain ⟨fallback, member, rfl⟩ := on_destroy_actions linked.formed decided
      rcases asked with asked | asked <;> cases asked
      exact member

/-! ## Popups and surfaces -/

theorem popup_created_sourced {bridge : WmBridge} (linked : Linked bridge) (surface : Surface)
    (parent : Option Surface) :
    Sourced bridge (onPopupCreated bridge surface parent).1
      (onPopupCreated bridge surface parent).2 := by
  unfold onPopupCreated WmBridge.popupAdded
  cases owner : parent.bind bridge.surfaces.owners with
  | none => exact Sourced.refl linked
  | some windowId =>
    obtain ⟨parentSurface, _, owned⟩ := Option.bind_eq_some_iff.mp owner
    have live := linked.ownersLive parentSurface windowId owned
    have counted := update_sourced linked windowId
      (fun record => { record with popupCount := min (record.popupCount + 1) (2 ^ 32 - 1) })
      (fun _ => rfl) (fun _ => rfl) (fun _ => rfl)
    have ids : (onPopupAdded bridge.manager windowId).ids = bridge.manager.ids :=
      update_record_map WindowRecord.id windowId _ (by intro record; rfl) _
    have added : Linked
        { bridge with
          manager := onPopupAdded bridge.manager windowId
          surfaces := (bridge.surfaces.addPopup surface windowId).1 } := by
      have before := counted.linked
      unfold SurfaceRegistry.addPopup
      cases bridge.surfaces.popups.find? (fun popup => popup.surface = surface) with
      | some existing => exact before
      | none =>
        refine ⟨before.formed, before.keysBelow, before.keysInjective, before.recorded,
          before.windowsLive, before.windowsInjective, ?_, ?_⟩
        · intro other id owned'
          change Function.update bridge.surfaces.owners surface (some windowId) other = some id
            at owned'
          by_cases same : other = surface
          · subst same
            rw [Function.update_self] at owned'
            cases owned'
            exact ids ▸ live
          · rw [Function.update_of_ne same] at owned'
            exact before.ownersLive other id owned'
        · intro popup member
          rcases List.mem_append.mp member with old | new
          · exact before.popupsLive popup old
          · rw [List.mem_singleton.mp new]
            exact ids ▸ live
    have tabled : Sourced bridge
        { bridge with
          manager := onPopupAdded bridge.manager windowId
          surfaces := (bridge.surfaces.addPopup surface windowId).1 } [] :=
      ⟨added, trivial, counted.result⟩
    exact tabled.names (.popupAppeared windowId _) (live_iff.mpr live) (fun _ => rfl)

theorem popup_destroyed_sourced {bridge : WmBridge} (linked : Linked bridge) (surface : Surface) :
    Sourced bridge (onPopupDestroyed bridge surface).1 (onPopupDestroyed bridge surface).2 := by
  unfold onPopupDestroyed WmBridge.popupRemoved SurfaceRegistry.removePopup
  cases found : bridge.surfaces.popups.find? (fun popup => popup.surface = surface) with
  | none => exact Sourced.refl linked
  | some popup =>
    have live := linked.popupsLive popup (List.mem_of_find?_eq_some found)
    have counted := update_sourced linked popup.windowId
      (fun record => { record with popupCount := record.popupCount - 1 })
      (fun _ => rfl) (fun _ => rfl) (fun _ => rfl)
    have before := counted.linked
    have removed : Linked
        { bridge with
          manager := onPopupRemoved bridge.manager popup.windowId
          surfaces := { bridge.surfaces with
            popups := bridge.surfaces.popups.filter (fun popup => popup.surface ≠ surface)
            owners := Function.update bridge.surfaces.owners surface none } } := by
      refine ⟨before.formed, before.keysBelow, before.keysInjective, before.recorded,
        before.windowsLive, before.windowsInjective, ?_, ?_⟩
      · intro other id owned
        change Function.update bridge.surfaces.owners surface none other = some id at owned
        by_cases same : other = surface
        · subst same
          rw [Function.update_self] at owned
          cases owned
        · rw [Function.update_of_ne same] at owned
          exact before.ownersLive other id owned
      · intro other member
        exact before.popupsLive other (List.mem_of_mem_filter member)
    have tabled : Sourced bridge _ [] := ⟨removed, trivial, counted.result⟩
    exact tabled.names (.popupDisappeared popup.windowId popup.popupId)
      (live_iff.mpr live) (fun _ => rfl)

private theorem record_commit_sourced {bridge : WmBridge} (linked : Linked bridge)
    (surface : Surface) (ancestors : List Surface) (damage : Region) :
    Sourced bridge (recordCommit bridge surface ancestors damage).1
      (recordCommit bridge surface ancestors damage).2 := by
  unfold recordCommit
  cases owner : bridge.windowForSurface surface ancestors with
  | none => exact Sourced.refl linked
  | some windowId =>
    obtain ⟨tracked, _, owned⟩ := List.exists_of_findSome?_eq_some owner
    exact commit_sourced linked (linked.ownersLive tracked windowId owned) damage

private theorem surface_commit_sourced {bridge : WmBridge} (linked : Linked bridge)
    (surface : Surface) (ancestors : List Surface) (hasBuffer : Bool)
    (metadata : ToplevelMetadata) (damage : Region) (createdSeq : ℕ) :
    Sourced bridge
      (onSurfaceCommit bridge surface ancestors hasBuffer metadata damage createdSeq).1
      (onSurfaceCommit bridge surface ancestors hasBuffer metadata damage createdSeq).2 := by
  unfold onSurfaceCommit
  split
  · have mapped := mapped_sourced linked surface metadata createdSeq
    exact mapped.append (record_commit_sourced mapped.linked surface ancestors damage)
  · exact record_commit_sourced linked surface ancestors damage

/-- Whatever a client does, the emitted events account for the change of the window table. -/
theorem handle_client_sourced {state : CompositorState} (linked : Linked state.wm)
    (request : ClientRequest) :
    Sourced state.wm (handleClient state request).1 (handleClient state request).2 := by
  cases request with
  | newToplevel surface => exact ⟨linked.registered surface, trivial, rfl⟩
  | commit surface ancestors hasBuffer metadata damage =>
    exact surface_commit_sourced linked surface ancestors hasBuffer metadata damage _
  | toplevelDestroyed surface => exact destroyed_sourced linked surface
  | titleChanged surface title => exact title_sourced linked surface title
  | newPopup surface parent => exact popup_created_sourced linked surface parent
  | popupDestroyed surface => exact popup_destroyed_sourced linked surface

/-- So do the events of a command. -/
theorem handle_command_sourced {state : CompositorState} (linked : Linked state.wm) (tsMs : ℕ)
    (command : Command) :
    Sourced state.wm (handleCommand state tsMs command).1.wm
      (handleCommand state tsMs command).2.1 := by
  cases command with
  | queryState => exact Sourced.refl linked
  | reserveSeq => exact Sourced.refl linked
  | activateWindow windowId =>
    cases done : state.wm.activate windowId with
    | none =>
      simp only [handleCommand, done]
      exact Sourced.refl linked
    | some result =>
      simp only [handleCommand, done]
      exact activate_sourced linked done
  | closeWindow windowId =>
    simp only [handleCommand]
    split <;> exact Sourced.refl linked
  | injectInput => exact Sourced.refl linked

theorem initial_linked (config : PolicyConfig) : Linked (CompositorState.new config).wm where
  formed := WellFormed.initial
  keysBelow := fun _ _ found => by cases found
  keysInjective := fun _ _ _ _ found => by cases found
  recorded := fun _ _ member => by cases member
  windowsLive := fun _ _ _ found => by cases found
  windowsInjective := fun _ _ _ _ _ found => by cases found
  ownersLive := fun _ _ owned => by cases owned
  popupsLive := fun _ member => by cases member

end ADesk.Compositor.Sourcing
