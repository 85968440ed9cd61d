/- ADesk.Compositor.Numbering
   digest: The numbers that the event sink hands out, and the creation number of each window. -/

import ADesk.Compositor.Mirror

set_option autoImplicit false

namespace ADesk.Compositor.Numbering

open ADesk.Core.Event (EventKind RuntimeEvent)
open ADesk.Core.Ids (WindowId)
open ADesk.Compositor.Bridge
open ADesk.Compositor.Events
open ADesk.Compositor.Mirror
open ADesk.Compositor.Sourcing
open ADesk.Compositor.State
open ADesk.Foundation.Execution
open ADesk.Wm.Policy

/-! ## Numbers handed out -/

/-- The numbers that a step takes from the sink: the one of an emitted event or of a reservation. -/
def handedBy (desk : Mirror.State) : Label → List ℕ
  | .emit _ => [desk.compositor.events.nextSeq.2]
  | .command command tsMs =>
    match (handleCommand desk.compositor tsMs command).2.2 with
    | .reserved seq => [seq]
    | .snapshot _ | .ok | .unknownWindow _ => []
  | .client _ | .resize .. => []

/-- The compositor thread with every number handed out so far. -/
structure Numbered where
  desk : Mirror.State
  handed : List ℕ

def step (state : Numbered) (label : Label) : Option Numbered :=
  (Mirror.step state.desk label).map fun desk =>
    ⟨desk, state.handed ++ handedBy state.desk label⟩

def numbering (config : PolicyConfig) : Machine Numbered Label :=
  ⟨⟨(machine config).init, []⟩, step⟩

/-- The sink hands out its numbers one after the other, and events carry them in this order. -/
structure Counting (state : Numbered) : Prop where
  handed : state.handed = List.range' 1 state.desk.compositor.events.watermark
  carried : List.Sublist (state.desk.log.map RuntimeEvent.seq) state.handed

theorem range_handed (last : ℕ) : List.range' 1 (last + 1) = List.range' 1 last ++ [last + 1] := by
  rw [List.range'_1_concat, Nat.add_comm 1 last]

theorem handed_silent {desk : Mirror.State} {command : Command} (tsMs : ℕ)
    (other : command ≠ .reserveSeq) : handedBy desk (.command command tsMs) = [] := by
  cases command with
  | reserveSeq => exact absurd rfl other
  | activateWindow windowId =>
    simp only [handedBy, handleCommand]
    cases desk.compositor.wm.activate windowId <;> rfl
  | closeWindow windowId =>
    simp only [handedBy, handleCommand]
    cases desk.compositor.wm.hasToplevel windowId <;> rfl
  | queryState | injectInput => rfl

theorem Counting.next {s t : Numbered} {label : Label} (counting : Counting s)
    (taken : step s label = some t) : Counting t := by
  obtain ⟨desk, moved, same⟩ := Option.map_eq_some_iff.mp taken
  cases same
  cases label with
  | client request =>
    obtain ⟨_, same⟩ := Option.ite_none_right_eq_some.mp moved
    cases same
    simp only [handedBy, List.append_nil]
    exact ⟨counting.handed, counting.carried⟩
  | resize width height =>
    obtain ⟨_, same⟩ := Option.ite_none_right_eq_some.mp moved
    cases same
    simp only [handedBy, List.append_nil]
    exact ⟨counting.handed, counting.carried⟩
  | command command tsMs =>
    obtain ⟨_, same⟩ := Option.ite_none_right_eq_some.mp moved
    cases same
    by_cases reserving : command = .reserveSeq
    · subst reserving
      constructor
      · change s.handed ++ [_] = List.range' 1 (_ + 1)
        rw [range_handed, counting.handed]
        rfl
      · exact counting.carried.trans (List.sublist_append_left _ _)
    · have silent : handedBy s.desk (.command command tsMs) = [] := handed_silent tsMs reserving
      rw [silent, List.append_nil]
      constructor
      · have kept := handle_command_events s.desk.compositor tsMs reserving
        change s.handed = List.range' 1 (handleCommand s.desk.compositor tsMs command).1.events.lastSeq
        rw [kept]
        exact counting.handed
      · exact counting.carried
  | emit tsMs =>
    simp only [Mirror.step] at moved
    split at moved
    · next emission rest owed =>
      cases moved
      constructor
      · change s.handed ++ [_] = List.range' 1 (_ + 1)
        rw [range_handed, counting.handed]
        rfl
      · change List.Sublist (List.map _ (s.desk.log ++ [_])) (s.handed ++ [_])
        rw [List.map_append]
        refine counting.carried.append ?_
        rw [List.map_singleton, emission_seq]
    · cases moved

theorem counting_always {config : PolicyConfig} {s : Numbered}
    (reached : Reachable (numbering config) anyStep s) : Counting s :=
  have start : Counting (numbering config).init := ⟨rfl, List.nil_sublist _⟩
  have invariant : Inductive (numbering config) anyStep Counting :=
    ⟨start, fun counting _ taken => counting.next taken⟩
  invariant.holds reached

/-! ## What an operation creates -/

/-- The windows of the table with the number at which each was created. -/
def creations (model : WindowModel) : List (WindowId × ℕ) :=
  model.records.map fun record => (record.id, record.createdSeq)

/-- The emission announces a new window. -/
def Announces (emission : Emission) : Prop := (emission.event 0 0).kind = .windowCreated

/-- An operation that starts at the number `base` creates no window, or one under the next id with
`base` as its number, and announces it first. -/
inductive Creates (base : ℕ) (before after : WindowModel) (emissions : List Emission) : Prop
  | nothing (kept : ∀ pair ∈ creations after, pair ∈ creations before)
      (silent : ∀ emission ∈ emissions, ¬ Announces emission)
  | window (created : Emission) (rest : List Emission) (first : emissions = created :: rest)
      (announces : Announces created)
      (named : (created.event 0 0).windowId = some ⟨before.nextId⟩)
      (silent : ∀ emission ∈ rest, ¬ Announces emission)
      (kept : ∀ pair ∈ creations after, pair ∈ creations before ∨ pair = (⟨before.nextId⟩, base))

theorem creations_update (model : WindowModel) (id : WindowId)
    (update : WindowRecord → WindowRecord)
    (keeps : ∀ record, ((update record).id, (update record).createdSeq) =
      (record.id, record.createdSeq)) :
    creations { model with records := updateRecord id update model.records } = creations model :=
  update_record_map _ id update keeps model.records

theorem creations_mark (id : WindowId) (records : List WindowRecord) (mru : List WindowId)
    (nextId : ℕ) : creations ⟨markActive id records, mru, nextId⟩ = creations ⟨records, mru, nextId⟩ :=
  mark_active_map (fun record => (record.id, record.createdSeq)) (fun _ _ => rfl) id records

theorem Creates.quiet {base : ℕ} {before after : WindowModel} {emissions : List Emission}
    (same : creations after = creations before)
    (silent : ∀ emission ∈ emissions, ¬ Announces emission) :
    Creates base before after emissions :=
  .nothing (fun _ member => same ▸ member) silent

/-- What follows in the same operation creates nothing more. -/
theorem Creates.followed {base : ℕ} {before middle after : WindowModel}
    {first second : List Emission} (creates : Creates base before middle first)
    (kept : creations after = creations middle)
    (silent : ∀ emission ∈ second, ¬ Announces emission) :
    Creates base before after (first ++ second) := by
  cases creates with
  | nothing keeps quiet =>
    refine .nothing (fun pair member => keeps pair (kept ▸ member)) fun emission member => ?_
    rcases List.mem_append.mp member with early | late
    · exact quiet emission early
    · exact silent emission late
  | window created rest heads announces named quiet keeps =>
    subst heads
    refine .window created (rest ++ second) rfl announces named (fun emission member => ?_)
      (fun pair member => keeps pair (kept ▸ member))
    rcases List.mem_append.mp member with early | late
    · exact quiet emission early
    · exact silent emission late

theorem decision_silent (decision : WmDecision) :
    ∀ emission ∈ applyDecision decision, ¬ Announces emission := by
  intro emission member announces
  obtain ⟨action, _, applied⟩ := List.mem_flatMap.mp member
  cases action with
  | activate id | activatePrevious id =>
    rcases List.mem_cons.mp applied with same | applied
    · subst same
      cases announces
    · rw [List.mem_singleton.mp applied] at announces
      cases announces
  | configureWindow id rect | none => cases applied

theorem mapped_creates {bridge : WmBridge} (linked : Linked bridge) (surface : Surface)
    (metadata : ToplevelMetadata) (base : ℕ) :
    Creates base bridge.manager (onToplevelMapped bridge surface metadata base).1.manager
      (onToplevelMapped bridge surface metadata base).2 := by
  unfold onToplevelMapped WmBridge.mapToplevel
  cases mapped : (bridge.surfaces.toplevels surface).bind ToplevelSlot.window with
  | some existing => exact .nothing (fun _ member => member) fun _ none' => by cases none'
  | none =>
    let request : MapRequest := ⟨(bridge.surfaces.registerToplevel surface).2,
      metadata.appId, metadata.pid, metadata.title, base⟩
    have fresh : windowBySurface bridge.manager request.surfaceKey = none := linked.fresh_key mapped
    have id : (onMap bridge.manager bridge.config request).2.1 = ⟨bridge.manager.nextId⟩ := by
      rw [(on_map_fresh bridge.config fresh).1]
    refine .window _ _ rfl rfl (congrArg some id) (decision_silent _) fun pair member => ?_
    have records : creations (onMap bridge.manager bridge.config request).1 =
        creations bridge.manager ++ [(⟨bridge.manager.nextId⟩, base)] := by
      unfold onMap
      rw [fresh]
      exact (creations_mark _ _ _ _).trans List.map_append
    change pair ∈ creations (onMap bridge.manager bridge.config request).1 at member
    rw [records] at member
    rcases List.mem_append.mp member with old | new
    · exact Or.inl old
    · exact Or.inr (List.mem_singleton.mp new)

theorem record_commit_quiet (bridge : WmBridge) (surface : Surface) (ancestors : List Surface)
    (damage : Core.Geometry.Region) :
    creations (recordCommit bridge surface ancestors damage).1.manager = creations bridge.manager ∧
      ∀ emission ∈ (recordCommit bridge surface ancestors damage).2, ¬ Announces emission := by
  unfold recordCommit
  cases bridge.windowForSurface surface ancestors with
  | none => exact ⟨rfl, fun _ member => by cases member⟩
  | some windowId =>
    refine ⟨creations_update bridge.manager windowId _ fun _ => rfl, fun emission member => ?_⟩
    rw [List.mem_singleton.mp member]
    exact fun announces => by cases announces

theorem destroyed_creations (model : WindowModel) (id : WindowId) (pair : WindowId × ℕ)
    (member : pair ∈ creations (onDestroy model id).1) : pair ∈ creations model := by
  have erased : ∀ {records : List WindowRecord} {mru : List WindowId} {nextId : ℕ},
      creations ⟨records, mru, nextId⟩ =
        creations { model with records := model.records.eraseP (fun record => record.id = id) } →
      pair ∈ creations ⟨records, mru, nextId⟩ → pair ∈ creations model := by
    intro records mru nextId same inside
    rw [same] at inside
    exact (List.eraseP_sublist.map _).subset inside
  unfold onDestroy at member
  split at member
  · exact member
  · dsimp only at member
    split at member
    · exact erased rfl member
    · split at member
      · exact erased (creations_mark _ _ _ _) member
      · exact erased rfl member

theorem destroyed_creates (bridge : WmBridge) (surface : Surface) (base : ℕ) :
    Creates base bridge.manager (onToplevelDestroyed bridge surface).1.manager
      (onToplevelDestroyed bridge surface).2 := by
  unfold onToplevelDestroyed WmBridge.destroyToplevel
  cases bridge.surfaces.toplevels surface with
  | none => exact .nothing (fun _ member => member) fun _ none' => by cases none'
  | some slot =>
    dsimp only
    cases unbound : (bridge.surfaces.unbindToplevel surface).2.1 with
    | none => exact .nothing (fun _ member => member) fun _ none' => by cases none'
    | some windowId =>
      refine .nothing (fun pair member => ?_) fun emission member announces => ?_
      · exact destroyed_creations bridge.manager windowId pair member
      · rcases List.mem_append.mp member with popup | other
        · obtain ⟨popupId, _, same⟩ := List.mem_map.mp popup
          subst same
          cases announces
        · rcases List.mem_cons.mp other with same | decided
          · subst same
            cases announces
          · exact decision_silent _ emission decided announces

/-- An update of one record that is told by one event. -/
theorem updated_creates {base : ℕ} {model : WindowModel} {id : WindowId}
    {update : WindowRecord → WindowRecord}
    (keeps : ∀ record, ((update record).id, (update record).createdSeq) =
      (record.id, record.createdSeq))
    {emission : Emission} (silent : ¬ Announces emission) :
    Creates base model { model with records := updateRecord id update model.records }
      [emission] := by
  refine .quiet (creations_update model id update keeps) fun other member => ?_
  rw [List.mem_singleton.mp member]
  exact silent

theorem title_creates (bridge : WmBridge) (surface : Surface) (title : Option String) (base : ℕ) :
    Creates base bridge.manager (onTitleChanged bridge surface title).1.manager
      (onTitleChanged bridge surface title).2 := by
  unfold onTitleChanged WmBridge.titleChanged
  cases bridge.windowForSurface surface [] with
  | none => exact .quiet rfl fun _ none' => by cases none'
  | some windowId =>
    simp only [Option.bind_some]
    split
    · next changed named found =>
      obtain ⟨_, same⟩ := Option.ite_none_left_eq_some.mp found
      cases same
      refine updated_creates ?_ ?_
      · exact fun _ => rfl
      · intro announces
        cases announces
    · exact .quiet rfl fun _ none' => by cases none'

theorem popup_created_creates (bridge : WmBridge) (surface : Surface) (parent : Option Surface)
    (base : ℕ) :
    Creates base bridge.manager (onPopupCreated bridge surface parent).1.manager
      (onPopupCreated bridge surface parent).2 := by
  unfold onPopupCreated WmBridge.popupAdded
  cases parent.bind bridge.surfaces.owners with
  | none => exact .quiet rfl fun _ none' => by cases none'
  | some windowId =>
    refine updated_creates ?_ ?_
    · exact fun _ => rfl
    · intro announces
      cases announces

theorem popup_destroyed_creates (bridge : WmBridge) (surface : Surface) (base : ℕ) :
    Creates base bridge.manager (onPopupDestroyed bridge surface).1.manager
      (onPopupDestroyed bridge surface).2 := by
  unfold onPopupDestroyed WmBridge.popupRemoved
  cases bridge.surfaces.removePopup surface with
  | none => exact .quiet rfl fun _ none' => by cases none'
  | some removed =>
    refine updated_creates ?_ ?_
    · exact fun _ => rfl
    · intro announces
      cases announces

/-- A client request creates a window at the watermark only. -/
theorem client_creates {state : CompositorState} (linked : Linked state.wm)
    (request : ClientRequest) :
    Creates state.events.watermark state.wm.manager (handleClient state request).1.manager
      (handleClient state request).2 := by
  cases request with
  | newToplevel surface => exact .quiet rfl fun _ none' => by cases none'
  | commit surface ancestors hasBuffer metadata damage =>
    unfold handleClient onSurfaceCommit
    obtain ⟨kept, silent⟩ := record_commit_quiet
      (if state.wm.surfaces.isUnmappedToplevel surface && hasBuffer then
        onToplevelMapped state.wm surface metadata state.events.watermark
      else (state.wm, [])).1 surface ancestors damage
    refine Creates.followed ?_ kept silent
    split
    · exact mapped_creates linked surface metadata _
    · exact .quiet rfl fun _ none' => by cases none'
  | toplevelDestroyed surface => exact destroyed_creates state.wm surface _
  | titleChanged surface title => exact title_creates state.wm surface title _
  | newPopup surface parent => exact popup_created_creates state.wm surface parent _
  | popupDestroyed surface => exact popup_destroyed_creates state.wm surface _

theorem command_creates (state : CompositorState) (command : Command) (tsMs base : ℕ) :
    Creates base state.wm.manager (handleCommand state tsMs command).1.wm.manager
      (handleCommand state tsMs command).2.1 := by
  cases command with
  | activateWindow windowId =>
    simp only [handleCommand]
    cases done : state.wm.activate windowId with
    | none => exact .quiet rfl fun _ none' => by cases none'
    | some result =>
      obtain ⟨record, _, same⟩ := Option.map_eq_some_iff.mp done
      cases same
      refine .quiet ?_ (decision_silent _)
      change creations (Wm.Policy.activate state.wm.manager windowId).1 = _
      unfold Wm.Policy.activate
      cases window state.wm.manager windowId with
      | none => rfl
      | some record =>
        dsimp only
        split
        · rfl
        · exact creations_mark _ _ _ _
  | closeWindow windowId =>
    simp only [handleCommand]
    split <;> exact .quiet rfl fun _ none' => by cases none'
  | queryState | reserveSeq | injectInput => exact .quiet rfl fun _ none' => by cases none'

theorem resize_creates (bridge : WmBridge) (width height base : ℕ) :
    Creates base bridge.manager (setOutputSize bridge width height).1.manager
      (setOutputSize bridge width height).2 := by
  rw [resize_silent]
  exact .quiet List.map_map fun _ none' => by cases none'

theorem resized_commit (bridge : WmBridge) (width height : ℕ) (id : WindowId) :
    commitOf (setOutputSize bridge width height).1.manager id = commitOf bridge.manager id := by
  change ((bridge.manager.records.map _).find? _).map WindowRecord.lastCommitSeq = _
  rw [List.find?_map, Option.map_map]
  rfl

/-! ## The schedule of events -/

/-- What is compared of an event: its number, its kind and its window. -/
def tag (event : RuntimeEvent) : ℕ × EventKind × Option WindowId :=
  (event.seq, event.kind, event.windowId)

/-- The tags of the emissions that are owed next, numbered from the watermark. -/
def owedTags (last : ℕ) : List Emission → List (ℕ × EventKind × Option WindowId)
  | [] => []
  | emission :: rest => tag (emission.event (last + 1) 0) :: owedTags (last + 1) rest

/-- The tags of the emitted events and of those owed: no reservation comes in between. -/
def schedule (desk : Mirror.State) : List (ℕ × EventKind × Option WindowId) :=
  desk.log.map tag ++ owedTags desk.compositor.events.watermark desk.outbox

theorem tag_emission (emission : Emission) (seq tsMs : ℕ) :
    tag (emission.event seq tsMs) =
      (seq, (emission.event 0 0).kind, (emission.event 0 0).windowId) := by
  cases emission <;> rfl

theorem mem_owed_tags {last : ℕ} {emissions : List Emission}
    {entry : ℕ × EventKind × Option WindowId} (member : entry ∈ owedTags last emissions) :
    last < entry.1 ∧ ∃ emission ∈ emissions,
      entry.2 = ((emission.event 0 0).kind, (emission.event 0 0).windowId) := by
  induction emissions generalizing last with
  | nil => cases member
  | cons emission rest ih =>
    rcases List.mem_cons.mp member with same | later
    · subst same
      rw [tag_emission]
      exact ⟨Nat.lt_succ_self _, emission, List.mem_cons_self, rfl⟩
    · obtain ⟨above, owed, inside, same⟩ := ih later
      exact ⟨Nat.lt_of_succ_lt above, owed, List.mem_cons_of_mem _ inside, same⟩

theorem emitted_schedule {desk : Mirror.State} {emission : Emission} {rest : List Emission}
    (owed : desk.outbox = emission :: rest) (tsMs : ℕ) :
    schedule
        { compositor := { desk.compositor with events := desk.compositor.events.nextSeq.1 }
          outbox := rest
          log := desk.log ++ [emission.event desk.compositor.events.nextSeq.2 tsMs] } =
      schedule desk := by
  unfold schedule
  rw [owed, List.map_append, List.append_assoc]
  congr 1
  change tag _ :: owedTags _ rest = owedTags _ (emission :: rest)
  rw [tag_emission, owedTags, tag_emission]
  rfl

/-! ## Ids in the ledger -/

/-- The ids of the ledger's live windows are below its bound. -/
def Bounded (ledger : Ledger) : Prop :=
  ∀ id, (ledger.commits id).isSome = true → id.val < ledger.nextId

theorem Bounded.update {ledger : Ledger} (bounded : Bounded ledger) {windowId : WindowId}
    (below : windowId.val < ledger.nextId) (commits : Option ℕ) :
    Bounded { ledger with commits := Function.update ledger.commits windowId commits } := by
  intro id live
  by_cases same : id = windowId
  · rw [same]
    exact below
  · exact bounded id (by simpa [Function.update_of_ne same] using live)

theorem admitted_bounded {ledger : Ledger} (bounded : Bounded ledger) {event : RuntimeEvent}
    (admits : ledger.Admits event) :
    Bounded (ledger.apply event) ∧ ledger.nextId ≤ (ledger.apply event).nextId ∧
      ∀ id, event.windowId = some id → id.val < (ledger.apply event).nextId := by
  cases event with
  | windowCreated seq tsMs windowId appId pid launchId title =>
    refine ⟨fun id live => ?_, Nat.le_succ_of_le admits.1, fun id named => ?_⟩
    · by_cases same : id = windowId
      · rw [same]
        exact Nat.lt_succ_self _
      · have old := bounded id (by simpa [Ledger.apply, Function.update_of_ne same] using live)
        exact Nat.lt_succ_of_lt (Nat.lt_of_lt_of_le old admits.1)
    · cases named
      exact Nat.lt_succ_self _
  | windowDestroyed seq tsMs windowId =>
    refine ⟨bounded.update (bounded _ admits) _, Nat.le_refl _, fun id named => ?_⟩
    cases named
    exact bounded _ admits
  | surfaceCommit seq tsMs windowId commitSeq damage =>
    obtain ⟨last, live, _⟩ := admits
    have below : windowId.val < ledger.nextId := bounded _ (Option.isSome_iff_exists.mpr ⟨_, live⟩)
    refine ⟨bounded.update below _, Nat.le_refl _, fun id named => ?_⟩
    cases named
    exact below
  | windowActivated seq tsMs windowId previous =>
    exact ⟨bounded, Nat.le_refl _, fun id named => by cases named; exact bounded _ admits⟩
  | titleChanged seq tsMs windowId title =>
    exact ⟨bounded, Nat.le_refl _, fun id named => by cases named; exact bounded _ admits⟩
  | popupAppeared seq tsMs windowId popupId =>
    exact ⟨bounded, Nat.le_refl _, fun id named => by cases named; exact bounded _ admits⟩
  | popupDisappeared seq tsMs windowId popupId =>
    exact ⟨bounded, Nat.le_refl _, fun id named => by cases named; exact bounded _ admits⟩
  | focusChanged seq tsMs windowId =>
    exact ⟨bounded, Nat.le_refl _, fun id named => bounded _ (admits id named)⟩
  | appLaunched | notification | notificationClosed | notificationAction =>
    exact ⟨bounded, Nat.le_refl _, fun id named => by cases named⟩

/-- Every window that an accepted history names is below the bound afterwards. -/
theorem accepted_below {ledger : Ledger} (bounded : Bounded ledger) {history : List RuntimeEvent}
    (accepts : ledger.Accepts history) :
    ledger.nextId ≤ (ledger.run history).nextId ∧
      ∀ event ∈ history, ∀ id, event.windowId = some id →
        id.val < (ledger.run history).nextId := by
  induction history generalizing ledger with
  | nil => exact ⟨Nat.le_refl _, fun _ member => by cases member⟩
  | cons event rest ih =>
    obtain ⟨admits, accepts⟩ := accepts
    obtain ⟨bounded, grows, below⟩ := admitted_bounded bounded admits
    obtain ⟨further, named⟩ := ih bounded accepts
    refine ⟨Nat.le_trans grows further, fun other member id same => ?_⟩
    rcases List.mem_cons.mp member with head | later
    · subst head
      exact Nat.lt_of_lt_of_le (below id same) further
    · exact named other later id same

theorem linked_bounded {bridge : WmBridge} (linked : Linked bridge) : Bounded (ledgerOf bridge) :=
  fun id live => linked.formed.below id (live_iff.mp live)

theorem emissions_below {before after : WmBridge} {emissions : List Emission}
    (linked : Linked before) (sourced : Sourced before after emissions) :
    before.manager.nextId ≤ after.manager.nextId ∧
      ∀ emission ∈ emissions, ∀ id, (emission.event 0 0).windowId = some id →
        id.val < after.manager.nextId := by
  obtain ⟨grows, named⟩ := accepted_below (linked_bounded linked) sourced.accepts
  rw [sourced.result] at grows named
  exact ⟨grows, fun emission member id same =>
    named _ (List.mem_map_of_mem member) id same⟩

/-! ## Runs -/

/-- A window has one announcement in the schedule, one after its creation number, and all its
events come later than that number. -/
structure Placed (desk : Mirror.State) (id : WindowId) (createdSeq : ℕ) : Prop where
  since : createdSeq ≤ desk.compositor.events.watermark
  announced : (createdSeq + 1, EventKind.windowCreated, some id) ∈ schedule desk
  later : ∀ entry ∈ schedule desk, entry.2.2 = some id →
    createdSeq < entry.1 ∧ (entry.2.1 = .windowCreated → entry.1 = createdSeq + 1)

structure Dated (desk : Mirror.State) : Prop where
  linked : Linked desk.compositor.wm
  below : ∀ entry ∈ schedule desk, ∀ id, entry.2.2 = some id →
    id.val < desk.compositor.wm.manager.nextId
  placed : ∀ pair ∈ creations desk.compositor.wm.manager, Placed desk pair.1 pair.2

theorem creation_below {model : WindowModel} (formed : WellFormed model) {pair : WindowId × ℕ}
    (member : pair ∈ creations model) : pair.1.val < model.nextId := by
  obtain ⟨record, inside, same⟩ := List.mem_map.mp member
  subst same
  exact formed.below record.id (List.mem_map_of_mem inside)

/-- The emission that announces an operation's new window names the next id. -/
theorem Creates.announced {base : ℕ} {before after : WindowModel} {emissions : List Emission}
    (creates : Creates base before after emissions) {emission : Emission}
    (issued : emission ∈ emissions) (announces : Announces emission) :
    (emission.event 0 0).windowId = some ⟨before.nextId⟩ := by
  cases creates with
  | nothing _ silent => exact absurd announces (silent emission issued)
  | window created rest first _ named silent _ =>
    subst first
    rcases List.mem_cons.mp issued with head | later
    · rw [head]
      exact named
    · exact absurd announces (silent emission later)

section Operation

/-! ### One operation

It starts on a drained outbox and takes its numbers from the watermark on. -/

variable {desk : Mirror.State} {after : CompositorState} {emissions : List Emission}

theorem drained_schedule (drained : desk.outbox = []) : schedule desk = desk.log.map tag := by
  rw [schedule, drained, owedTags, List.append_nil]

/-- What is owed now comes later than the older windows and announces none of them. -/
theorem Placed.kept {id : WindowId} {createdSeq : ℕ} (placed : Placed desk id createdSeq)
    (drained : desk.outbox = []) (below : id.val < desk.compositor.wm.manager.nextId)
    (creates : Creates desk.compositor.events.watermark desk.compositor.wm.manager
      after.wm.manager emissions)
    (grows : desk.compositor.events.watermark ≤ after.events.watermark) :
    Placed { desk with compositor := after, outbox := emissions } id createdSeq := by
  have since : createdSeq ≤ after.events.watermark := Nat.le_trans placed.since grows
  constructor
  · exact since
  · have announced := placed.announced
    rw [drained_schedule drained] at announced
    exact List.mem_append_left _ announced
  · intro entry inside same
    rcases List.mem_append.mp inside with early | owed
    · rw [← drained_schedule drained] at early
      exact placed.later entry early same
    · obtain ⟨above, emission, issued, tagged⟩ := mem_owed_tags owed
      refine ⟨Nat.lt_of_le_of_lt since above, fun announcing => ?_⟩
      rw [tagged] at announcing same
      have fresh : id = ⟨desk.compositor.wm.manager.nextId⟩ :=
        Option.some.inj (same.symm.trans (creates.announced issued announcing))
      rw [fresh] at below
      exact absurd below (Nat.lt_irrefl _)

/-- Nothing named the new window before, and its announcement is owed first. -/
theorem placed_new {id : WindowId} (drained : desk.outbox = [])
    (unnamed : ∀ entry ∈ schedule desk, entry.2.2 ≠ some id) {created : Emission}
    {rest : List Emission} (announces : Announces created)
    (named : (created.event 0 0).windowId = some id)
    (silent : ∀ emission ∈ rest, ¬ Announces emission)
    (events : after.events = desk.compositor.events) :
    Placed { desk with compositor := after, outbox := created :: rest } id
      desk.compositor.events.watermark := by
  have head : tag (created.event (after.events.watermark + 1) 0) =
      (desk.compositor.events.watermark + 1, .windowCreated, some id) := by
    rw [tag_emission, named, events, show (created.event 0 0).kind = _ from announces]
  constructor
  · exact Nat.le_of_eq (congrArg EventSink.watermark events.symm)
  · refine List.mem_append_right _ ?_
    rw [← head]
    exact List.mem_cons_self
  · intro entry inside same
    rcases List.mem_append.mp inside with early | owed
    · rw [← drained_schedule drained] at early
      exact absurd same (unnamed entry early)
    · rcases List.mem_cons.mp owed with first | later
      · subst first
        rw [head]
        exact ⟨Nat.lt_succ_self _, fun _ => rfl⟩
      · obtain ⟨above, emission, issued, tagged⟩ := mem_owed_tags later
        change after.events.watermark + 1 < entry.1 at above
        rw [events] at above
        refine ⟨Nat.lt_of_succ_lt above, fun announcing => ?_⟩
        rw [tagged] at announcing
        exact absurd announcing (silent emission issued)

theorem Dated.operation (dated : Dated desk) (drained : desk.outbox = [])
    (sourced : Sourced desk.compositor.wm after.wm emissions)
    (creates : Creates desk.compositor.events.watermark desk.compositor.wm.manager
      after.wm.manager emissions)
    (grows : desk.compositor.events.watermark ≤ after.events.watermark)
    (exactly : emissions ≠ [] → after.events = desk.compositor.events) :
    Dated { desk with compositor := after, outbox := emissions } := by
  obtain ⟨further, named⟩ := emissions_below dated.linked sourced
  have kept : ∀ pair ∈ creations desk.compositor.wm.manager,
      Placed { desk with compositor := after, outbox := emissions } pair.1 pair.2 :=
    fun pair member => (dated.placed pair member).kept drained
      (creation_below dated.linked.formed member) creates grows
  constructor
  · exact sourced.linked
  · intro entry inside id same
    rcases List.mem_append.mp inside with early | owed
    · rw [← drained_schedule drained] at early
      exact Nat.lt_of_lt_of_le (dated.below entry early id same) further
    · obtain ⟨_, emission, issued, tagged⟩ := mem_owed_tags owed
      rw [tagged] at same
      exact named emission issued id same
  · intro pair member
    cases creates with
    | nothing keeps _ => exact kept pair (keeps pair member)
    | window created rest first announces new silent keeps =>
      subst first
      rcases keeps pair member with there | added
      · exact kept pair there
      · subst added
        refine placed_new drained (fun entry inside same => ?_) announces new silent
          (exactly (List.cons_ne_nil _ _))
        exact Nat.lt_irrefl _ (dated.below entry inside _ same)

end Operation

theorem Dated.next {s t : Mirror.State} {label : Label} (dated : Dated s)
    (taken : Mirror.step s label = some t) : Dated t := by
  cases label with
  | client request =>
    obtain ⟨drained, same⟩ := Option.ite_none_right_eq_some.mp taken
    cases same
    exact dated.operation drained (handle_client_sourced dated.linked request)
      (client_creates dated.linked request) (Nat.le_refl _) fun _ => rfl
  | command command tsMs =>
    obtain ⟨drained, same⟩ := Option.ite_none_right_eq_some.mp taken
    cases same
    refine dated.operation drained (handle_command_sourced dated.linked tsMs command)
      (command_creates s.compositor command tsMs _)
      (handle_command_last_seq s.compositor tsMs command) fun emits => ?_
    refine handle_command_events s.compositor tsMs fun reserving => emits ?_
    subst reserving
    rfl
  | resize width height =>
    obtain ⟨drained, same⟩ := Option.ite_none_right_eq_some.mp taken
    cases same
    refine dated.operation drained ?_ (resize_creates s.compositor.wm width height _)
      (Nat.le_refl _) fun _ => rfl
    rw [resize_silent]
    refine ⟨linked_resized dated.linked width height, trivial, Eq.symm (ledger_ext ?_ rfl)⟩
    exact resized_commit s.compositor.wm width height
  | emit tsMs =>
    simp only [Mirror.step] at taken
    split at taken
    · next emission rest owed =>
      cases taken
      have same := emitted_schedule owed tsMs
      constructor
      · exact dated.linked
      · rw [same]
        exact dated.below
      · intro pair member
        have placed := dated.placed pair member
        constructor
        · exact Nat.le_succ_of_le placed.since
        · rw [same]
          exact placed.announced
        · rw [same]
          exact placed.later
    · cases taken

theorem dated_always {config : PolicyConfig} {s : Numbered}
    (reached : Reachable (numbering config) anyStep s) : Dated s.desk := by
  have start : Dated (numbering config).init.desk := by
    refine ⟨initial_linked config, fun _ member => ?_, fun _ member => ?_⟩
    · cases member
    · cases member
  have invariant : Inductive (numbering config) anyStep fun state => Dated state.desk := by
    refine ⟨start, fun {s t label} dated _ taken => ?_⟩
    obtain ⟨desk, moved, same⟩ := Option.map_eq_some_iff.mp taken
    cases same
    exact dated.next moved
  exact invariant.holds reached

/-! ## The creation number -/

/-- Every reported window carries the number of its own `WindowCreated` event. -/
def OwnNumber (desk : Mirror.State) : Prop :=
  ∀ tsMs, ∀ record ∈ (snapshot desk.compositor tsMs).windows, ∃ event ∈ desk.log,
    event.kind = .windowCreated ∧ event.windowId = some record.id ∧ event.seq = record.createdSeq

/-- The numbers handed out ascend, the events carry them in this order, and every event of a
window comes after its creation number. That number is the one before the window's own
`WindowCreated`, so between operations it is the event's own number only while no window is
tracked. -/
theorem creation_number_before_announcement (config : PolicyConfig) {s : Numbered}
    (reached : Reachable (numbering config) anyStep s) :
    s.handed.Pairwise (· < ·) ∧ List.Sublist (s.desk.log.map RuntimeEvent.seq) s.handed ∧
      (∀ record ∈ s.desk.compositor.wm.manager.records, ∀ event ∈ s.desk.log,
        event.windowId = some record.id → record.createdSeq < event.seq ∧
          (event.kind = .windowCreated → event.seq = record.createdSeq + 1)) ∧
      (s.desk.outbox = [] →
        (OwnNumber s.desk ↔ s.desk.compositor.wm.manager.records = [])) := by
  have counting := counting_always reached
  have dated := dated_always reached
  have later : ∀ record ∈ s.desk.compositor.wm.manager.records, ∀ event ∈ s.desk.log,
      event.windowId = some record.id → record.createdSeq < event.seq ∧
        (event.kind = .windowCreated → event.seq = record.createdSeq + 1) := by
    intro record member event emitted named
    have placed : Placed s.desk record.id record.createdSeq :=
      dated.placed (record.id, record.createdSeq)
        (@List.mem_map_of_mem _ _ _ _ (fun record => (record.id, record.createdSeq)) member)
    exact placed.later (tag event) (List.mem_append_left _ (List.mem_map_of_mem emitted)) named
  refine ⟨?_, counting.carried, later, fun drained => ⟨fun own => ?_, fun nothing => ?_⟩⟩
  · rw [counting.handed]
    exact List.pairwise_lt_range'
  · rw [List.eq_nil_iff_forall_not_mem]
    intro record member
    obtain ⟨event, emitted, _, named, same⟩ := own 0 record member
    have after := (later record member event emitted named).1
    rw [same] at after
    exact Nat.lt_irrefl _ after
  · intro tsMs record member
    change record ∈ s.desk.compositor.wm.manager.records at member
    rw [nothing] at member
    cases member

/-- A window is mapped after a reservation, then another one. -/
def twoMapped : Numbered :=
  finalState (numbering ⟨1280, 800⟩) anyStep
    ([.command .reserveSeq 0] ++ mapped 1 "a" ++ [.command .reserveSeq 3] ++ mapped 2 "b")
    (by decide +kernel)

theorem creation_number_before_announcement_two :
    twoMapped.handed = [1, 2, 3, 4, 5, 6, 7, 8, 9, 10] ∧
      twoMapped.desk.compositor.wm.manager.records.map WindowRecord.createdSeq = [1, 6] ∧
      ¬ OwnNumber twoMapped.desk := by
  have reached : Reachable (numbering ⟨1280, 800⟩) anyStep twoMapped :=
    final_state_reachable _ _ _ _
  have numbers := (creation_number_before_announcement ⟨1280, 800⟩ reached).2.2.2 (by decide +kernel)
  refine ⟨by decide +kernel, by decide +kernel, fun own => ?_⟩
  have nothing := congrArg (List.map WindowRecord.createdSeq) (numbers.mp own)
  rw [show List.map WindowRecord.createdSeq _ = [1, 6] by decide +kernel] at nothing
  cases nothing

/-- One window is mapped. -/
def oneMapped : Numbered :=
  finalState (numbering ⟨1280, 800⟩) anyStep (mapped 1 "a") (by decide +kernel)

/-- Its creation number is that of no event, while its `WindowCreated` has the number 1. -/
theorem creation_number_of_no_event :
    Reachable (numbering ⟨1280, 800⟩) anyStep oneMapped ∧ oneMapped.desk.outbox = [] ∧
      oneMapped.desk.compositor.wm.manager.records.map WindowRecord.createdSeq = [0] ∧
      oneMapped.desk.log.map (fun event => (event.kind, event.seq)) =
        [(.windowCreated, 1), (.windowActivated, 2), (.focusChanged, 3), (.surfaceCommit, 4)] ∧
      ¬ OwnNumber oneMapped.desk := by
  refine ⟨final_state_reachable _ _ _ _, by decide +kernel, by decide +kernel, by decide +kernel,
    fun own => ?_⟩
  obtain ⟨record, member⟩ : ∃ record, record ∈ oneMapped.desk.compositor.wm.manager.records :=
    List.exists_mem_of_ne_nil _ (by decide +kernel)
  have zero : record.createdSeq = 0 := by
    have inside := List.mem_map_of_mem (f := WindowRecord.createdSeq) member
    rw [show oneMapped.desk.compositor.wm.manager.records.map WindowRecord.createdSeq = [0] by
      decide +kernel] at inside
    exact List.mem_singleton.mp inside
  obtain ⟨event, emitted, _, _, same⟩ := own 0 record member
  have positive : ∀ event ∈ oneMapped.desk.log, 0 < event.seq := by decide +kernel
  exact absurd (positive event emitted) (by rw [same, zero]; exact Nat.lt_irrefl 0)

end ADesk.Compositor.Numbering
