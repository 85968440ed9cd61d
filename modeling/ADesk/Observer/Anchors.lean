/- ADesk/Observer/Anchors
   digest: The watermark an action reads is its filter point for good, in the registry and in every
   wait that names the action. -/

import ADesk.Observer.Invariants

set_option autoImplicit false

namespace ADesk.Observer.Anchors

open ADesk.Core.Ids (ActionId)
open ADesk.Foundation.Execution
open ADesk.Observer.Actions
open ADesk.Observer.Invariants
open ADesk.Observer.Journal
open ADesk.Observer.Spec
open ADesk.Observer.Waiter
open ADesk.Observer.Run
open ADesk.Observer.Steps

/-- The action that a recorder has put into the registry. -/
def registered : ActorPhase → Option ActionId
  | .touching _ _ _ actionId | .recorded actionId => some actionId
  | .idle | .stamped .. | .marked .. => none

/-- The filter point of the action a recorder works on, once it has been read. -/
def anchorOf (s : Run.State) (actor : ℕ) : Option ℕ :=
  match s.actors actor with
  | .marked _ _ _ _ watermark => some watermark
  | .touching _ _ _ actionId | .recorded actionId => s.actions.seqOf actionId
  | .idle | .stamped .. => none

/-- Every wait comes from a request of the protocol. -/
def requested (_ : Run.State) : Label → Prop
  | .runWait .. => False
  | _ => True

/-- A wait that names an action counts from that action's filter point. -/
def Planned (s : Run.State) (plan : WaitPlan) : Prop :=
  ∀ actionId, plan.afterAction = some actionId → ∃ record, s.actions.get actionId = some record ∧
    plan.filters = ⟨plan.windowId, record.seq, none⟩

structure Registered (s : Run.State) : Prop where
  known : ∀ actionId record, s.actions.get actionId = some record →
    actionId.val ≤ s.actions.lastId
  named : ∀ actor actionId, registered (s.actors actor) = some actionId →
    ∃ record, s.actions.get actionId = some record
  waits : ∀ waiter wait, s.waits waiter = .running wait → Planned s wait.plan

private theorem Registered.fresh {s : Run.State} (sound : Registered s) :
    s.actions.get ⟨s.actions.lastId + 1⟩ = none := by
  cases found : s.actions.get ⟨s.actions.lastId + 1⟩ with
  | none => rfl
  | some record =>
    have bound := sound.known _ record found
    exact absurd bound (Nat.not_succ_le_self _)

private theorem record_keeps {s : Run.State} (sound : Registered s) (kind : ActionKind)
    (windowId : Option Core.Ids.WindowId) (position : Option Core.Event.Position) (seq tsMs : ℕ)
    {actionId : ActionId} {record : ActionRecord} (found : s.actions.get actionId = some record) :
    (s.actions.record kind windowId position seq tsMs).1.get actionId = some record := by
  rw [record_get, if_neg, found]
  rintro rfl
  rw [sound.fresh] at found
  cases found

/-- Whatever an environment step does, recorded actions stay as they are. -/
theorem env_step_get {s t : Run.State} {label : Label} (sound : Registered s)
    (moved : EnvStep s label t) {actionId : ActionId} {record : ActionRecord}
    (found : s.actions.get actionId = some record) : t.actions.get actionId = some record := by
  cases moved with
  | recorded actor kind windowId position nowMs watermark =>
    exact record_keeps sound kind windowId position watermark nowMs found
  | ticked | handleBegan | resyncBegan | handled | stale | synced | bumped | stamped | marked
  | touched => exact found

private theorem waits_planned {s t : Run.State} {label : Label} (sound : Registered s)
    (moved : EnvStep s label t) (waiter : ℕ) (wait : Wait)
    (running : t.waits waiter = .running wait) : Planned t wait.plan := by
  rw [env_step_waits moved] at running
  intro actionId names
  obtain ⟨record, found, filters⟩ := sound.waits waiter wait running actionId names
  exact ⟨record, env_step_get sound moved found, filters⟩

private theorem env_step_registered {s t : Run.State} {label : Label} (sound : Registered s)
    (moved : EnvStep s label t) : Registered t := by
  have waits := waits_planned sound moved
  have updated : ∀ (actor : ℕ) (phase : ActorPhase) (other : ℕ) (actionId : ActionId),
      (∀ mine, registered phase = some mine → registered (s.actors actor) = some mine) →
      registered (Function.update s.actors actor phase other) = some actionId →
      ∃ record, s.actions.get actionId = some record := by
    intro actor phase other actionId kept names
    by_cases same : other = actor
    · subst same
      rw [Function.update_self] at names
      exact sound.named _ actionId (kept actionId names)
    · rw [Function.update_of_ne same] at names
      exact sound.named other actionId names
  cases moved with
  | ticked | handleBegan | resyncBegan | handled | stale | synced | bumped =>
    exact ⟨sound.known, sound.named, waits⟩
  | stamped actor kind windowId position =>
    exact ⟨sound.known, (fun other actionId => updated actor _ other actionId
      (fun _ none => by cases none)), waits⟩
  | marked actor kind windowId position nowMs acting =>
    exact ⟨sound.known, (fun other actionId => updated actor _ other actionId
      (fun _ none => by cases none)), waits⟩
  | touched actor kind windowId nowMs actionId acting =>
    exact ⟨sound.known, (fun other named => updated actor _ other named
      (fun _ same => by rw [acting]; exact same)), waits⟩
  | recorded actor kind windowId position nowMs watermark next acting after =>
    refine ⟨fun actionId record found => ?_, fun other actionId names => ?_, waits⟩
    · rw [record_get] at found
      split at found
      · next same => exact same ▸ Nat.le_refl _
      · exact Nat.le_succ_of_le (sound.known actionId record found)
    · change registered (Function.update s.actors actor next other) = some actionId at names
      by_cases same : other = actor
      · subst same
        rw [Function.update_self] at names
        have fresh : actionId = ⟨s.actions.lastId + 1⟩ := by
          rcases after with ⟨touched, _, rfl⟩ | ⟨_, rfl⟩ <;> cases names <;> rfl
        exact ⟨_, by rw [record_get, if_pos fresh]⟩
      · rw [Function.update_of_ne same] at names
        obtain ⟨record, found⟩ := sound.named other actionId names
        exact ⟨record, record_keeps sound kind windowId position watermark nowMs found⟩

private theorem wait_move_planned {s : Run.State} {label : Label} (ok : requested s label)
    {old new : WaitTask} (moved : WaitMove s label old new)
    (planned : ∀ wait, old = .running wait → Planned s wait.plan) :
    ∀ wait, new = .running wait → Planned s wait.plan := by
  intro wait running
  cases moved with
  | called => cases running
  | refused => cases running
  | begun waiter plan direct =>
    subst direct
    exact ok.elim
  | planned request startedAt plan chosen =>
    cases running
    intro actionId names
    have anchored := plan_request_anchored chosen
    change plan.afterAction = some actionId at names
    simp only [Anchored, names] at anchored
    exact anchored
  | walked before | subscribed before | absorbed before | woken before | resolved before
  | released before =>
    cases running
    exact planned before rfl

theorem step_registered {s t : Run.State} {label : Label} (sound : Registered s)
    (ok : requested s label) (taken : step s label = some t) : Registered t := by
  rcases step_cases taken with moved | ⟨waiter, task, ⟨service, pending, rfl⟩, moved⟩
  · exact env_step_registered sound moved
  · refine ⟨sound.known, sound.named, fun other wait running => ?_⟩
    change Function.update s.waits waiter task other = .running wait at running
    by_cases same : other = waiter
    · subst same
      rw [Function.update_self] at running
      exact wait_move_planned ok moved (fun before old => sound.waits other before old) wait running
    · rw [Function.update_of_ne same] at running
      exact sound.waits other wait running

theorem registered_of_reachable {s : Run.State} (reached : Reachable machine requested s) :
    Registered s := by
  refine Inductive.holds (P := Registered) ⟨⟨?_, ?_, ?_⟩, ?_⟩ reached
  · intro actionId record found
    change ActionRegistry.new.get actionId = some record at found
    rw [new_get] at found
    cases found
  · intro actor actionId names
    cases names
  · intro waiter wait running
    cases running
  · intro before after label sound ok taken
    exact step_registered sound ok taken

/-! ## Anchors -/

private theorem anchor_of_congr {s t : Run.State} {actor : ℕ}
    (actors : t.actors actor = s.actors actor)
    (actions : ∀ actionId, registered (s.actors actor) = some actionId →
      t.actions.seqOf actionId = s.actions.seqOf actionId) :
    anchorOf t actor = anchorOf s actor := by
  unfold anchorOf
  rw [actors]
  cases acting : s.actors actor with
  | idle | stamped | marked => rfl
  | touching kind windowId nowMs actionId => exact actions actionId (by rw [acting]; rfl)
  | recorded actionId => exact actions actionId (by rw [acting]; rfl)

/-- Putting the action into the registry keeps its filter point. -/
private theorem recorded_anchor {s t : Run.State} (sound : Registered s) {actor : ℕ}
    {kind : ActionKind} {windowId : Option Core.Ids.WindowId}
    {position : Option Core.Event.Position} {nowMs watermark : ℕ} {next : ActorPhase}
    (acting : s.actors actor = .marked kind windowId position nowMs watermark)
    (named : registered next = some ⟨s.actions.lastId + 1⟩)
    (actions : t.actions = (s.actions.record kind windowId position watermark nowMs).1)
    (actors : t.actors = Function.update s.actors actor next) (other : ℕ) :
    anchorOf t other = anchorOf s other := by
  by_cases same : other = actor
  · subst same
    have point : t.actions.seqOf ⟨s.actions.lastId + 1⟩ = some watermark := by
      rw [actions, ActionRegistry.seqOf, record_get, if_pos rfl, Option.map_some]
    have after : anchorOf t other = t.actions.seqOf ⟨s.actions.lastId + 1⟩ := by
      unfold anchorOf
      rw [actors, Function.update_self]
      cases next <;> cases named <;> rfl
    rw [after, point]
    simp only [anchorOf, acting]
  · refine anchor_of_congr (by rw [actors, Function.update_of_ne same]) fun actionId names => ?_
    obtain ⟨record, found⟩ := sound.named other actionId names
    simp only [ActionRegistry.seqOf, actions, found,
      record_keeps sound kind windowId position watermark nowMs found]

/-- A step keeps every filter point, but for the one step of an action that reads its own. -/
private theorem env_step_anchor {s t : Run.State} {label : Label} (sound : Registered s)
    (moved : EnvStep s label t) (actor : ℕ) :
    anchorOf t actor = anchorOf s actor ∨
      (anchorOf s actor = none ∧ label = .actorStep actor ∧
        (∃ kind windowId position nowMs, s.actors actor = .stamped kind windowId position nowMs) ∧
        anchorOf t actor = some s.service.watermark) := by
  have updated : ∀ (moving : ℕ) (phase : ActorPhase),
      (actor = moving → anchorOf { s with actors := Function.update s.actors moving phase } actor =
        anchorOf s actor) →
      anchorOf { s with actors := Function.update s.actors moving phase } actor =
        anchorOf s actor := by
    intro moving phase mine
    by_cases same : actor = moving
    · exact mine same
    · exact anchor_of_congr (Function.update_of_ne same _ _) fun _ _ => rfl
  cases moved with
  | ticked | handleBegan | resyncBegan | handled | stale | synced | bumped => exact Or.inl rfl
  | stamped moving kind windowId position idle =>
    refine Or.inl (updated moving _ ?_)
    rintro rfl
    simp [anchorOf, idle]
  | marked moving kind windowId position nowMs acting =>
    by_cases same : actor = moving
    · subst same
      refine Or.inr ⟨by simp [anchorOf, acting], rfl, ⟨_, _, _, _, acting⟩, ?_⟩
      simp [anchorOf]
    · exact Or.inl (updated moving _ fun equal => absurd equal same)
  | touched moving kind windowId nowMs actionId acting =>
    refine Or.inl (updated moving (.recorded actionId) ?_)
    rintro rfl
    simp [anchorOf, acting]
  | recorded moving kind windowId position nowMs watermark next acting after =>
    refine Or.inl (recorded_anchor sound acting ?_ rfl rfl actor)
    rcases after with ⟨touched, _, rfl⟩ | ⟨_, rfl⟩ <;> rfl

private theorem step_anchor {s t : Run.State} {label : Label} (sound : Registered s)
    (taken : step s label = some t) (actor : ℕ) :
    anchorOf t actor = anchorOf s actor ∨
      (anchorOf s actor = none ∧ label = .actorStep actor ∧
        (∃ kind windowId position nowMs, s.actors actor = .stamped kind windowId position nowMs) ∧
        anchorOf t actor = some s.service.watermark) := by
  rcases step_cases taken with moved | ⟨waiter, task, ⟨service, pending, rfl⟩, _⟩
  · exact env_step_anchor sound moved actor
  · exact Or.inl rfl

/-- An action's filter point never changes. -/
theorem anchor_kept {s t : Run.State} {label : Label} (sound : Registered s)
    (taken : step s label = some t) {actor anchor : ℕ} (anchored : anchorOf s actor = some anchor) :
    anchorOf t actor = some anchor := by
  rcases step_anchor sound taken actor with same | ⟨unread, _⟩
  · rw [same, anchored]
  · rw [anchored] at unread
    cases unread

/-- An action takes its filter point from the watermark. -/
theorem anchor_read {s t : Run.State} {label : Label} (sound : Registered s)
    (taken : step s label = some t) {actor anchor : ℕ} (anchored : anchorOf t actor = some anchor) :
    anchorOf s actor = some anchor ∨
      (label = .actorStep actor ∧
        (∃ kind windowId position nowMs, s.actors actor = .stamped kind windowId position nowMs) ∧
        anchor = s.service.watermark) := by
  rcases step_anchor sound taken actor with same | ⟨_, moved, acting, read⟩
  · exact Or.inl (same ▸ anchored)
  · rw [anchored] at read
    cases read
    exact Or.inr ⟨moved, acting, rfl⟩

/-- A wait that names an action absorbs nothing at or below the action's filter point. -/
theorem absorbed_above_anchor {s : Run.State} (reached : Reachable machine requested s)
    {waiter : ℕ} {wait : Wait} (running : s.waits waiter = .running wait) {actionId : ActionId}
    (names : wait.plan.afterAction = some actionId) {record : ActionRecord}
    (found : s.actions.get actionId = some record) {event : CountedEvent}
    (absorbed : event ∈ wait.absorbed.map Prod.fst) : record.seq < event.seq := by
  obtain ⟨other, same, filters⟩ := (registered_of_reachable reached).waits waiter wait running
    actionId names
  rw [found] at same
  cases same
  rw [((sound_of_reachable reached).waits waiter wait running).counted] at absorbed
  have counted := (List.mem_filter.mp absorbed).2
  have above := counts_above_minSeq counted
  rw [filters] at above
  exact above

end ADesk.Observer.Anchors
