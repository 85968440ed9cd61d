/- ADesk/Runtime/Causality
   digest: The filter point of an action cuts the event stream where the pump stood when the action
   read it: what the action causes lies above it, and what lay in the backlog does too. -/

import ADesk.Runtime.Horizon
import ADesk.Runtime.Views

set_option autoImplicit false

namespace ADesk.Runtime.Causality

open ADesk.Core.Event
open ADesk.Foundation.Execution
open ADesk.Foundation.LogCut
open ADesk.Core.Ids (ActionId WindowId)
open ADesk.Observer.Actions (ActionRecord ActionRegistry)
open ADesk.Observer.Anchors
open ADesk.Observer.Journal (CountedEvent from_runtime_event_isSome from_runtime_event_seq
  from_runtime_event_window)
open ADesk.Observer.Sections (Tracked)
open ADesk.Observer.Spec
open ADesk.Observer.Waiter
open ADesk.Core.Geometry (Region)
open ADesk.Observer.Steps (runningWait running_wait_running)
open ADesk.Wm.Policy (PolicyConfig)
open ADesk.Compositor.Bridge (Surface)
open ADesk.Compositor.Events
open ADesk.Compositor.State
open ADesk.Runtime.Run
open ADesk.Runtime.Sequence
open ADesk.Runtime.Steps
open ADesk.Runtime.Horizon
open ADesk.Runtime.Views

/-! ## Handlers -/

/-- A handler's positions in the stream of the given length. -/
structure HandlerSound (length : ℕ) (handler : Handler) : Prop where
  inside : handler.horizonAt ≤ length
  unserved : handler.phase = .recording → handler.servedAt = []
  served : ∀ position ∈ handler.servedAt, handler.horizonAt ≤ position

def HandlersSound (s : State) : Prop :=
  ∀ id handler, s.handlers id = some handler → HandlerSound s.log.length handler

private theorem HandlerSound.longer {length more : ℕ} {handler : Handler}
    (sound : HandlerSound length handler) (grown : length ≤ more) : HandlerSound more handler :=
  ⟨sound.inside.trans grown, sound.unserved, sound.served⟩

private theorem HandlerSound.walked {length : ℕ} {handler : Handler}
    (sound : HandlerSound length handler) {phase : HandlerPhase} (working : phase ≠ .recording) :
    HandlerSound length { handler with phase := phase } :=
  ⟨sound.inside, fun recording => absurd recording working, sound.served⟩

private theorem HandlerSound.noted {length : ℕ} {handler : Handler}
    (sound : HandlerSound length handler) : HandlerSound length (handler.noteServed length) := by
  unfold Handler.noteServed
  split
  · next actionId commanded =>
    refine ⟨sound.inside, fun recording => ?_, fun position member => ?_⟩
    · change handler.phase = .recording at recording
      rw [commanded] at recording
      cases recording
    · rcases List.mem_append.mp member with old | new
      · exact sound.served position old
      · rw [List.mem_singleton.mp new]
        exact sound.inside
  · exact sound

/-- A reply leaves the positions of its handler alone. -/
theorem answer_positions {handler after : Handler} {reply : Reply} {next : Option Command}
    (answer : handler.answer reply = some (after, next)) :
    after.horizonAt = handler.horizonAt ∧ after.calledAt = handler.calledAt ∧
      after.servedAt = handler.servedAt ∧ after.phase ≠ .recording := by
  unfold Handler.answer at answer
  split at answer
  · cases answer
    refine ⟨rfl, rfl, rfl, ?_⟩
    dsimp only
    split <;> exact fun other => by cases other
  · cases answer
    exact ⟨rfl, rfl, rfl, fun other => by cases other⟩
  · cases answer
    exact ⟨rfl, rfl, rfl, fun other => by cases other⟩
  · cases answer

private theorem HandlersSound.set {s base : State} (sound : HandlersSound s)
    (handlers : base.handlers = s.handlers) (length : s.log.length ≤ base.log.length) {id : ℕ}
    {handler : Handler} (new : HandlerSound base.log.length handler) :
    HandlersSound (base.setHandler id handler) := by
  intro other found same
  change Function.update base.handlers id (some handler) other = some found at same
  by_cases mine : other = id
  · subst mine
    rw [Function.update_self] at same
    cases same
    exact new
  · rw [Function.update_of_ne mine, handlers] at same
    exact (sound other found same).longer length

theorem move_handlers {s t : State} {label : Label} (accounted : Accounted s)
    (sound : HandlersSound s) (moved : Move s label t) : HandlersSound t := by
  have inside := accounted.cut.inside
  have started : ∀ (request : Request) (phase : HandlerPhase),
      HandlerSound s.log.length ⟨request, phase, none, s.log.length, s.horizon, []⟩ :=
    fun request phase => ⟨inside, fun _ => rfl, fun _ member => by cases member⟩
  have sent : ∀ event, s.log.length ≤ (s.channel.send event).sent.length := by
    intro event
    simp [Foundation.Broadcast.Channel.send, State.log]
  cases moved with
  | ticked | client | answered | lagged | received | sectioned | bumped | inboxed | inboxBumped
  | resyncBegan | resyncDone | waited | inboxWaited => exact sound
  | emitted emission => exact fun id handler found => (sound id handler found).longer (sent _)
  | served requester =>
    intro id handler found
    cases requester with
    | pump => exact sound id handler found
    | handler other =>
      change Function.update s.handlers other _ id = some handler at found
      by_cases same : id = other
      · subst same
        rw [Function.update_self] at found
        obtain ⟨before, old, rfl⟩ := Option.map_eq_some_iff.mp found
        exact (sound id before old).noted
      · rw [Function.update_of_ne same] at found
        exact sound id handler found
  | replied id handler after reply next drained serving found answer =>
    obtain ⟨horizon, _, served, working⟩ := answer_positions answer
    have old := sound id handler found
    refine sound.set rfl (Nat.le_refl _) ⟨?_, fun recording => absurd recording working, ?_⟩
    · rw [horizon]
      exact old.inside
    · rw [horizon, served]
      exact old.served
  | synthesizing => exact sound.set rfl (Nat.le_refl _) (started _ _)
  | actionBegan => exact sound.set rfl (Nat.le_refl _) (started _ _)
  | actionStepped id handler horizonAt observer found recording marks stepped =>
    have old := sound id handler found
    have none := old.unserved recording
    refine sound.set rfl (Nat.le_refl _) ⟨?_, fun _ => none, ?_⟩
    · rcases marks with ⟨_, _, _, _, _, rfl⟩ | ⟨_, rfl⟩
      · exact inside
      · exact old.inside
    · change ∀ position ∈ handler.servedAt, _
      rw [none]
      exact fun _ member => by cases member
  | actionRecorded id handler actionId found =>
    exact sound.set rfl (Nat.le_refl _) ((sound id handler found).walked fun other => by cases other)
  | clockRead id handler synthesis seq tsMs found =>
    exact sound.set rfl (Nat.le_refl _) ((sound id handler found).walked fun other => by cases other)
  | issued id handler actionId command found =>
    exact sound.set rfl (Nat.le_refl _) ((sound id handler found).walked fun other => by cases other)
  | finished id handler actionId found =>
    exact sound.set rfl (Nat.le_refl _) ((sound id handler found).walked fun other => by cases other)
  | published id handler synthesis seq tsMs found =>
    have grown := sent (synthesis.event seq tsMs)
    exact @HandlersSound.set s { s with channel := s.channel.send (synthesis.event seq tsMs) } sound
      rfl grown id _ (((sound id handler found).longer grown).walked fun other => by cases other)
  | refused id handler synthesis seq tsMs found =>
    exact sound.set rfl (Nat.le_refl _) ((sound id handler found).walked fun other => by cases other)

theorem handlers_sound_of_reachable {config : PolicyConfig} {slots inboxCapacity : ℕ}
    {allowed : State → Label → Prop} {s : State}
    (reached : Reachable (machine config slots inboxCapacity) allowed s) : HandlersSound s := by
  refine invariant_relative (P := HandlersSound) (Q := Accounted) accounted_of_reachable
    (fun _ _ found => (by cases found)) ?_ reached
  intro before after label accounted _ sound _ taken
  exact move_handlers accounted sound (step_move taken)

/-! ## Filter points -/

/-- The filter point of an action and the horizon of its handler cut the stream. -/
structure Cutting (s : State) (id anchor : ℕ) : Prop where
  cut : ∃ handler, s.handlers id = some handler ∧ StreamCut s.log handler.horizonAt anchor
  allocated : anchor ≤ lastSeq s

def AnchorsCut (s : State) : Prop :=
  ∀ id anchor, anchorOf s.observer id = some anchor → Cutting s id anchor

/-- Handlers never disappear, and only reading the watermark moves their horizon. -/
theorem move_horizon {s t : State} {label : Label} (moved : Move s label t) {id : ℕ}
    {handler : Handler} (found : s.handlers id = some handler)
    (read : ∀ kind windowId position nowMs,
      s.observer.actors id ≠ .stamped kind windowId position nowMs) :
    ∃ after, t.handlers id = some after ∧ after.horizonAt = handler.horizonAt := by
  have replaced : ∀ (base : State) (other : ℕ) (new : Handler), base.handlers = s.handlers →
      (id = other → new.horizonAt = handler.horizonAt) →
      ∃ after, (base.setHandler other new).handlers id = some after ∧
        after.horizonAt = handler.horizonAt := by
    intro base other new handlers mine
    by_cases same : id = other
    · refine ⟨new, ?_, mine same⟩
      rw [same]
      exact Function.update_self ..
    · refine ⟨handler, ?_, rfl⟩
      change Function.update base.handlers other (some new) id = some handler
      rw [Function.update_of_ne same, handlers, found]
  have unchanged : ∀ {other : ℕ} {old : Handler}, s.handlers other = some old → id = other →
      old.horizonAt = handler.horizonAt := by
    rintro other old current rfl
    rw [found] at current
    cases current
    rfl
  have unused : ∀ {other : ℕ} {new : Handler}, s.handlers other = none → id = other →
      new.horizonAt = handler.horizonAt := by
    rintro other new free rfl
    rw [found] at free
    cases free
  have walked : ∀ {base : State} {other : ℕ} {old : Handler} {phase : HandlerPhase},
      base.handlers = s.handlers → s.handlers other = some old →
      ∃ after, (base.setHandler other { old with phase := phase }).handlers id = some after ∧
        after.horizonAt = handler.horizonAt :=
    fun handlers current => replaced _ _ _ handlers fun same =>
      have horizon := unchanged current same
      horizon
  cases moved with
  | ticked | client | emitted | answered | lagged | received | sectioned | bumped | inboxed
  | inboxBumped | resyncBegan | resyncDone | waited | inboxWaited => exact ⟨handler, found, rfl⟩
  | served requester =>
    cases requester with
    | pump => exact ⟨handler, found, rfl⟩
    | handler other =>
      by_cases same : id = other
      · refine ⟨handler.noteServed s.log.length, ?_, ?_⟩
        · change Function.update s.handlers other _ id = _
          rw [← same, Function.update_self, found, Option.map_some]
        · unfold Handler.noteServed
          split <;> rfl
      · refine ⟨handler, ?_, rfl⟩
        change Function.update s.handlers other _ id = _
        rw [Function.update_of_ne same, found]
  | replied other old after reply next drained serving current answer =>
    exact replaced _ other after rfl fun same =>
      (answer_positions answer).1.trans (unchanged current same)
  | synthesizing other synthesis phase command free => exact replaced _ other _ rfl (unused free)
  | actionBegan other request kind windowId position observer free =>
    exact replaced _ other _ rfl (unused free)
  | actionStepped other old horizonAt observer current recording marks =>
    refine replaced _ other _ rfl fun same => ?_
    rcases marks with ⟨kind, windowId, position, nowMs, acting, _⟩ | ⟨_, rfl⟩
    · exact absurd (same ▸ acting) (read kind windowId position nowMs)
    · exact unchanged current same
  | actionRecorded other old actionId current => exact walked rfl current
  | clockRead other old synthesis seq tsMs current => exact walked rfl current
  | issued other old actionId command current => exact walked rfl current
  | finished other old actionId current => exact walked rfl current
  | published other old synthesis seq tsMs current => exact walked rfl current
  | refused other old synthesis seq tsMs current => exact walked rfl current

theorem move_anchors {s t : State} {label : Label} (accounted : Accounted s)
    (registered : Registered s.observer) (cutting : AnchorsCut s)
    (moved : Move s label t) : AnchorsCut t := by
  obtain ⟨grown, last⟩ := move_log moved
  have kept : ∀ id anchor, Cutting s id anchor →
      (∀ kind windowId position nowMs,
        s.observer.actors id ≠ .stamped kind windowId position nowMs) → Cutting t id anchor := by
    intro id anchor ⟨⟨handler, found, cut⟩, allocated⟩ read
    obtain ⟨after, survives, horizon⟩ := move_horizon moved found read
    refine ⟨⟨after, survives, ?_⟩, allocated.trans last⟩
    rw [horizon]
    exact grown.cut cut allocated
  have unread : ∀ {id anchor : ℕ}, anchorOf s.observer id = some anchor →
      ∀ kind windowId position nowMs,
        s.observer.actors id ≠ .stamped kind windowId position nowMs := by
    intro id anchor anchored kind windowId position nowMs acting
    simp [anchorOf, acting] at anchored
  intro id anchor anchored
  rcases move_observer moved with same | ⟨inner, ok, actor, stepped⟩
  · rw [same] at anchored
    exact kept id anchor (cutting id anchor anchored) (unread anchored)
  · rcases anchor_read registered stepped anchored with old | ⟨reading, ⟨_, _, _, _, acting⟩, rfl⟩
    · exact kept id anchor (cutting id anchor old) (unread old)
    · -- The action reads the watermark, which cuts the stream at the pump's horizon.
      have cut := accounted.cut
      obtain rfl := actor id reading
      cases moved with
      | actionStepped _ handler horizonAt observer found recording marks =>
        refine ⟨⟨_, Function.update_self .., ?_⟩, accounted.allocated.trans last⟩
        rcases marks with ⟨_, _, _, _, _, rfl⟩ | ⟨other, _⟩
        · exact cut
        · exact absurd acting (other _ _ _ _)
      | actionRecorded _ handler actionId found recording recorded =>
        rw [acting] at recorded
        cases recorded
      | clockRead =>
        change anchorOf s.observer id = _ at anchored
        simp [anchorOf, acting] at anchored

theorem anchors_cut_of_reachable {config : PolicyConfig} {slots inboxCapacity : ℕ}
    {allowed : State → Label → Prop} {s : State}
    (reached : Reachable (machine config slots inboxCapacity) allowed s) : AnchorsCut s := by
  refine invariant_relative (P := AnchorsCut) (Q := fun s => Accounted s ∧ Registered s.observer)
    (fun reached => ⟨accounted_of_reachable reached,
      registered_of_reachable (observer_reachable reached)⟩)
    (fun id anchor anchored => by cases anchored) ?_ reached
  intro before after label ⟨accounted, registered⟩ _ cutting _ taken
  exact move_anchors accounted registered cutting (step_move taken)

/-! ## Actions and what they cause -/

/-- The recorded action of a handler, with its cut of the stream. -/
theorem recorded_cut {config : PolicyConfig} {slots inboxCapacity : ℕ} {s : State}
    (reached : Reachable (machine config slots inboxCapacity) anyStep s) {id : ℕ}
    {handler : Handler} (found : s.handlers id = some handler) {actionId : ActionId}
    (recorded : s.observer.actors id = .recorded actionId) :
    ∃ record, s.observer.actions.get actionId = some record ∧
      StreamCut s.log handler.horizonAt record.seq := by
  obtain ⟨record, lookup⟩ := (registered_of_reachable (observer_reachable reached)).named id
    actionId (by rw [recorded]; rfl)
  have anchored : anchorOf s.observer id = some record.seq := by
    simp only [anchorOf, recorded, ActionRegistry.seqOf, lookup, Option.map_some]
  obtain ⟨⟨other, same, cut⟩, _⟩ := anchors_cut_of_reachable reached id record.seq anchored
  rw [found] at same
  cases same
  exact ⟨record, lookup, cut⟩

/-- A plan that names an action counts by the action's number and the window alone. -/
theorem action_plan_counts {actions : ActionRegistry} {watermark startedAt : ℕ}
    {request : WaitRequest} {plan : WaitPlan}
    (planned : planRequest actions watermark request startedAt = .ok plan) {actionId : ActionId}
    (names : plan.afterAction = some actionId) {record : ActionRecord}
    (lookup : actions.get actionId = some record) (event : CountedEvent) :
    plan.filters.counts event = true ↔ record.seq < event.seq ∧
      ∀ wanted, plan.windowId = some wanted → event.windowId = some wanted := by
  have anchored := plan_request_anchored planned
  simp only [Anchored, names] at anchored
  obtain ⟨other, same, filters⟩ := anchored
  rw [lookup] at same
  cases same
  rw [filters]
  exact counts_without_since_commit plan.windowId record.seq event

/-- Whatever the compositor sends from the moment it serves a command of an action lies above the
action's number, so no wait after the action filters it out by sequence. -/
theorem effects_follow_action {config : PolicyConfig} {slots inboxCapacity : ℕ} {s : State}
    (reached : Reachable (machine config slots inboxCapacity) anyStep s) {id : ℕ}
    {handler : Handler} (found : s.handlers id = some handler) {actionId : ActionId}
    (recorded : s.observer.actors id = .recorded actionId) :
    ∃ record, s.observer.actions.get actionId = some record ∧
      ∀ served ∈ handler.servedAt, ∀ event ∈ s.log.drop served,
        event.kind.synthesized = false → record.seq < event.seq ∧
          ∀ watermark request startedAt plan counted,
            planRequest s.observer.actions watermark request startedAt = .ok plan →
            plan.afterAction = some actionId →
            (∀ wanted, plan.windowId = some wanted → event.windowId = some wanted) →
            CountedEvent.fromRuntimeEvent event = some counted →
            plan.filters.counts counted = true := by
  obtain ⟨record, lookup, cut⟩ := recorded_cut reached found recorded
  refine ⟨record, lookup, fun served member event inside native => ?_⟩
  have after := (handlers_sound_of_reachable reached id handler found).served served member
  have above : record.seq < event.seq :=
    cut.above event ((List.drop_sublist_drop_left s.log after).subset inside) native
  refine ⟨above, fun watermark request startedAt plan counted planned names window reduced => ?_⟩
  rw [action_plan_counts planned names lookup, from_runtime_event_seq reduced,
    from_runtime_event_window reduced]
  exact ⟨above, window⟩

/-- Of two windows, the first is activated while the pump lags behind. -/
def activatedRun : List Label :=
  mapped 1 ++ mapped 2 ++ pumped ++ .request 0 (.activateWindow ⟨1⟩) ::
    List.replicate 4 (.handlerStep 0) ++ [.issue 0 (.activateWindow ⟨1⟩), .serve, .emit, .emit]

def activatedState : State :=
  finalState (machine ⟨1280, 720⟩ 8 8) anyStep activatedRun (by decide +kernel)

private theorem activated_handler : (activatedState.handlers 0).isSome = true := by
  decide +kernel

theorem effects_follow_action_activated :
    ∃ record, activatedState.observer.actions.get ⟨1⟩ = some record ∧ record.seq < 9 := by
  obtain ⟨record, lookup, effects⟩ := effects_follow_action
    (final_state_reachable (machine ⟨1280, 720⟩ 8 8) anyStep activatedRun (by decide +kernel))
    (Option.some_get activated_handler).symm (show activatedState.observer.actors 0 =
      .recorded ⟨1⟩ by decide +kernel)
  have above := (effects 8 (by decide +kernel) (.windowActivated 9 0 ⟨1⟩ (some ⟨2⟩))
    (by decide +kernel) rfl).1
  exact ⟨record, lookup, above⟩

/-! ## Actions and the backlog before them -/

/-- When the action read its filter point, the pump had accounted for every compositor event that
had been sent when `record_action` was called. -/
def CaughtUp (log : List RuntimeEvent) (handler : Handler) : Prop :=
  ∀ index event, index < handler.calledAt → log[index]? = some event →
    event.kind.synthesized = false → index < handler.horizonAt

/-- An event that a wait counts, sent by the compositor before `record_action` was called. -/
def Earlier (log : List RuntimeEvent) (handler : Handler) (counted : CountedEvent) : Prop :=
  ∃ event ∈ log.take handler.calledAt, CountedEvent.fromRuntimeEvent event = some counted

private theorem earlier_below {log : List RuntimeEvent} {handler : Handler}
    {anchor : ℕ} (cut : StreamCut log handler.horizonAt anchor) (caught : CaughtUp log handler)
    {counted : CountedEvent} (earlier : Earlier log handler counted) : counted.seq ≤ anchor := by
  obtain ⟨event, member, reduced⟩ := earlier
  obtain ⟨index, found⟩ := List.mem_iff_getElem?.mp member
  have native : event.kind.synthesized = false := by
    have counts := from_runtime_event_isSome event
    simpa [reduced] using counts
  have before : index < handler.calledAt := by
    have bound := (List.getElem?_eq_some_iff.mp found).1
    rw [List.length_take] at bound
    omega
  rw [List.getElem?_take_of_lt before] at found
  rw [from_runtime_event_seq reduced]
  refine cut.below event (List.mem_of_getElem? (i := index) ?_)
  rw [List.getElem?_take_of_lt (caught index event before found native), found]

/-- The waits after an action leave the events before it out exactly when the pump had caught up
with them. -/
theorem backlog_excluded_iff {config : PolicyConfig} {slots inboxCapacity : ℕ} {s : State}
    (reached : Reachable (machine config slots inboxCapacity) anyStep s) {id : ℕ}
    {handler : Handler} (found : s.handlers id = some handler) {actionId : ActionId}
    (recorded : s.observer.actors id = .recorded actionId) :
    (CaughtUp s.log handler ↔
      ∀ watermark request startedAt plan counted,
        planRequest s.observer.actions watermark request startedAt = .ok plan →
        plan.afterAction = some actionId → Earlier s.log handler counted →
        plan.filters.counts counted = false) ∧
    (CaughtUp s.log handler → ∀ waiter wait, runningWait s.observer waiter = some wait →
      wait.plan.afterAction = some actionId →
      ∀ counted ∈ wait.absorbed.map Prod.fst, ¬ Earlier s.log handler counted) := by
  obtain ⟨record, lookup, cut⟩ := recorded_cut reached found recorded
  refine ⟨⟨fun caught watermark request startedAt plan counted planned names earlier => ?_,
    fun excluded index event before sent native => ?_⟩,
    fun caught waiter wait running names counted member earlier => ?_⟩
  · have below := earlier_below cut caught earlier
    by_contra counts
    have above := ((action_plan_counts planned names lookup counted).mp
      (Bool.not_eq_false _ ▸ counts)).1
    omega
  · -- An event ahead of the horizon is counted by the widest wait after the action.
    by_contra ahead
    obtain ⟨counted, reduced⟩ := Option.isSome_iff_exists.mp
      ((from_runtime_event_isSome event).trans (congrArg not native))
    have planned : planRequest s.observer.actions 0 (.observe { afterAction := some actionId }) 0 =
        .ok ⟨none, some actionId, ⟨none, record.seq, none⟩, .quiet defaultQuietMs, defaultTimeoutMs,
          record.tsMs, 0⟩ := by
      simp only [planRequest, actionAnchor, lookup]
      rfl
    have above : record.seq < counted.seq := by
      rw [from_runtime_event_seq reduced]
      refine cut.above event (List.mem_of_getElem? (i := index - handler.horizonAt) ?_) native
      rw [List.getElem?_drop, ← sent]
      congr 1
      omega
    have earlier : Earlier s.log handler counted :=
      ⟨event, List.mem_of_getElem? (i := index) (by rw [List.getElem?_take_of_lt before, sent]),
        reduced⟩
    have counts := (action_plan_counts planned rfl lookup counted).mpr
      ⟨above, fun _ wanted => by cases wanted⟩
    rw [excluded 0 _ 0 _ counted planned rfl earlier] at counts
    cases counts
  · have below := earlier_below cut caught earlier
    have above := absorbed_above_anchor (observer_reachable reached) (running_wait_running running)
      names lookup member
    omega

private def clicked : List Label :=
  .request 0 (.input .click none none) :: List.replicate 3 (.handlerStep 0)

private def awaited : List Label :=
  .wait (.callWait 0 (.observe { afterAction := some ⟨1⟩ })) ::
    List.replicate 7 (.wait (.waitStep 0))

/-- The pump handles the four events of a window before the click, and a wait absorbs after it. -/
def caughtUpRun : List Label :=
  mapped 1 ++ pumped ++ pumped ++ pumped ++ pumped ++ clicked ++ awaited

def caughtUpState : State :=
  finalState (machine ⟨1280, 720⟩ 8 8) anyStep caughtUpRun (by decide +kernel)

private theorem caught_up_handler : (caughtUpState.handlers 0).isSome = true := by
  decide +kernel

private theorem caught_up_wait : (runningWait caughtUpState.observer 0).isSome = true := by
  decide +kernel

theorem backlog_excluded_iff_caught_up :
    ∃ handler wait, caughtUpState.handlers 0 = some handler ∧
      runningWait caughtUpState.observer 0 = some wait ∧
      ∀ counted ∈ wait.absorbed.map Prod.fst, ¬ Earlier caughtUpState.log handler counted := by
  have excluded := (backlog_excluded_iff
    (final_state_reachable (machine ⟨1280, 720⟩ 8 8) anyStep caughtUpRun (by decide +kernel))
    (Option.some_get caught_up_handler).symm (show caughtUpState.observer.actors 0 =
      .recorded ⟨1⟩ by decide +kernel)).2
  refine ⟨_, _, (Option.some_get caught_up_handler).symm, (Option.some_get caught_up_wait).symm,
    excluded ?_ 0 _ (Option.some_get caught_up_wait).symm (by decide +kernel)⟩
  intro index event before _ _
  have called : ((caughtUpState.handlers 0).get caught_up_handler).calledAt =
      ((caughtUpState.handlers 0).get caught_up_handler).horizonAt := by decide +kernel
  omega

/-- The click is recorded while the four events are still queued; one is then counted. -/
def backlogRun : List Label := mapped 1 ++ clicked ++ pumped ++ awaited

def backlogState : State :=
  finalState (machine ⟨1280, 720⟩ 8 8) anyStep backlogRun (by decide +kernel)

private theorem backlog_handler : (backlogState.handlers 0).isSome = true := by
  decide +kernel

private theorem backlog_wait : (runningWait backlogState.observer 0).isSome = true := by
  decide +kernel

theorem backlog_counted :
    ¬ ∀ (s : State) (handler : Handler) (actionId : ActionId) (wait : Observer.Run.Wait),
      Reachable (machine ⟨1280, 720⟩ 8 8) anyStep s → s.handlers 0 = some handler →
      s.observer.actors 0 = .recorded actionId → runningWait s.observer 0 = some wait →
      wait.plan.afterAction = some actionId →
      ∀ counted ∈ wait.absorbed.map Prod.fst, ¬ Earlier s.log handler counted := by
  intro claimed
  refine claimed backlogState _ ⟨1⟩ _
    (final_state_reachable (machine ⟨1280, 720⟩ 8 8) anyStep backlogRun (by decide +kernel))
    (Option.some_get backlog_handler).symm (by decide +kernel)
    (Option.some_get backlog_wait).symm (by decide +kernel)
    ⟨1, 0, some ⟨1⟩, .created⟩ (by decide +kernel)
    ⟨.windowCreated 1 0 ⟨1⟩ none none none none, by decide +kernel, rfl⟩

/-! ## Actions and the windows they name -/

/-- `activate_window` names a window that never existed. -/
def rejectedRun : List Label :=
  .request 0 (.activateWindow ⟨99⟩) :: List.replicate 4 (.handlerStep 0) ++
    [.issue 0 (.activateWindow ⟨99⟩), .serve, .reply]

def rejectedState : State :=
  finalState (machine ⟨1280, 720⟩ 8 8) anyStep rejectedRun (by decide +kernel)

private theorem rejected_handler : (rejectedState.handlers 0).isSome = true := by
  decide +kernel

/-- The compositor refuses the window, and no event or snapshot was ever handled, but the action
has made the observer track it. -/
theorem rejected_window_tracked :
    ¬ ∀ (s : State) (windowId : WindowId) (handler : Handler),
      Reachable (machine ⟨1280, 720⟩ 8 8) anyStep s → s.handlers 0 = some handler →
      handler.lastReply = some (.unknownWindow windowId) → s.observer.sections = [] →
      ¬ Tracked s.observer.service windowId := by
  intro claimed
  have untracked := claimed rejectedState ⟨99⟩ _
    (final_state_reachable (machine ⟨1280, 720⟩ 8 8) anyStep rejectedRun (by decide +kernel))
    (Option.some_get rejected_handler).symm (by decide +kernel) (by decide +kernel)
  revert untracked
  decide +kernel

end ADesk.Runtime.Causality
