/- ADesk/Server/Isolation
   digest: Ids within one registry are distinct, and when an unsubscription removes only its own. -/

import ADesk.Foundation.UniqueKeys
import ADesk.Server.Connections

set_option autoImplicit false

namespace ADesk.Server.Isolation

open ADesk.Foundation.Execution
open ADesk.Foundation.UniqueKeys
open ADesk.Server.Subscriptions
open ADesk.Server.Connections

/-! ## Ids of one registry -/

section Distinct

variable {T : Type} [RegistryEntry T]

/-- The ids of a registry are distinct, also from those that tasks hold between taking an id and
registering it: the two halves of an insertion are separate critical sections. -/
structure DistinctIds (registry : Registry T) (pending : Handler → Option SubscriptionId)
    (tasks : List Task) : Prop where
  registered : registry.ids.Nodup
  counted : ∀ id ∈ registry.ids, id ≤ registry.allocated
  fresh : ∀ {index : ℕ} {task : Task} {id : SubscriptionId}, tasks[index]? = some task →
    pending task.handler = some id → id ≤ registry.allocated ∧ id ∉ registry.ids
  apart : ∀ {first second : ℕ} {one other : Task} {id : SubscriptionId},
    tasks[first]? = some one → tasks[second]? = some other →
    pending one.handler = some id → pending other.handler = some id → first = second

variable {registry after : Registry T} {pending : Handler → Option SubscriptionId}
  {tasks : List Task}

/-- A task that is set to a handler without an id holds none afterwards. -/
theorem held_of_set {index : ℕ} {changed : Task} (none_held : pending changed.handler = none)
    {at_index : ℕ} {task : Task} {id : SubscriptionId}
    (found : (tasks.set index changed)[at_index]? = some task)
    (holds : pending task.handler = some id) :
    ∃ before, tasks[at_index]? = some before ∧ pending before.handler = some id := by
  rw [List.getElem?_set] at found
  split at found
  · split at found
    · cases found
      rw [none_held] at holds
      cases holds
    · cases found
  · exact ⟨task, found, holds⟩

theorem held_of_append {added : Task} (none_held : pending added.handler = none)
    {index : ℕ} {task : Task} {id : SubscriptionId}
    (found : (tasks ++ [added])[index]? = some task)
    (holds : pending task.handler = some id) :
    ∃ before, tasks[index]? = some before ∧ pending before.handler = some id := by
  by_cases inside : index < tasks.length
  · rw [List.getElem?_append_left inside] at found
    exact ⟨task, found, holds⟩
  · rw [List.getElem?_append_right (Nat.le_of_not_lt inside), List.getElem?_singleton] at found
    split at found
    · cases found
      rw [none_held] at holds
      cases holds
    · cases found

/-- Tasks that take no new id keep ids distinct. -/
private theorem DistinctIds.held (distinct : DistinctIds registry pending tasks)
    {later : List Task}
    (held : ∀ {index : ℕ} {task : Task} {id : SubscriptionId}, later[index]? = some task →
      pending task.handler = some id →
      ∃ before, tasks[index]? = some before ∧ pending before.handler = some id) :
    DistinctIds registry pending later := by
  refine ⟨distinct.registered, distinct.counted, ?_, ?_⟩
  · intro index task id found holds
    obtain ⟨before, known, same⟩ := held found holds
    exact distinct.fresh known same
  · intro first second one other id oneFound otherFound oneHolds otherHolds
    obtain ⟨_, oneKnown, oneSame⟩ := held oneFound oneHolds
    obtain ⟨_, otherKnown, otherSame⟩ := held otherFound otherHolds
    exact distinct.apart oneKnown otherKnown oneSame otherSame

theorem DistinctIds.set (distinct : DistinctIds registry pending tasks) (index : ℕ)
    {changed : Task} (none_held : pending changed.handler = none) :
    DistinctIds registry pending (tasks.set index changed) :=
  distinct.held fun found holds => held_of_set none_held found holds

theorem DistinctIds.append (distinct : DistinctIds registry pending tasks) {added : Task}
    (none_held : pending added.handler = none) :
    DistinctIds registry pending (tasks ++ [added]) :=
  distinct.held fun found holds => held_of_append none_held found holds

/-- Removing entries keeps ids distinct. -/
theorem DistinctIds.removed (distinct : DistinctIds registry pending tasks)
    (entries : after.entries.Sublist registry.entries)
    (allocated : after.allocated = registry.allocated) : DistinctIds after pending tasks := by
  have ids : after.ids.Sublist registry.ids := entries.map entryId
  refine ⟨distinct.registered.sublist ids, ?_, ?_, distinct.apart⟩
  · intro id member
    rw [allocated]
    exact distinct.counted id (ids.subset member)
  · intro index task id found holds
    obtain ⟨bound, unused⟩ := distinct.fresh found holds
    rw [allocated]
    exact ⟨bound, fun member => unused (ids.subset member)⟩

theorem DistinctIds.unsubscribed (distinct : DistinctIds registry pending tasks)
    (id : SubscriptionId) : DistinctIds (registry.unsubscribe id).1 pending tasks :=
  distinct.removed List.filter_sublist rfl

theorem DistinctIds.connectionRemoved (distinct : DistinctIds registry pending tasks)
    (connection : SessionId) :
    DistinctIds (registry.removeConnection connection).1 pending tasks :=
  distinct.removed List.filter_sublist rfl

/-- The next id is above every registered and every held one. -/
theorem DistinctIds.allocate (distinct : DistinctIds registry pending tasks) (index : ℕ)
    {changed : Task} (takes : pending changed.handler = some registry.nextId.2) :
    DistinctIds registry.nextId.1 pending (tasks.set index changed) := by
  -- A task after the step holds its old id, or is the one that took the new id.
  have split_held : ∀ {at_index : ℕ} {task : Task} {id : SubscriptionId},
      (tasks.set index changed)[at_index]? = some task → pending task.handler = some id →
      (at_index = index ∧ id = registry.allocated + 1) ∨
        (∃ before, tasks[at_index]? = some before ∧ pending before.handler = some id) := by
    intro at_index task id found holds
    rw [List.getElem?_set] at found
    split at found
    · next same =>
      split at found
      · cases found
        rw [takes] at holds
        exact Or.inl ⟨same.symm, (Option.some.inj holds).symm⟩
      · cases found
    · exact Or.inr ⟨task, found, holds⟩
  have new_unused : registry.allocated + 1 ∉ registry.ids := by
    intro member
    exact Nat.not_succ_le_self _ (distinct.counted _ member)
  refine ⟨distinct.registered, ?_, ?_, ?_⟩
  · intro id member
    exact Nat.le_succ_of_le (distinct.counted id member)
  · intro at_index task id found holds
    change id ≤ registry.allocated + 1 ∧ id ∉ registry.ids
    rcases split_held found holds with ⟨_, rfl⟩ | ⟨before, known, same⟩
    · exact ⟨Nat.le_refl _, new_unused⟩
    · obtain ⟨bound, unused⟩ := distinct.fresh known same
      exact ⟨Nat.le_succ_of_le bound, unused⟩
  · intro first second one other id oneFound otherFound oneHolds otherHolds
    rcases split_held oneFound oneHolds with ⟨firstSame, new⟩ | ⟨_, oneKnown, oneSame⟩
    · rcases split_held otherFound otherHolds with ⟨secondSame, _⟩ | ⟨_, otherKnown, otherSame⟩
      · exact firstSame.trans secondSame.symm
      · rw [new] at otherSame
        exact absurd (distinct.fresh otherKnown otherSame).1 (Nat.not_succ_le_self _)
    · rcases split_held otherFound otherHolds with ⟨_, new⟩ | ⟨_, otherKnown, otherSame⟩
      · rw [new] at oneSame
        exact absurd (distinct.fresh oneKnown oneSame).1 (Nat.not_succ_le_self _)
      · exact distinct.apart oneKnown otherKnown oneSame otherSame

/-- Registering the id that a task holds. -/
theorem DistinctIds.push (distinct : DistinctIds registry pending tasks) {index : ℕ} {task : Task}
    {entry : T} (found : tasks[index]? = some task)
    (holds : pending task.handler = some (entryId entry)) {changed : Task}
    (done : pending changed.handler = none) :
    DistinctIds (registry.push entry) pending (tasks.set index changed) := by
  have ids : (registry.push entry).ids = registry.ids ++ [entryId entry] := List.map_append
  obtain ⟨bound, unused⟩ := distinct.fresh found holds
  refine ⟨?_, ?_, ?_, ?_⟩
  · rw [ids]
    refine List.nodup_append.mpr ⟨distinct.registered, List.nodup_singleton _, ?_⟩
    intro id old other new same
    rw [List.mem_singleton.mp new] at same
    exact unused (same ▸ old)
  · intro id member
    rw [ids, List.mem_append, List.mem_singleton] at member
    rcases member with old | rfl
    · exact distinct.counted id old
    · exact bound
  · intro at_index later id laterFound laterHolds
    obtain ⟨before, known, same⟩ := held_of_set done laterFound laterHolds
    obtain ⟨laterBound, laterUnused⟩ := distinct.fresh known same
    refine ⟨laterBound, ?_⟩
    rw [ids, List.mem_append, List.mem_singleton]
    rintro (old | rfl)
    · exact laterUnused old
    · -- The same id would be held by the same task, which has just been set.
      have same_index := distinct.apart known found same holds
      subst same_index
      rw [List.getElem?_set_self', known] at laterFound
      cases laterFound
      change pending changed.handler = _ at laterHolds
      rw [done] at laterHolds
      cases laterHolds
  · intro first second one other id oneFound otherFound oneHolds otherHolds
    obtain ⟨_, oneKnown, oneSame⟩ := held_of_set done oneFound oneHolds
    obtain ⟨_, otherKnown, otherSame⟩ := held_of_set done otherFound otherHolds
    exact distinct.apart oneKnown otherKnown oneSame otherSame

/-- Within one registry an id names at most one entry. -/
theorem DistinctIds.named_length (distinct : DistinctIds registry pending tasks)
    (id : SubscriptionId) : (registry.named id).length ≤ 1 := by
  by_cases known : ∃ entry ∈ registry.entries, entryId entry = id
  · obtain ⟨entry, inside, rfl⟩ := known
    have keyed : (registry.entries.map entryId).Nodup := distinct.registered
    have sole : registry.named (entryId entry) = [entry] := filter_key keyed inside
    rw [sole]
    exact Nat.le_refl _
  · have none_named : registry.named id = [] := by
      refine List.filter_eq_nil_iff.mpr fun entry member => ?_
      rw [decide_eq_true_iff]
      exact fun named => known ⟨entry, member, named⟩
    rw [none_named]
    exact Nat.zero_le _

end Distinct

/-! ## Every run -/

structure AllDistinct (state : ServerState) : Prop where
  events : DistinctIds state.events Handler.pendingEvent state.tasks
  inspectors : DistinctIds state.inspectors Handler.pendingInspector state.tasks

theorem AllDistinct.initial : AllDistinct ServerState.new := by
  refine ⟨⟨List.nodup_nil, ?_, ?_, ?_⟩, ⟨List.nodup_nil, ?_, ?_, ?_⟩⟩
  all_goals intros
  all_goals simp_all [ServerState.new, Registry.new, Registry.ids]

/-- A step that leaves both registries and the tasks alone. -/
private theorem AllDistinct.unchanged {state after : ServerState} (distinct : AllDistinct state)
    (tasks : after.tasks = state.tasks) (events : after.events = state.events)
    (inspectors : after.inspectors = state.inspectors) : AllDistinct after := by
  refine ⟨?_, ?_⟩
  · rw [events, tasks]
    exact distinct.events
  · rw [inspectors, tasks]
    exact distinct.inspectors

private theorem AllDistinct.polled {state after : ServerState} (distinct : AllDistinct state)
    {index : ℕ} {task : Task} (found : state.tasks[index]? = some task)
    (effect : PollEffect state index task after) : AllDistinct after := by
  cases effect with
  | quiet handler noEvent noInspector tasks events inspectors _ _ =>
    refine ⟨?_, ?_⟩
    · rw [events, tasks]
      exact distinct.events.set index noEvent
    · rw [inspectors, tasks]
      exact distinct.inspectors.set index noInspector
  | allocateEvent kinds windowId taken =>
    subst taken
    exact ⟨distinct.events.allocate index rfl, distinct.inspectors.set index rfl⟩
  | pushEvent kinds windowId id pending taken =>
    subst taken
    refine ⟨distinct.events.push found ?_ rfl, distinct.inspectors.set index rfl⟩
    rw [pending]
    rfl
  | allocateInspector overlays minIntervalMs taken =>
    subst taken
    exact ⟨distinct.events.set index rfl, distinct.inspectors.allocate index rfl⟩
  | pushInspector overlays minIntervalMs id pending taken =>
    subst taken
    refine ⟨distinct.events.set index rfl, distinct.inspectors.push found ?_ rfl⟩
    rw [pending]
    rfl
  | unsubscribeEvents id calling taken =>
    subst taken
    exact ⟨(distinct.events.unsubscribed id).set index rfl, distinct.inspectors.set index rfl⟩
  | unsubscribeInspectors id calling taken =>
    subst taken
    exact ⟨distinct.events.set index rfl, (distinct.inspectors.unsubscribed id).set index rfl⟩

private theorem AllDistinct.torn {state after : ServerState} (distinct : AllDistinct state)
    {connection : SessionId} (torn : teardownStep state connection = some after) :
    AllDistinct after := by
  obtain ⟨tasks, _, _, reading | events | inspectors | sink⟩ := teardown_effect torn
  · obtain ⟨_, _, removed, same, _⟩ := reading
    refine ⟨?_, ?_⟩
    · rw [removed, tasks]
      exact distinct.events.connectionRemoved connection
    · rw [same, tasks]
      exact distinct.inspectors
  · obtain ⟨_, _, same, removed, _⟩ := events
    refine ⟨?_, ?_⟩
    · rw [same, tasks]
      exact distinct.events
    · rw [removed, tasks]
      exact distinct.inspectors.connectionRemoved connection
  · obtain ⟨_, _, sameEvents, sameInspectors, _⟩ := inspectors
    exact distinct.unchanged tasks sameEvents sameInspectors
  · obtain ⟨_, _, sameEvents, sameInspectors, _⟩ := sink
    exact distinct.unchanged tasks sameEvents sameInspectors

theorem AllDistinct.next {state after : ServerState} {label : Label} (distinct : AllDistinct state)
    (taken : step state label = some after) : AllDistinct after := by
  cases label with
  | accept =>
    cases taken
    exact distinct.unchanged rfl rfl rfl
  | read connection request =>
    obtain ⟨tasks, events, inspectors, _, _⟩ := read_effect taken
    obtain ⟨noEvent, noInspector⟩ := request_pending request
    refine ⟨?_, ?_⟩
    · rw [events, tasks]
      exact distinct.events.append noEvent
    · rw [inspectors, tasks]
      exact distinct.inspectors.append noInspector
  | poll index =>
    obtain ⟨task, found, polled⟩ := Option.bind_eq_some_iff.mp taken
    exact distinct.polled found (poll_effect polled)
  | turn index rendered =>
    obtain ⟨stream, _, turned⟩ := Option.bind_eq_some_iff.mp taken
    obtain ⟨tasks, events, _, _, same | removed⟩ := turn_effect turned
    · exact distinct.unchanged tasks events same
    · refine ⟨?_, ?_⟩
      · rw [events, tasks]
        exact distinct.events
      · rw [removed, tasks]
        exact distinct.inspectors.unsubscribed stream.subscriptionId
  | publish event =>
    cases taken
    exact ⟨distinct.events.removed (fan_out_sublist event _ _) rfl, distinct.inspectors⟩
  | teardown connection => exact distinct.torn taken
  | write connection =>
    obtain ⟨tasks, events, inspectors, _⟩ := writer_effect (fun _ => by rfl) taken
    exact distinct.unchanged tasks events inspectors
  | writeFails connection =>
    obtain ⟨tasks, events, inspectors, _⟩ := writer_effect (fun _ => by rfl) taken
    exact distinct.unchanged tasks events inspectors
  | writerEnds connection =>
    simp only [step] at taken
    split at taken
    · obtain ⟨tasks, events, inspectors, _⟩ := writer_effect (fun _ => by rfl) taken
      exact distinct.unchanged tasks events inspectors
    · cases taken

theorem all_distinct {state : ServerState} (reached : Reachable serverMachine anyStep state) :
    AllDistinct state := by
  have invariant : Inductive serverMachine anyStep AllDistinct :=
    ⟨AllDistinct.initial, fun distinct _ taken => distinct.next taken⟩
  exact invariant.holds reached

/-! ## One unsubscription -/

/-- An unsubscription on `connection` took at most one entry out of the two registries, and none
but the one registered under `id` by that connection. -/
structure Isolated (connection : SessionId) (id : SubscriptionId)
    (events eventsAfter : Registry Subscription)
    (inspectors inspectorsAfter : Registry InspectSubscription) : Prop where
  atMostOne : events.entries.length + inspectors.entries.length ≤
    eventsAfter.entries.length + inspectorsAfter.entries.length + 1
  ownEvents : ∀ entry ∈ events.entries, entry ∉ eventsAfter.entries →
    entry.id = id ∧ entry.connection = connection
  ownInspectors : ∀ entry ∈ inspectors.entries, entry ∉ inspectorsAfter.entries →
    entry.id = id ∧ entry.connection = connection

private theorem named_pos {T : Type} [RegistryEntry T] {registry : Registry T}
    {id : SubscriptionId} : 0 < (registry.named id).length ↔ registry.contains id = true := by
  rw [List.length_pos_iff_exists_mem, Registry.contains_iff]
  constructor
  · rintro ⟨entry, member⟩
    obtain ⟨inside, named⟩ := Registry.mem_named.mp member
    exact ⟨entry, inside, named⟩
  · rintro ⟨entry, inside, named⟩
    exact ⟨entry, Registry.mem_named.mpr ⟨inside, named⟩⟩

/-- One `unsubscribe_events` call locks the event registry and later the inspector registry, with
any steps of the server in between. It is isolated exactly when whatever each registry holds
under the id at that moment was created by the calling connection, and not both hold the id. -/
theorem unsubscribe_isolated_iff {before between later after : ServerState} {index : ℕ}
    {connection : SessionId} {id : SubscriptionId}
    (reached : Reachable serverMachine anyStep before)
    (calling : before.tasks[index]? = some ⟨connection, .unsubscribeEvents id .events⟩)
    (first : step before (.poll index) = some between)
    (meanwhile : Reachable ⟨between, step⟩ anyStep later)
    (resuming : later.tasks[index]? = some ⟨connection, .unsubscribeEvents id .inspectors⟩)
    (second : step later (.poll index) = some after) :
    Isolated connection id before.events between.events later.inspectors after.inspectors ↔
      (∀ entry ∈ before.events.entries, entry.id = id → entry.connection = connection) ∧
        (∀ entry ∈ later.inspectors.entries, entry.id = id → entry.connection = connection) ∧
        ¬(before.events.contains id = true ∧ later.inspectors.contains id = true) := by
  have events : between.events = (before.events.unsubscribe id).1 := by
    simp only [step, calling, Option.bind_some, pollTask, Option.some.injEq] at first
    rw [← first]
    rfl
  have inspectors : after.inspectors = (later.inspectors.unsubscribe id).1 := by
    simp only [step, resuming, Option.bind_some, pollTask, Option.some.injEq] at second
    rw [← second]
    rfl
  have eventCount := before.events.unsubscribe_length id
  have inspectorCount := later.inspectors.unsubscribe_length id
  rw [← events] at eventCount
  rw [← inspectors] at inspectorCount
  have gone : ∀ entry ∈ before.events.entries, entry.id = id → entry ∉ between.events.entries := by
    intro entry _ named member
    rw [events] at member
    exact (Registry.mem_unsubscribe.mp member).2 named
  have goneStream : ∀ entry ∈ later.inspectors.entries, entry.id = id →
      entry ∉ after.inspectors.entries := by
    intro entry _ named member
    rw [inspectors] at member
    exact (Registry.mem_unsubscribe.mp member).2 named
  constructor
  · intro isolated
    refine ⟨?_, ?_, ?_⟩
    · intro entry inside named
      exact (isolated.ownEvents entry inside (gone entry inside named)).2
    · intro entry inside named
      exact (isolated.ownInspectors entry inside (goneStream entry inside named)).2
    · rintro ⟨inEvents, inInspectors⟩
      have one := named_pos.mpr inEvents
      have other := named_pos.mpr inInspectors
      have bound := isolated.atMostOne
      omega
  · rintro ⟨ownEvents, ownInspectors, notBoth⟩
    have laterReached : Reachable serverMachine anyStep later :=
      (Reachable.next reached trivial (show serverMachine.step before (.poll index) = _ from
        first)).continued meanwhile
    have eventsOnce := (all_distinct reached).events.named_length id
    have inspectorsOnce := (all_distinct laterReached).inspectors.named_length id
    refine ⟨?_, ?_, ?_⟩
    · by_cases inEvents : before.events.contains id = true
      · have noStream : ¬0 < (later.inspectors.named id).length :=
          fun some_named => notBoth ⟨inEvents, named_pos.mp some_named⟩
        omega
      · have noEvent : ¬0 < (before.events.named id).length :=
          fun some_named => inEvents (named_pos.mp some_named)
        omega
    · intro entry inside removed
      have named : entry.id = id := by
        by_contra other
        rw [events] at removed
        exact removed (Registry.mem_unsubscribe.mpr ⟨inside, other⟩)
      exact ⟨named, ownEvents entry inside named⟩
    · intro entry inside removed
      have named : entry.id = id := by
        by_contra other
        rw [inspectors] at removed
        exact removed (Registry.mem_unsubscribe.mpr ⟨inside, other⟩)
      exact ⟨named, ownInspectors entry inside named⟩

/-- Connection 1 subscribes and is asked to unsubscribe the id it was given. -/
def ownRun : List Label :=
  [.accept, .read 1 (.subscribeEvents [] none), .poll 0, .poll 0, .poll 0, .poll 0, .poll 0,
    .read 1 (.unsubscribeEvents 1)]

def ownState : ServerState := finalState serverMachine anyStep ownRun (by decide +kernel)

private theorem own_first : (step ownState (.poll 1)).isSome = true := by decide +kernel

private theorem own_second :
    (step ((step ownState (.poll 1)).get own_first) (.poll 1)).isSome = true := by
  decide +kernel

theorem unsubscribe_isolated_iff_own :
    Isolated 1 1 ownState.events ((step ownState (.poll 1)).get own_first).events
      ((step ownState (.poll 1)).get own_first).inspectors
      ((step ((step ownState (.poll 1)).get own_first) (.poll 1)).get own_second).inspectors :=
  (unsubscribe_isolated_iff
    (final_state_reachable serverMachine anyStep ownRun (by decide +kernel))
    (show ownState.tasks[1]? = some ⟨1, .unsubscribeEvents 1 .events⟩ by decide +kernel)
    (Option.some_get own_first).symm .start
    (by decide +kernel) (Option.some_get own_second).symm).mpr
    ⟨by decide +kernel, by decide +kernel, by decide +kernel⟩

/-- Connection 1 holds event subscription 1 and connection 2 inspector stream 1; connection 2
unsubscribes 1. -/
def collidingRun : List Label :=
  [.accept, .accept, .read 1 (.subscribeEvents [] none), .poll 0, .poll 0, .poll 0, .poll 0,
    .poll 0, .read 2 (.inspectSubscribe [] 0), .poll 1, .poll 1, .poll 1, .poll 1, .poll 1,
    .read 2 (.unsubscribeEvents 1)]

def collidingState : ServerState :=
  finalState serverMachine anyStep collidingRun (by decide +kernel)

private theorem colliding_first : (step collidingState (.poll 2)).isSome = true := by
  decide +kernel

private theorem colliding_second :
    (step ((step collidingState (.poll 2)).get colliding_first) (.poll 2)).isSome = true := by
  decide +kernel

theorem unsubscribe_removes_foreign :
    ¬∀ {before between later after : ServerState} {index : ℕ} {connection : SessionId}
      {id : SubscriptionId}, Reachable serverMachine anyStep before →
      before.tasks[index]? = some ⟨connection, .unsubscribeEvents id .events⟩ →
      step before (.poll index) = some between → Reachable ⟨between, step⟩ anyStep later →
      later.tasks[index]? = some ⟨connection, .unsubscribeEvents id .inspectors⟩ →
      step later (.poll index) = some after →
      Isolated connection id before.events between.events later.inspectors after.inspectors := by
  intro claim
  have isolated := claim
    (final_state_reachable serverMachine anyStep collidingRun (by decide +kernel))
    (show collidingState.tasks[2]? = some ⟨2, .unsubscribeEvents 1 .events⟩ by decide +kernel)
    (Option.some_get colliding_first).symm .start
    (by decide +kernel) (Option.some_get colliding_second).symm
  have removed := isolated.ownEvents ⟨1, 1, [], none, 1⟩
    (show _ ∈ collidingState.events.entries by decide +kernel) (by decide +kernel)
  exact absurd removed.2 (by decide)

end ADesk.Server.Isolation
