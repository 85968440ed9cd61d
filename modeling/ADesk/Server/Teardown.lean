/- ADesk/Server/Teardown
   digest: When a closed connection leaves no subscription and no sender of its queue behind. -/

import ADesk.Server.Connections

set_option autoImplicit false

namespace ADesk.Server.Teardown

open ADesk.Foundation.Execution
open ADesk.Server.Subscriptions
open ADesk.Server.Connections

/-! ## The condition -/

/-- Whether the event registry still has its cleanup of this connection ahead. -/
def eventsOpen (state : ServerState) (connection : SessionId) : Bool :=
  phaseOf state connection = some .reading

def inspectorsOpen (state : ServerState) (connection : SessionId) : Bool :=
  phaseOf state connection = some .reading || phaseOf state connection = some .eventsRemoved

def sinkOpen (state : ServerState) (connection : SessionId) : Bool :=
  inspectorsOpen state connection || phaseOf state connection = some .inspectorsRemoved

/-- A handler registers its subscription only while the cleanup of that registry is ahead. The
code has no such check: the sink is looked up in an earlier critical section. -/
def InsertsInTime (state : ServerState) : Label → Prop
  | .poll index => (state.tasks[index]?.all fun task =>
      (task.handler.pendingEvent.isNone || eventsOpen state task.connection) &&
        (task.handler.pendingInspector.isNone || inspectorsOpen state task.connection)) = true
  | _ => True

instance (state : ServerState) (label : Label) : Decidable (InsertsInTime state label) := by
  cases label <;> unfold InsertsInTime <;> infer_instance

/-! ## The invariant -/

/-- What each cleanup step has removed stays away. -/
structure Released (state : ServerState) : Prop where
  events : ∀ entry ∈ state.events.entries,
    entry.sink = entry.connection ∧ eventsOpen state entry.connection = true
  inspectors : ∀ entry ∈ state.inspectors.entries,
    entry.sink = entry.connection ∧ inspectorsOpen state entry.connection = true
  sinks : ∀ connection, state.sinks connection = true → sinkOpen state connection = true

theorem Released.initial : Released ServerState.new where
  events := fun _ member => by cases member
  inspectors := fun _ member => by cases member
  sinks := fun _ published => by cases published

theorem open_of_phase {state after : ServerState} {connection : SessionId}
    (same : phaseOf after connection = phaseOf state connection) :
    eventsOpen after connection = eventsOpen state connection ∧
      inspectorsOpen after connection = inspectorsOpen state connection ∧
      sinkOpen after connection = sinkOpen state connection := by
  unfold sinkOpen inspectorsOpen eventsOpen
  rw [same]
  exact ⟨rfl, rfl, rfl⟩

/-- A step that moves no connection and adds no entry and no sink. -/
theorem Released.kept {state after : ServerState} (released : Released state)
    (phases : phaseOf after = phaseOf state)
    (events : ∀ entry ∈ after.events.entries, entry ∈ state.events.entries)
    (inspectors : ∀ entry ∈ after.inspectors.entries, entry ∈ state.inspectors.entries)
    (sinks : after.sinks = state.sinks) : Released after := by
  have same : ∀ connection, _ := fun connection =>
    open_of_phase (congrFun phases connection)
  refine ⟨?_, ?_, ?_⟩
  · intro entry member
    rw [(same entry.connection).1]
    exact released.events entry (events entry member)
  · intro entry member
    rw [(same entry.connection).2.1]
    exact released.inspectors entry (inspectors entry member)
  · intro connection published
    rw [(same connection).2.2]
    rw [sinks] at published
    exact released.sinks connection published

private theorem Released.accepted {state after : ServerState} (released : Released state)
    (taken : step state .accept = some after) : Released after := by
  have phases : ∀ connection ≠ state.accepted + 1,
      phaseOf after connection = phaseOf state connection := by
    intro connection different
    cases taken
    unfold phaseOf
    dsimp only
    rw [Function.update_of_ne different]
  have reading : phaseOf after (state.accepted + 1) = some .reading := by
    cases taken
    unfold phaseOf
    dsimp only
    rw [Function.update_self]
    rfl
  have sinks : ∀ connection ≠ state.accepted + 1,
      after.sinks connection = state.sinks connection := by
    intro connection different
    cases taken
    exact Function.update_of_ne different _ _
  have entries : after.events = state.events ∧ after.inspectors = state.inspectors := by
    cases taken
    exact ⟨rfl, rfl⟩
  refine ⟨?_, ?_, ?_⟩
  · rw [entries.1]
    intro entry member
    obtain ⟨sink, isOpen⟩ := released.events entry member
    refine ⟨sink, ?_⟩
    by_cases new : entry.connection = state.accepted + 1
    · simp [eventsOpen, new, reading]
    · rw [(open_of_phase (phases _ new)).1]
      exact isOpen
  · rw [entries.2]
    intro entry member
    obtain ⟨sink, isOpen⟩ := released.inspectors entry member
    refine ⟨sink, ?_⟩
    by_cases new : entry.connection = state.accepted + 1
    · simp [inspectorsOpen, new, reading]
    · rw [(open_of_phase (phases _ new)).2.1]
      exact isOpen
  · intro connection published
    by_cases new : connection = state.accepted + 1
    · simp [sinkOpen, inspectorsOpen, new, reading]
    · rw [(open_of_phase (phases _ new)).2.2]
      exact released.sinks connection ((sinks connection new).symm.trans published)

private theorem Released.polled {state after : ServerState} (released : Released state)
    {index : ℕ} {task : Task} (found : state.tasks[index]? = some task)
    (inTime : InsertsInTime state (.poll index)) (effect : PollEffect state index task after) :
    Released after := by
  simp only [InsertsInTime, found, Option.all_some, Bool.and_eq_true] at inTime
  cases effect with
  | quiet handler _ _ _ events inspectors sinks phases =>
    refine released.kept phases ?_ ?_ sinks
    · rw [events]
      exact fun _ member => member
    · rw [inspectors]
      exact fun _ member => member
  | allocateEvent kinds windowId taken =>
    subst taken
    exact released.kept rfl (fun _ member => member) (fun _ member => member) rfl
  | pushEvent kinds windowId id pending taken =>
    subst taken
    refine ⟨?_, released.inspectors, released.sinks⟩
    intro entry member
    rcases List.mem_append.mp member with old | new
    · exact released.events entry old
    · rw [List.mem_singleton.mp new]
      have timely := inTime.1
      rw [pending] at timely
      exact ⟨rfl, timely⟩
  | allocateInspector overlays minIntervalMs taken =>
    subst taken
    exact released.kept rfl (fun _ member => member) (fun _ member => member) rfl
  | pushInspector overlays minIntervalMs id pending taken =>
    subst taken
    refine ⟨released.events, ?_, released.sinks⟩
    intro entry member
    rcases List.mem_append.mp member with old | new
    · exact released.inspectors entry old
    · rw [List.mem_singleton.mp new]
      have timely := inTime.2
      rw [pending] at timely
      exact ⟨rfl, timely⟩
  | unsubscribeEvents id calling taken =>
    subst taken
    exact released.kept rfl (fun _ member => (Registry.mem_unsubscribe.mp member).1)
      (fun _ member => member) rfl
  | unsubscribeInspectors id calling taken =>
    subst taken
    exact released.kept rfl (fun _ member => member)
      (fun _ member => (Registry.mem_unsubscribe.mp member).1) rfl

/-- Each cleanup step takes away what would contradict the phase it enters. -/
private theorem Released.torn {state after : ServerState} (released : Released state)
    {connection : SessionId} (torn : teardownStep state connection = some after) :
    Released after := by
  obtain ⟨_, _, others, effect⟩ := teardown_effect torn
  -- Entries and sinks of other connections see no change.
  have elsewhere : ∀ other ≠ connection, _ := fun other different =>
    open_of_phase (others other different)
  have keepEvents : ∀ entry ∈ state.events.entries, entry.connection ≠ connection →
      entry.sink = entry.connection ∧ eventsOpen after entry.connection = true := by
    intro entry member different
    rw [(elsewhere entry.connection different).1]
    exact released.events entry member
  have keepInspectors : ∀ entry ∈ state.inspectors.entries, entry.connection ≠ connection →
      entry.sink = entry.connection ∧ inspectorsOpen after entry.connection = true := by
    intro entry member different
    rw [(elsewhere entry.connection different).2.1]
    exact released.inspectors entry member
  have keepSinks : ∀ other, state.sinks other = true → other ≠ connection →
      sinkOpen after other = true := by
    intro other published different
    rw [(elsewhere other different).2.2]
    exact released.sinks other published
  -- Before its removal step an entry of this connection cannot exist in a later phase.
  have allEvents : eventsOpen state connection = false → ∀ entry ∈ state.events.entries,
      entry.sink = entry.connection ∧ eventsOpen after entry.connection = true := by
    refine fun closed entry member => keepEvents entry member fun same => ?_
    have isOpen := (released.events entry member).2
    rw [same, closed] at isOpen
    cases isOpen
  have allInspectors : inspectorsOpen state connection = false →
      ∀ entry ∈ state.inspectors.entries,
        entry.sink = entry.connection ∧ inspectorsOpen after entry.connection = true := by
    refine fun closed entry member => keepInspectors entry member fun same => ?_
    have isOpen := (released.inspectors entry member).2
    rw [same, closed] at isOpen
    cases isOpen
  rcases effect with ⟨was, now, events, inspectors, sinks⟩ | ⟨was, now, events, inspectors, sinks⟩ |
    ⟨was, now, events, inspectors, sinks⟩ | ⟨was, now, events, inspectors, sinks⟩
  · refine ⟨?_, ?_, ?_⟩
    · rw [events]
      intro entry member
      obtain ⟨inside, different⟩ := Registry.mem_remove_connection.mp member
      exact keepEvents entry inside different
    · rw [inspectors]
      intro entry member
      by_cases same : entry.connection = connection
      · refine ⟨(released.inspectors entry member).1, ?_⟩
        simp [inspectorsOpen, same, now]
      · exact keepInspectors entry member same
    · rw [sinks]
      intro other published
      by_cases same : other = connection
      · simp [sinkOpen, inspectorsOpen, same, now]
      · exact keepSinks other published same
  · refine ⟨?_, ?_, ?_⟩
    · rw [events]
      exact allEvents (by simp [eventsOpen, was])
    · rw [inspectors]
      intro entry member
      obtain ⟨inside, different⟩ := Registry.mem_remove_connection.mp member
      exact keepInspectors entry inside different
    · rw [sinks]
      intro other published
      by_cases same : other = connection
      · simp [sinkOpen, same, now]
      · exact keepSinks other published same
  · refine ⟨?_, ?_, ?_⟩
    · rw [events]
      exact allEvents (by simp [eventsOpen, was])
    · rw [inspectors]
      exact allInspectors (by simp [inspectorsOpen, was])
    · rw [sinks]
      intro other published
      by_cases same : other = connection
      · rw [same, Function.update_self] at published
        cases published
      · rw [Function.update_of_ne same] at published
        exact keepSinks other published same
  · refine ⟨?_, ?_, ?_⟩
    · rw [events]
      exact allEvents (by simp [eventsOpen, was])
    · rw [inspectors]
      exact allInspectors (by simp [inspectorsOpen, was])
    · rw [sinks]
      intro other published
      by_cases same : other = connection
      · have isOpen := released.sinks other published
        rw [same] at isOpen
        simp [sinkOpen, inspectorsOpen, was] at isOpen
      · exact keepSinks other published same

theorem Released.next {state after : ServerState} {label : Label} (released : Released state)
    (inTime : InsertsInTime state label) (taken : step state label = some after) :
    Released after := by
  cases label with
  | accept =>
    exact released.accepted taken
  | read connection request =>
    obtain ⟨_, events, inspectors, sinks, phases⟩ := read_effect taken
    exact released.kept phases (by rw [events]; exact fun _ member => member)
      (by rw [inspectors]; exact fun _ member => member) sinks
  | poll index =>
    obtain ⟨task, found, polled⟩ := Option.bind_eq_some_iff.mp taken
    exact released.polled found inTime (poll_effect polled)
  | turn index rendered =>
    obtain ⟨stream, _, turned⟩ := Option.bind_eq_some_iff.mp taken
    obtain ⟨_, events, sinks, phases, same | removed⟩ := turn_effect turned
    · exact released.kept phases (by rw [events]; exact fun _ member => member)
        (by rw [same]; exact fun _ member => member) sinks
    · refine released.kept phases (by rw [events]; exact fun _ member => member) ?_ sinks
      rw [removed]
      exact fun _ member => (Registry.mem_unsubscribe.mp member).1
  | publish event =>
    cases taken
    refine released.kept (funext fun connection => ?_) ?_ (fun _ member => member) rfl
    · exact fan_out_phase event state.events.entries state.connections connection
    · exact (fan_out_sublist event state.events.entries state.connections).subset
  | teardown connection => exact released.torn taken
  | write connection =>
    obtain ⟨_, events, inspectors, sinks, phases⟩ := writer_effect (fun _ => by rfl) taken
    exact released.kept phases (by rw [events]; exact fun _ member => member)
      (by rw [inspectors]; exact fun _ member => member) sinks
  | writeFails connection =>
    obtain ⟨_, events, inspectors, sinks, phases⟩ := writer_effect (fun _ => by rfl) taken
    exact released.kept phases (by rw [events]; exact fun _ member => member)
      (by rw [inspectors]; exact fun _ member => member) sinks
  | writerEnds connection =>
    simp only [step] at taken
    split at taken
    · obtain ⟨_, events, inspectors, sinks, phases⟩ := writer_effect (fun _ => by rfl) taken
      exact released.kept phases (by rw [events]; exact fun _ member => member)
        (by rw [inspectors]; exact fun _ member => member) sinks
    · cases taken

theorem released {state : ServerState} (reached : Reachable serverMachine InsertsInTime state) :
    Released state := by
  have invariant : Inductive serverMachine InsertsInTime Released :=
    ⟨Released.initial, fun released inTime taken => released.next inTime taken⟩
  exact invariant.holds reached

/-! ## Push loops -/

private theorem turn_step {state after : ServerState} {index : ℕ} {stream : InspectLoop}
    {rendered : Bool} (found : state.loops[index]? = some stream)
    (turned : turnLoop state index stream rendered = some after) :
    serverMachine.step state (.turn index rendered) = some after := by
  change (state.loops[index]?.bind fun stream => turnLoop state index stream rendered) = _
  rw [found]
  exact turned

private theorem loop_set {state : ServerState} {index : ℕ} {stream : InspectLoop}
    (found : state.loops[index]? = some stream) (changed : InspectLoop) :
    (state.loops.set index changed)[index]? = some changed := by
  obtain ⟨inside, _⟩ := List.getElem?_eq_some_iff.mp found
  exact List.getElem?_set_self inside

/-- A stream whose subscription is gone ends after at most four turns of its own. -/
theorem stream_ends {state : ServerState} {index : ℕ} {stream : InspectLoop}
    (found : state.loops[index]? = some stream)
    (gone : state.inspectors.contains stream.subscriptionId = false) :
    ∃ turns ≤ 4, ∃ after,
      replay serverMachine anyStep state (List.replicate turns (.turn index false)) = some after ∧
      after.loops[index]? = some { stream with phase := .ended } := by
  -- Setting the phase of the stream, as every turn does.
  let moved (state : ServerState) (phase : LoopPhase) : ServerState :=
    { state with loops := state.loops.set index { stream with phase := phase } }
  have placed : ∀ (state : ServerState) (phase : LoopPhase),
      state.loops[index]?.isSome = true →
      (moved state phase).loops[index]? = some { stream with phase := phase } :=
    fun state phase known => loop_set (Option.some_get known).symm _
  have stopping : ∀ state : ServerState,
      state.loops[index]? = some { stream with phase := .stopping } →
      ∃ after, replay serverMachine anyStep state [.turn index false] = some after ∧
        after.loops[index]? = some { stream with phase := .ended } :=
    fun state found => ⟨_, replay_step [] (turn_step found rfl), loop_set found _⟩
  have checking : ∀ state : ServerState,
      state.loops[index]? = some { stream with phase := .checking } →
      state.inspectors.contains stream.subscriptionId = false →
      ∃ after, replay serverMachine anyStep state [.turn index false, .turn index false] =
          some after ∧ after.loops[index]? = some { stream with phase := .ended } := by
    intro state found gone
    have turned : turnLoop state index { stream with phase := .checking } false =
        some (moved state .stopping) := by
      unfold turnLoop
      simp [gone, moved]
    obtain ⟨after, run, ended⟩ := stopping _ (placed state .stopping (by rw [found]; rfl))
    exact ⟨after, (replay_step _ (turn_step found turned)).trans run, ended⟩
  have known : state.loops[index]?.isSome = true := by rw [found]; rfl
  obtain ⟨owner, subscription, phase⟩ := stream
  cases phase with
  | checking =>
    obtain ⟨after, run, ended⟩ := checking state found gone
    exact ⟨2, by decide, after, run, ended⟩
  | rendering =>
    obtain ⟨after, run, ended⟩ := stopping _ (placed state .stopping known)
    have turned : serverMachine.step state (.turn index false) = some (moved state .stopping) :=
      turn_step found rfl
    exact ⟨2, by decide, after, (replay_step _ turned).trans run, ended⟩
  | waiting =>
    obtain ⟨after, run, ended⟩ := checking _ (placed state .checking known) gone
    have turned : serverMachine.step state (.turn index false) = some (moved state .checking) :=
      turn_step found rfl
    exact ⟨3, by decide, after, (replay_step _ turned).trans run, ended⟩
  | stopping =>
    obtain ⟨after, run, ended⟩ := stopping state found
    exact ⟨1, by decide, after, run, ended⟩
  | ended => exact ⟨0, by decide, state, rfl, found⟩

/-! ## A closed connection -/

private theorem filter_empty {β : Type} (entries : List β) (selected : β → Bool)
    (unselected : ∀ entry ∈ entries, selected entry = false) :
    (entries.filter selected).length = 0 := by
  rw [List.filter_eq_nil_iff.mpr]
  · rfl
  · intro entry member
    rw [unselected entry member]
    exact Bool.false_ne_true

theorem senders_on_connection (state : ServerState) (connection : SessionId)
    (change : ConnectionState → ConnectionState)
    (keeps : ∀ session, (change session).phase = session.phase) :
    senders (state.onConnection connection change) connection = senders state connection := by
  have held : ((state.onConnection connection change).connections connection).any
      (fun session => session.phase ≠ .writerDropped) =
        (state.connections connection).any (fun session => session.phase ≠ .writerDropped) := by
    rw [on_connection_self]
    cases state.connections connection with
    | none => rfl
    | some session => simp [keeps]
  unfold senders
  rw [held]
  rfl

/-- With an empty queue and no sender, the receiver sees the end of the stream. -/
theorem writer_ends {state : ServerState} {connection : SessionId} {session : ConnectionState}
    (noSender : senders state connection = 0)
    (found : state.connections connection = some session) (receiving : session.receiving = true)
    (drained : session.queued = 0) :
    step state (.writerEnds connection) = some (state.onConnection connection
      fun session => { session with receiving := false }) := by
  simp [step, writerStep, noSender, found, receiving, drained]

/-- Without senders the writer drains what is queued and sees the end of its queue. -/
theorem writer_terminates {state : ServerState} {connection : SessionId}
    (noSender : senders state connection = 0) :
    ∃ labels after, (∀ label ∈ labels, label = .write connection ∨ label = .writerEnds connection) ∧
      replay serverMachine anyStep state labels = some after ∧
      (after.connections connection).all (fun session => !session.receiving) = true := by
  have idle : (state.connections connection).all (fun session => !session.receiving) = true →
      ∃ labels after,
        (∀ label ∈ labels, label = .write connection ∨ label = .writerEnds connection) ∧
        replay serverMachine anyStep state labels = some after ∧
        (after.connections connection).all (fun session => !session.receiving) = true :=
    fun ended => ⟨[], state, (fun label member => by cases member), rfl, ended⟩
  cases found : state.connections connection with
  | none => exact idle (by rw [found]; rfl)
  | some session =>
    cases receiving : session.receiving with
    | false => exact idle (by rw [found, Option.all_some, receiving]; rfl)
    | true =>
      by_cases drained : session.queued = 0
      · refine ⟨[.writerEnds connection], state.onConnection connection
          fun session => { session with receiving := false }, ?_, ?_, ?_⟩
        · exact fun label member => Or.inr (List.mem_singleton.mp member)
        · exact replay_step [] (writer_ends noSender found receiving drained)
        · rw [on_connection_self, found]
          rfl
      · -- What is queued goes out in one write.
        let emptied := state.onConnection connection fun session => { session with queued := 0 }
        have wrote : step state (.write connection) = some emptied := by
          simp [step, writerStep, found, receiving, Nat.pos_of_ne_zero drained, emptied]
        have remaining : emptied.connections connection = some { session with queued := 0 } := by
          rw [on_connection_self, found]
          rfl
        have noneLeft := (senders_on_connection state connection
          (fun session => { session with queued := 0 }) fun _ => rfl).trans noSender
        refine ⟨[.write connection, .writerEnds connection], emptied.onConnection connection
          fun session => { session with receiving := false }, ?_, ?_, ?_⟩
        · simp
        · exact (replay_step _ wrote).trans
            (replay_step [] (writer_ends noneLeft remaining receiving rfl))
        · rw [on_connection_self, remaining]
          rfl

/-- Connection 1 subscribes, disconnects and cleans up; its task answers meanwhile. -/
def cleanRun : List Label :=
  [.accept, .read 1 (.subscribeEvents [] none), .poll 0, .poll 0, .poll 0, .teardown 1, .poll 0,
    .poll 0, .teardown 1, .poll 0, .teardown 1, .teardown 1]

def cleanState : ServerState := finalState serverMachine InsertsInTime cleanRun (by decide +kernel)

/-- The task looks its sink up, the connection cleans up completely, and the task registers. -/
def lateRun : List Label :=
  [.accept, .read 1 (.subscribeEvents [] none), .poll 0, .poll 0, .teardown 1, .teardown 1,
    .teardown 1, .teardown 1, .poll 0, .poll 0, .poll 0, .poll 0]

def lateState : ServerState := finalState serverMachine anyStep lateRun (by decide +kernel)

end ADesk.Server.Teardown
