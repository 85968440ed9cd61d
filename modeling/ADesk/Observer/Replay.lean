/- ADesk/Observer/Replay
   digest: In runs of ordered events a wait's accumulator is the one-shot fold of what it scanned,
   whatever the batching, and its observation is a consistent cut at its last absorb section. -/

import ADesk.Observer.Invariants

set_option autoImplicit false

namespace ADesk.Observer.Replay

open ADesk.Core.Ids (WindowId)
open ADesk.Core.Geometry (Region)
open ADesk.Core.Event (RuntimeEvent Observation)
open ADesk.Foundation.Execution
open ADesk.Foundation.KeyedLog
open ADesk.Observer.Journal
open ADesk.Observer.Service
open ADesk.Observer.State
open ADesk.Observer.Waiter
open ADesk.Observer.Sections
open ADesk.Observer.Run
open ADesk.Observer.Steps
open ADesk.Observer.Invariants

/-! ## Runs of ordered events -/

def Source.event : Source → Option RuntimeEvent
  | .handled event => some event
  | .synced _ => none

/-- The runtime events handled so far. -/
def handledEvents (s : Run.State) : List RuntimeEvent :=
  s.sections.filterMap fun entry => Source.event entry.source

/-- The event whose state section is next. -/
def currentEvent (s : Run.State) : Option RuntimeEvent :=
  match s.pump with
  | .handling event => some event
  | _ => none

/-- A wait that has resolved, with its observation. -/
def resolvedWait (s : Run.State) (waiter : ℕ) : Option (Wait × Observation) :=
  match s.waits waiter with
  | .running wait => wait.phase.observation.map (fun observation => (wait, observation))
  | _ => none

/-- The event about to be handled has a greater sequence than all before it. -/
def NextInOrder (s : Run.State) : Prop :=
  ∀ event ∈ currentEvent s, ∀ earlier ∈ handledEvents s, earlier.seq < event.seq

/-- Every event the journal evicted was scanned by the wait or is at or below its start. -/
def NothingUnreadEvicted (s : Run.State) (wait : Wait) : Prop :=
  ∀ event ∈ evicted s.pushed s.service.journal.buf, event.seq ≤ wait.cursor

def Label.isResync : Label → Bool
  | .resync _ => true
  | _ => false

/-- The runs of the replay law: no resync, events in strictly increasing sequence order, and
no event evicted before the waiter saw it. -/
def Ordered (waiter : ℕ) (s : Run.State) (label : Label) : Prop :=
  Label.isResync label = false ∧ (label = .pumpSection → NextInOrder s) ∧
    ∀ wait ∈ absorbingWait s waiter, NothingUnreadEvicted s wait

instance (waiter : ℕ) (s : Run.State) (label : Label) : Decidable (Ordered waiter s label) :=
  inferInstanceAs (Decidable (_ ∧ (_ → ∀ event ∈ currentEvent s, ∀ earlier ∈ handledEvents s,
      earlier.seq < event.seq) ∧
    ∀ wait ∈ absorbingWait s waiter, ∀ event ∈ evicted s.pushed s.service.journal.buf,
      event.seq ≤ wait.cursor))

/-- The one-shot fold of a list of counted events, no damage clipped. -/
def foldEvents (filters : Filters) (events : List CountedEvent) : Accumulator :=
  (events.filter filters.counts).foldl (fun folded event => folded.absorb event none)
    (Accumulator.new filters)

/-- The wait has scanned exactly the pushed events above its start, up to its last section. -/
structure Replayed (s : Run.State) (wait : Wait) : Prop where
  scan : Scanned CountedEvent.seq wait.plan.filters.minSeq wait.cursor wait.scanned s.pushed
  clips : wait.absorbed =
    (wait.scanned.filter wait.plan.filters.counts).map fun event => (event, none)
  upto : wait.scanned =
    (newer CountedEvent.seq wait.plan.filters.minSeq s.pushed).filter
      (fun event => event.seq ≤ wait.cut)

structure Regular (waiter : ℕ) (s : Run.State) : Prop where
  calm : ∀ snapshot, s.pump ≠ .resyncing snapshot
  noGeometry : NoGeometry s.service.windows
  retained : s.service.journal.buf <:+ s.pushed
  pushed : s.pushed = (handledEvents s).filterMap CountedEvent.fromRuntimeEvent
  ascending : (handledEvents s).Pairwise (fun a b => a.seq < b.seq)
  attained : s.service.watermark = 0 ∨
    ∃ event ∈ handledEvents s, event.seq = s.service.watermark
  replayed : ∀ wait, s.waits waiter = .running wait → Replayed s wait

private theorem pushed_ascending {events : List RuntimeEvent}
    (ascending : events.Pairwise (fun a b => a.seq < b.seq)) :
    Ascending CountedEvent.seq (events.filterMap CountedEvent.fromRuntimeEvent) := by
  refine List.Pairwise.filterMap _ (fun first second order a reducedA b reducedB => ?_) ascending
  rw [from_runtime_event_seq reducedA, from_runtime_event_seq reducedB]
  exact order

/-- A step that leaves log, journal and windows alone keeps the law. -/
private theorem Regular.transfer {waiter : ℕ} {s t : Run.State} (regular : Regular waiter s)
    (calm : ∀ snapshot, t.pump ≠ .resyncing snapshot)
    (windows : NoGeometry t.service.windows)
    (journal : t.service.journal = s.service.journal)
    (watermark : t.service.watermark = s.service.watermark)
    (sections : t.sections = s.sections)
    (replayed : ∀ wait, t.waits waiter = .running wait → Replayed s wait) :
    Regular waiter t := by
  have pushed : t.pushed = s.pushed := by
    unfold Run.State.pushed
    rw [sections]
  have handled : handledEvents t = handledEvents s := by
    unfold handledEvents
    rw [sections]
  refine ⟨calm, windows, ?_, ?_, ?_, ?_, ?_⟩
  · rw [journal, pushed]
    exact regular.retained
  · rw [pushed, handled]
    exact regular.pushed
  · rw [handled]
    exact regular.ascending
  · rw [watermark, handled]
    exact regular.attained
  · intro wait running
    have kept := replayed wait running
    refine ⟨?_, kept.clips, ?_⟩
    · rw [pushed]
      exact kept.scan
    · rw [pushed]
      exact kept.upto

private theorem handled_event_append {s t : Run.State} {event : RuntimeEvent}
    {before : ℕ} {pushed : List CountedEvent}
    (sections : t.sections = s.sections ++ [⟨before, .handled event, pushed⟩]) :
    handledEvents t = handledEvents s ++ [event] ∧ t.pushed = s.pushed ++ pushed := by
  refine ⟨?_, ?_⟩
  · unfold handledEvents
    rw [sections, List.filterMap_append]
    rfl
  · unfold Run.State.pushed
    rw [sections, List.flatMap_append]
    simp

/-- A new event is above everything handled, so no wait has it at or below its cut. -/
private theorem handled_above_cut {waiter : ℕ} {s : Run.State} (regular : Regular waiter s)
    {event : RuntimeEvent} (inOrder : ∀ earlier ∈ handledEvents s, earlier.seq < event.seq)
    {low : ℕ} (above : low < event.seq) : s.service.watermark < event.seq := by
  rcases regular.attained with zero | ⟨earlier, member, reached⟩
  · omega
  · rw [← reached]
    exact inOrder earlier member

private theorem replayed_handled {waiter : ℕ} {s t : Run.State} (sound : Sound s)
    (regular : Regular waiter s) {event : RuntimeEvent}
    (inOrder : ∀ earlier ∈ handledEvents s, earlier.seq < event.seq)
    (pushed : t.pushed = s.pushed ++ (CountedEvent.fromRuntimeEvent event).toList)
    (ascending : Ascending CountedEvent.seq t.pushed)
    {wait : Wait} (running : s.waits waiter = .running wait) : Replayed t wait := by
  have kept := regular.replayed wait running
  have cut := (sound.waits waiter wait running).cut
  cases reduced : CountedEvent.fromRuntimeEvent event with
  | none =>
    have same : t.pushed = s.pushed := by rw [pushed, reduced]; simp
    refine ⟨?_, kept.clips, ?_⟩
    · rw [same]
      exact kept.scan
    · rw [same]
      exact kept.upto
  | some counted =>
    have grown : t.pushed = s.pushed ++ [counted] := by rw [pushed, reduced]; rfl
    rw [grown] at ascending
    refine ⟨?_, kept.clips, ?_⟩
    · rw [grown]
      exact kept.scan.append ascending
    · have late : (newer CountedEvent.seq wait.plan.filters.minSeq [counted]).filter
          (fun event => event.seq ≤ wait.cut) = [] := by
        refine List.filter_eq_nil_iff.mpr fun item member => ?_
        obtain ⟨same, above⟩ := mem_newer.mp member
        rw [List.mem_singleton.mp same, from_runtime_event_seq reduced] at above ⊢
        have later := handled_above_cut regular inOrder above
        simp only [decide_eq_true_eq]
        omega
      rw [grown, newer_append, List.filter_append, late, List.append_nil]
      exact kept.upto

/-- The absorb section: what is above the cursor in the journal is all there is above it. -/
private theorem replayed_absorbed {waiter : ℕ} {s : Run.State} (sound : Sound s)
    (regular : Regular waiter s) {wait : Wait} (running : s.waits waiter = .running wait)
    (unread : NothingUnreadEvicted s wait) (generation now : ℕ) :
    Replayed s (absorbStep s wait generation now) := by
  have kept := regular.replayed wait running
  have batch := newer_of_evicted_le regular.retained unread
  have spec := absorb_section_spec s.service wait.plan.filters wait.cursor wait.accumulator
  have cursor : (absorbStep s wait generation now).cursor =
      advance CountedEvent.seq wait.cursor (newer CountedEvent.seq wait.cursor s.pushed) := by
    rw [← batch]
    exact congrArg Prod.fst spec
  have scanned : (absorbStep s wait generation now).scanned =
      wait.scanned ++ newer CountedEvent.seq wait.cursor s.pushed := by
    rw [← batch]
    rfl
  have scan := kept.scan.scan
  have all := scan.complete (newer_advance _ _)
  refine ⟨?_, ?_, ?_⟩
  · rw [cursor, scanned]
    exact scan
  · rw [scanned, List.filter_append, List.map_append]
    change wait.absorbed ++ countedBatch s.service wait.plan.filters _ = _
    rw [counted_batch_no_geometry regular.noGeometry, kept.clips, batch]
    rfl
  · rw [scanned, all]
    refine (List.filter_eq_self.mpr fun event member => ?_).symm
    obtain ⟨entry, inside, pushed⟩ := List.mem_flatMap.mp (mem_newer.mp member).1
    exact decide_eq_true ((sound.pushed entry inside).2 event pushed)

private theorem replayed_start (s : Run.State) (plan : WaitPlan) :
    Replayed s (Wait.start plan) where
  scan := Scanned.initial _ _
  clips := rfl
  upto := by
    refine (List.filter_eq_nil_iff.mpr fun event member => ?_).symm
    have above := (mem_newer.mp member).2
    change ¬ decide (event.seq ≤ 0) = true
    simp only [decide_eq_true_eq]
    omega

private theorem env_step_regular {waiter : ℕ} {s t : Run.State} {label : Label}
    (sound : Sound s) (regular : Regular waiter s) (ordered : Ordered waiter s label)
    (moved : EnvStep s label t) : Regular waiter t := by
  obtain ⟨noResync, inOrder, _⟩ := ordered
  have replayed : ∀ wait, t.waits waiter = .running wait → Replayed s wait := by
    rw [env_step_waits moved]
    exact regular.replayed
  cases moved with
  | handled event pumping =>
    have ordered := inOrder rfl event (by simp [currentEvent, pumping])
    obtain ⟨watermark, journal, windows⟩ := handle_event_section_spec s.service event
    obtain ⟨handled, pushed⟩ := handled_event_append (s := s)
      (t := { s with
        service := handleEventSection s.service event
        pump := .bumping
        sections := s.sections ++
          [⟨s.service.watermark, .handled event,
            (CountedEvent.fromRuntimeEvent event).toList⟩]
        windowLog := s.windowLog ++ [.handled event] }) rfl
    have ascending : (handledEvents s ++ [event]).Pairwise (fun a b => a.seq < b.seq) := by
      rw [List.pairwise_append]
      refine ⟨regular.ascending, List.pairwise_singleton _ _, fun earlier member last at' => ?_⟩
      rw [List.mem_singleton.mp at']
      exact ordered earlier member
    have pushedAll : s.pushed ++ (CountedEvent.fromRuntimeEvent event).toList =
        (handledEvents s ++ [event]).filterMap CountedEvent.fromRuntimeEvent := by
      rw [List.filterMap_append, ← regular.pushed]
      cases reduced : CountedEvent.fromRuntimeEvent event <;> simp [reduced]
    refine ⟨(fun _ resyncing => by cases resyncing),
      windows.noGeometry (apply_event_no_geometry regular.noGeometry event), ?_, ?_, ?_, ?_, ?_⟩
    · rw [pushed, journal]
      exact push_all_suffix regular.retained _
    · rw [pushed, handled]
      exact pushedAll
    · rw [handled]
      exact ascending
    · rw [handled, watermark]
      refine Or.inr ?_
      rcases Nat.le_total s.service.watermark event.seq with below | above
      · exact ⟨event, by simp, (Nat.max_eq_right below).symm⟩
      · rcases regular.attained with zero | ⟨earlier, member, reached⟩
        · exact ⟨event, by simp, by omega⟩
        · exact ⟨earlier, List.mem_append_left _ member, by
            rw [Nat.max_eq_left above, reached]⟩
    · intro wait running
      refine replayed_handled sound regular ordered pushed ?_ running
      rw [pushed, pushedAll]
      exact pushed_ascending ascending
  | synced snapshot pumping => exact absurd pumping (regular.calm snapshot)
  | resyncBegan => cases noResync
  | touched actor kind windowId nowMs =>
    exact regular.transfer regular.calm
      (touch_section_no_geometry regular.noGeometry kind windowId nowMs) rfl rfl rfl replayed
  | handleBegan =>
    exact regular.transfer (fun _ resyncing => by cases resyncing) regular.noGeometry rfl rfl rfl
      replayed
  | stale =>
    exact regular.transfer (fun _ resyncing => by cases resyncing) regular.noGeometry rfl rfl rfl
      replayed
  | bumped =>
    exact regular.transfer (fun _ resyncing => by cases resyncing) regular.noGeometry rfl rfl rfl
      replayed
  | ticked => exact regular.transfer regular.calm regular.noGeometry rfl rfl rfl replayed
  | stamped => exact regular.transfer regular.calm regular.noGeometry rfl rfl rfl replayed
  | marked => exact regular.transfer regular.calm regular.noGeometry rfl rfl rfl replayed
  | recorded => exact regular.transfer regular.calm regular.noGeometry rfl rfl rfl replayed

private theorem wait_move_replayed {waiter : ℕ} {s : Run.State} {label : Label} (sound : Sound s)
    (regular : Regular waiter s) (ordered : Ordered waiter s label) {task : WaitTask}
    (moved : WaitMove s label (s.waits waiter) task) :
    ∀ wait, task = .running wait → Replayed s wait := by
  intro wait running
  have unread := ordered.2.2
  generalize old : s.waits waiter = before at moved
  cases moved with
  | called => cases running
  | refused => cases running
  | planned request startedAt plan =>
    cases running
    exact replayed_start s plan
  | begun _ plan =>
    cases running
    exact replayed_start s plan
  | walked previous =>
    cases running
    have kept := regular.replayed previous old
    exact ⟨kept.scan, kept.clips, kept.upto⟩
  | subscribed previous =>
    cases running
    have kept := regular.replayed previous old
    exact ⟨kept.scan, kept.clips, kept.upto⟩
  | woken previous =>
    cases running
    have kept := regular.replayed previous old
    exact ⟨kept.scan, kept.clips, kept.upto⟩
  | resolved previous =>
    cases running
    have kept := regular.replayed previous old
    exact ⟨kept.scan, kept.clips, kept.upto⟩
  | released previous =>
    cases running
    have kept := regular.replayed previous old
    exact ⟨kept.scan, kept.clips, kept.upto⟩
  | absorbed previous generation now absorbing =>
    cases running
    have found : previous ∈ absorbingWait s waiter := by
      simp [absorbingWait, old, absorbing]
    exact replayed_absorbed sound regular old (unread previous found) generation now

private theorem wait_step_regular {waiter moving : ℕ} {s t : Run.State} {label : Label}
    {task : WaitTask} (sound : Sound s) (regular : Regular waiter s)
    (ordered : Ordered waiter s label) (moved : WaitStep s t label moving task) : Regular waiter t := by
  obtain ⟨⟨service, pending, rfl⟩, move⟩ := moved
  refine regular.transfer regular.calm (pending.windows.noGeometry regular.noGeometry)
    pending.journal pending.watermark rfl fun wait running => ?_
  change Function.update s.waits moving task waiter = .running wait at running
  by_cases same : waiter = moving
  · subst same
    rw [Function.update_self] at running
    exact wait_move_replayed sound regular ordered move wait running
  · rw [Function.update_of_ne same] at running
    exact regular.replayed wait running

private theorem initial_regular (waiter : ℕ) : Regular waiter State.new where
  calm := fun _ resyncing => by cases resyncing
  noGeometry := fun windowId window found => by simp [State.new, ServiceState.new] at found
  retained := List.suffix_refl _
  pushed := rfl
  ascending := List.Pairwise.nil
  attained := Or.inl rfl
  replayed := fun wait running => by cases running

/-- The replay law holds in every ordered run. -/
theorem regular_of_reachable {waiter : ℕ} {s : Run.State}
    (reached : Reachable machine (Ordered waiter) s) : Regular waiter s := by
  refine invariant_relative sound_of_reachable (initial_regular waiter) ?_ reached
  intro before after label sound _ regular ordered taken
  rcases step_cases taken with moved | ⟨moving, task, moved⟩
  · exact env_step_regular sound regular ordered moved
  · exact wait_step_regular sound regular ordered moved

/-! ## The two laws -/

private theorem resolved_wait_running {s : Run.State} {waiter : ℕ} {wait : Wait}
    {observation : Observation} (resolved : resolvedWait s waiter = some (wait, observation)) :
    s.waits waiter = .running wait ∧ wait.phase.observation = some observation := by
  unfold resolvedWait at resolved
  split at resolved
  · next running task =>
    obtain ⟨found, reported, same⟩ := Option.map_eq_some_iff.mp resolved
    cases same
    exact ⟨task, reported⟩
  · cases resolved

private theorem absorb_all_unclipped (filters : Filters) (events : List CountedEvent) :
    absorbAll (Accumulator.new filters)
        ((events.filter filters.counts).map fun event => (event, none)) =
      foldEvents filters events := by
  unfold absorbAll foldEvents
  rw [List.foldl_map]

/-- What a replayed wait has accumulated is the one-shot fold of what it scanned. -/
private theorem replayed_accumulator {waiter : ℕ} {s : Run.State} (sound : Sound s)
    (regular : Regular waiter s) {wait : Wait} (running : s.waits waiter = .running wait) :
    wait.accumulator = foldEvents wait.plan.filters wait.scanned := by
  rw [(sound.waits waiter wait running).folded, (regular.replayed wait running).clips,
    absorb_all_unclipped]

/-- Incremental replay is the one-shot fold: after each absorb section the accumulator is the
fold of all journaled events above the filter point, whatever was absorbed by which section. -/
theorem accumulator_eq_fold_events {waiter : ℕ} {s t : Run.State} {wait : Wait}
    (reached : Reachable machine (Ordered waiter) s)
    (absorbing : absorbingWait s waiter = some wait)
    (ok : Ordered waiter s (.waitStep waiter)) (taken : step s (.waitStep waiter) = some t) :
    ∃ moved, t.waits waiter = .running moved ∧ moved.plan = wait.plan ∧
      moved.accumulator = foldEvents wait.plan.filters
        (newer CountedEvent.seq wait.plan.filters.minSeq
          ((handledEvents s).filterMap CountedEvent.fromRuntimeEvent)) := by
  obtain ⟨running, _⟩ := absorbing_wait_running absorbing
  obtain ⟨generation, now, stepping⟩ := absorbing_step absorbing
  have stepped : t = s.setWait waiter (.running (absorbStep s wait generation now)) :=
    Option.some.inj (taken.symm.trans stepping)
  have after : t.waits waiter = .running (absorbStep s wait generation now) := by
    rw [stepped]
    exact Function.update_self ..
  have next : Reachable machine (Ordered waiter) t := .next reached ok taken
  have regular := regular_of_reachable reached
  have replayed := (regular_of_reachable next).replayed _ after
  have all : (absorbStep s wait generation now).scanned =
      newer CountedEvent.seq wait.plan.filters.minSeq s.pushed := by
    have scan := (regular.replayed wait running).scan.scan
    have batch := newer_of_evicted_le regular.retained (ok.2.2 wait absorbing)
    rw [← scan.complete (newer_advance _ _), ← batch]
    rfl
  refine ⟨_, after, rfl, ?_⟩
  rw [replayed_accumulator (sound_of_reachable next) (regular_of_reachable next) after, all,
    regular.pushed]
  rfl

/-- A wait without filters that resolves at its first counted event. -/
def changePlan : WaitPlan where
  windowId := none
  afterAction := none
  filters := ⟨none, 0, none⟩
  condition := .change
  timeoutMs := 5000
  anchorTs := 0
  startedAt := 0

def commitEvent (seq : ℕ) : RuntimeEvent := .surfaceCommit seq 0 ⟨1⟩ seq Region.empty

/-- One commit is handled, and a wait comes to its first absorb section. -/
def absorbingRun : List Label :=
  [.handleEvent (commitEvent 1), .pumpSection, .pumpBump, .runWait 0 changePlan] ++
    List.replicate 5 (.waitStep 0)

def absorbingState : Run.State := finalState machine (Ordered 0) absorbingRun (by decide +kernel)

theorem accumulator_eq_fold_events_absorbing :
    ∃ (wait : Wait) (t : Run.State) (moved : Wait),
      absorbingWait absorbingState 0 = some wait ∧
      step absorbingState (.waitStep 0) = some t ∧ t.waits 0 = .running moved ∧
      moved.plan = wait.plan ∧ moved.accumulator = foldEvents wait.plan.filters
        (newer CountedEvent.seq wait.plan.filters.minSeq
          ((handledEvents absorbingState).filterMap CountedEvent.fromRuntimeEvent)) := by
  have found : (absorbingWait absorbingState 0).isSome = true := by decide +kernel
  have taken : (step absorbingState (.waitStep 0)).isSome = true := by decide +kernel
  have ok : Ordered 0 absorbingState (.waitStep 0) := by decide +kernel
  obtain ⟨moved, after⟩ := accumulator_eq_fold_events
    (final_state_reachable machine (Ordered 0) absorbingRun (by decide +kernel))
    (Option.some_get found).symm ok (Option.some_get taken).symm
  exact ⟨_, _, moved, (Option.some_get found).symm, (Option.some_get taken).symm, after⟩

/-- The observation of a wait is a consistent cut at the watermark of its last absorb section:
every counted event at or below it is in the reported numbers, once. -/
theorem observation_is_cut {waiter : ℕ} {s : Run.State} {wait : Wait} {observation : Observation}
    (reached : Reachable machine (Ordered waiter) s)
    (resolved : resolvedWait s waiter = some (wait, observation)) :
    wait.cut ≤ observation.seq ∧
      ∃ folded, folded = foldEvents wait.plan.filters
          ((newer CountedEvent.seq wait.plan.filters.minSeq s.pushed).filter
            (fun event => event.seq ≤ wait.cut)) ∧
        observation.commits = folded.commits ∧
        observation.newWindows = folded.newWindows ∧
        observation.destroyedWindows = folded.destroyedWindows ∧
        observation.popupsAppeared = folded.popupsAppeared ∧
        observation.popupsDisappeared = folded.popupsDisappeared ∧
        observation.titleChanged = folded.titleChanged ∧
        observation.focusChanged = folded.focusChanged := by
  obtain ⟨running, reported⟩ := resolved_wait_running resolved
  have sound := sound_of_reachable reached
  have regular := regular_of_reachable reached
  have folded := replayed_accumulator sound regular running
  obtain ⟨service, nowMs, timedOut, rfl, cut⟩ :=
    (sound.waits waiter wait running).resolved observation reported
  rw [(regular.replayed wait running).upto] at folded
  exact ⟨cut, wait.accumulator, folded, rfl, rfl, rfl, rfl, rfl, rfl, rfl⟩

/-- The wait of `absorbingRun` decides on the first commit, and a second one is handled before
it resolves. -/
def lateCommitRun : List Label :=
  absorbingRun ++ List.replicate 2 (.waitStep 0) ++
    [.handleEvent (commitEvent 2), .pumpSection] ++ List.replicate 2 (.waitStep 0)

def lateCommitState : Run.State := finalState machine (Ordered 0) lateCommitRun (by decide +kernel)

private theorem late_commit_reachable : Reachable machine (Ordered 0) lateCommitState :=
  final_state_reachable machine (Ordered 0) lateCommitRun (by decide +kernel)

private theorem late_commit_resolved : (resolvedWait lateCommitState 0).isSome = true := by
  decide +kernel

theorem observation_is_cut_late_commit :
    ∃ wait observation folded, resolvedWait lateCommitState 0 = some (wait, observation) ∧
      wait.cut ≤ observation.seq ∧
        folded = foldEvents wait.plan.filters
          ((newer CountedEvent.seq wait.plan.filters.minSeq lateCommitState.pushed).filter
            (fun event => event.seq ≤ wait.cut)) ∧
        observation.commits = folded.commits := by
  obtain ⟨cut, folded, fold, commits, _⟩ :=
    observation_is_cut late_commit_reachable (Option.some_get late_commit_resolved).symm
  exact ⟨_, _, folded, (Option.some_get late_commit_resolved).symm, cut, fold, commits⟩

/-- The reported `seq` is the watermark at resolution; it may be past the cut. -/
theorem observation_not_cut_at_seq :
    ¬ ∀ (s : Run.State) (wait : Wait) (observation : Observation),
      Reachable machine (Ordered 0) s → resolvedWait s 0 = some (wait, observation) →
        observation.commits = (foldEvents wait.plan.filters
          ((newer CountedEvent.seq wait.plan.filters.minSeq s.pushed).filter
            (fun event => event.seq ≤ observation.seq))).commits := by
  intro claimed
  have equal := claimed lateCommitState _ _ late_commit_reachable
    (Option.some_get late_commit_resolved).symm
  revert equal
  decide +kernel

end ADesk.Observer.Replay
