/- ADesk/Observer/Adoption
   digest: What adopting a snapshot does to windows, journal and watermark in any reachable state,
   and which of its synthetic events a waiter counts. -/

import ADesk.Observer.Invariants

set_option autoImplicit false

namespace ADesk.Observer.Adoption

open ADesk.Core.Ids (WindowId WindowMap)
open ADesk.Core.Geometry (Rect)
open ADesk.Core.Event (RuntimeEvent)
open ADesk.Foundation.Execution
open ADesk.Foundation.KeyedLog
open ADesk.Observer.Journal
open ADesk.Observer.Service
open ADesk.Observer.State
open ADesk.Observer.Waiter
open ADesk.Observer.Sections
open ADesk.Observer.Resync
open ADesk.Observer.Run
open ADesk.Observer.Steps
open ADesk.Observer.Invariants

/-- What the snapshot shows and the window table does not: one creation per missed window, one
commit per known window that advanced, one destruction per window that is gone. -/
def missedEvents (windows : WindowMap WindowTemporalState) (snapshot : StateSnapshot) :
    List CountedEvent :=
  snapshot.windows.filterMap (coverEvent snapshot windows) ++
    (goneWindows windows snapshot).map fun windowId => syntheticEvent snapshot windowId .destroyed

private theorem missed_events_eq_synthetic {state : ServiceState} {snapshot : StateSnapshot}
    (distinct : snapshot.windowIds.Nodup) :
    syntheticEvents state snapshot = missedEvents state.windows snapshot :=
  (reconcile_spec state.windows snapshot distinct _).2.2

/-- The journal keeps its capacity, and after a resync it holds nothing but what that resync
journaled until the next event is handled. -/
structure Stored (s : Run.State) : Prop where
  capacity : s.service.journal.capacity = defaultJournalCapacity
  adopted : ∀ entry, s.sections.getLast? = some entry →
    ∀ snapshot, entry.source = .synced snapshot →
      s.service.journal.buf = entry.pushed.rtake defaultJournalCapacity

private theorem Stored.kept {s t : Run.State} (stored : Stored s)
    (journal : t.service.journal = s.service.journal) (sections : t.sections = s.sections) :
    Stored t := by
  refine ⟨?_, ?_⟩
  · rw [journal]
    exact stored.capacity
  · rw [journal, sections]
    exact stored.adopted

private theorem env_step_stored {s t : Run.State} {label : Label} (sound : Sound s)
    (stored : Stored s) (moved : EnvStep s label t) : Stored t := by
  cases moved with
  | handled event =>
    refine ⟨?_, fun entry last snapshot source => ?_⟩
    · change (handleEventSection s.service event).journal.capacity = _
      rw [(handle_event_section_spec s.service event).2.1, push_all_capacity]
      exact stored.capacity
    · rw [List.getLast?_concat] at last
      cases last
      cases source
  | synced snapshot pumping fresh =>
    have journal := resync_section_journal fresh sound.below
    rw [stored.capacity] at journal
    refine ⟨?_, fun entry last other source => ?_⟩
    · change (resyncSection s.service snapshot).1.journal.capacity = _
      unfold resyncSection
      rw [if_neg fresh, push_all_capacity, prune_through_capacity]
      exact stored.capacity
    · rw [List.getLast?_concat] at last
      cases last
      exact journal
  | ticked => exact stored.kept rfl rfl
  | handleBegan => exact stored.kept rfl rfl
  | resyncBegan => exact stored.kept rfl rfl
  | stale => exact stored.kept rfl rfl
  | bumped => exact stored.kept rfl rfl
  | stamped => exact stored.kept rfl rfl
  | marked => exact stored.kept rfl rfl
  | recorded => exact stored.kept rfl rfl
  | touched => exact stored.kept rfl rfl

theorem stored_of_reachable {allowed : Run.State → Label → Prop} {s : Run.State}
    (reached : Reachable machine allowed s) : Stored s := by
  refine invariant_relative sound_of_reachable ⟨rfl, fun entry last => by cases last⟩ ?_ reached
  intro before after label sound _ stored _ taken
  rcases step_cases taken with moved | ⟨waiter, task, moved⟩
  · exact env_step_stored sound stored moved
  · obtain ⟨⟨service, pending, rfl⟩, _⟩ := moved
    exact stored.kept pending.journal rfl

/-- A batch of events that all carry one sequence is above the cursor entirely or not at all. -/
private theorem newer_of_constant {events : List CountedEvent} {seq : ℕ}
    (constant : ∀ event ∈ events, event.seq = seq) (cursor : ℕ) :
    newer CountedEvent.seq cursor events = if cursor < seq then events else [] := by
  unfold newer
  split
  · next above =>
    refine List.filter_eq_self.mpr fun event member => ?_
    rw [constant event member]
    exact decide_eq_true above
  · next below =>
    refine List.filter_eq_nil_iff.mpr fun event member => ?_
    rw [constant event member]
    simpa using below

/-- The windows after a snapshot is adopted: its ids, the greater commit sequences, its
geometries, all uncertain. -/
private theorem adopted_windows {state : ServiceState} {snapshot : StateSnapshot}
    (fresh : ¬ staleSnapshot state snapshot) (distinct : snapshot.windowIds.Nodup) :
    ∀ window ∈ snapshot.windows, ∃ adopted : WindowTemporalState,
      (resyncSection state snapshot).1.windows[window.windowId]? = some adopted ∧
        adopted.lastCommitSeq =
          max ((trackedCommit state.windows window.windowId).getD 0) window.lastCommitSeq ∧
        adopted.stateUncertain = true ∧ adopted.geometry = some window.geometry := by
  intro window member
  have lookup := (reconcile_spec state.windows snapshot distinct
    { snapshotSeq := max state.watermark snapshot.seq
      eventsDropped := (state.journal.pruneThrough snapshot.seq).2 }).2.1 window member
  have windows : (resyncSection state snapshot).1.windows =
      (reconciliation state snapshot).windows := by
    unfold resyncSection
    rw [if_neg fresh]
  obtain ⟨geometry, uncertain⟩ :=
    covered_state_flags snapshot state.windows[window.windowId]? window
  refine ⟨_, ?_, covered_state_commit snapshot _ window, uncertain, geometry⟩
  rw [windows]
  exact lookup

/-- The absorb section of a wait when every journaled event carries one sequence. -/
private theorem absorb_constant {u : Run.State} (sound : Sound u) {waiter : ℕ} {wait : Wait}
    (absorbing : absorbingWait u waiter = some wait) {seq : ℕ}
    (constant : ∀ event ∈ u.service.journal.buf, event.seq = seq) :
    ∃ moved, step u (.waitStep waiter) = some (u.setWait waiter (.running moved)) ∧
      moved.scanned = wait.scanned ++ (if wait.cursor < seq then u.service.journal.buf else []) ∧
      moved.absorbed.map Prod.fst = moved.scanned.filter wait.plan.filters.counts ∧
      newer CountedEvent.seq moved.cursor u.service.journal.buf = [] := by
  obtain ⟨running, _⟩ := absorbing_wait_running absorbing
  obtain ⟨generation, now, stepping⟩ := absorbing_step absorbing
  have held := sound.waits waiter wait running
  have spec := absorb_section_spec u.service wait.plan.filters wait.cursor wait.accumulator
  refine ⟨_, stepping, ?_, ?_, ?_⟩
  · rw [← newer_of_constant constant]
    rfl
  · change (wait.absorbed ++ countedBatch u.service wait.plan.filters _).map Prod.fst =
      (wait.scanned ++ _).filter wait.plan.filters.counts
    rw [List.map_append, List.filter_append, held.counted, counted_batch_events]
  · change newer CountedEvent.seq
      (absorbSection u.service wait.plan.filters wait.cursor wait.accumulator).1 _ = []
    rw [spec]
    exact newer_advance _ _

/-- A resync with an old snapshot changes nothing. Otherwise the tracked windows become those of
the snapshot, the watermark its sequence, and the journal the newest of the events it shows to
have been missed; each waiter whose cursor is below the snapshot scans them once, any other
never. -/
theorem resync_adopts {s t : Run.State} {snapshot : StateSnapshot}
    (reached : Reachable machine anyStep s) (resyncing : s.pump = .resyncing snapshot)
    (distinct : snapshot.windowIds.Nodup) (taken : step s .pumpSection = some t) :
    (snapshot.seq < s.service.watermark → t.service = s.service) ∧
    (s.service.watermark ≤ snapshot.seq →
      (∀ windowId, Tracked t.service windowId ↔ windowId ∈ snapshot.windowIds) ∧
      (∀ window ∈ snapshot.windows, ∃ adopted : WindowTemporalState,
        t.service.windows[window.windowId]? = some adopted ∧
          adopted.lastCommitSeq =
            max ((trackedCommit s.service.windows window.windowId).getD 0) window.lastCommitSeq ∧
          adopted.stateUncertain = true ∧ adopted.geometry = some window.geometry) ∧
      t.service.watermark = snapshot.seq ∧
      t.service.journal.buf =
        (missedEvents s.service.windows snapshot).rtake defaultJournalCapacity ∧
      (∀ event ∈ t.service.journal.buf, event.seq = snapshot.seq) ∧
      ∀ u, Reachable machine anyStep u → u.sections = t.sections →
        ∀ waiter wait, absorbingWait u waiter = some wait →
          ∃ moved, step u (.waitStep waiter) = some (u.setWait waiter (.running moved)) ∧
            moved.scanned = wait.scanned ++
              (if wait.cursor < snapshot.seq then t.service.journal.buf else []) ∧
            moved.absorbed.map Prod.fst = moved.scanned.filter wait.plan.filters.counts ∧
            newer CountedEvent.seq moved.cursor t.service.journal.buf = []) := by
  have stepped : pumpSection s = some t := taken
  unfold pumpSection at stepped
  simp only [resyncing] at stepped
  refine ⟨fun old => ?_, fun reachedSeq => ?_⟩
  · rw [if_pos (show staleSnapshot s.service snapshot from old)] at stepped
    cases stepped
    rfl
  · have fresh : ¬ staleSnapshot s.service snapshot := Nat.not_lt.mpr reachedSeq
    rw [if_neg fresh] at stepped
    have sections : t.sections = s.sections ++
        [⟨s.service.watermark, .synced snapshot, syntheticEvents s.service snapshot⟩] := by
      cases stepped
      rfl
    have service : t.service = (resyncSection s.service snapshot).1 := by
      cases stepped
      rfl
    have stored : ∀ u, Reachable machine anyStep u → u.sections = t.sections →
        u.service.journal.buf =
          (missedEvents s.service.windows snapshot).rtake defaultJournalCapacity := by
      intro u reachedU same
      have last := (stored_of_reachable reachedU).adopted _
        (by rw [same, sections, List.getLast?_concat]) snapshot rfl
      rw [last, missed_events_eq_synthetic distinct]
    have journal := stored t
      (.next reached trivial (show machine.step s .pumpSection = some t from taken)) rfl
    have seqs : ∀ event ∈ t.service.journal.buf, event.seq = snapshot.seq := by
      intro event member
      rw [journal, ← missed_events_eq_synthetic distinct] at member
      exact synthetic_events_seq s.service ((List.drop_sublist _ _).subset member)
    refine ⟨?_, ?_, ?_, journal, seqs, ?_⟩
    · rw [service]
      exact resync_section_tracked fresh
    · rw [service]
      exact adopted_windows fresh distinct
    · rw [service]
      exact resync_section_watermark fresh
    · intro u reachedU same waiter wait absorbing
      have buffer : u.service.journal.buf = t.service.journal.buf :=
        (stored u reachedU same).trans journal.symm
      rw [← buffer] at seqs ⊢
      exact absorb_constant (sound_of_reachable reachedU) absorbing seqs

def unitGeometry : Rect := ⟨0, 0, 1, 1⟩

/-- A snapshot of the one window `2` at the given sequence. -/
def otherWindow (seq : ℕ) : StateSnapshot := ⟨seq, 0, [⟨⟨2⟩, 0, unitGeometry, 0⟩]⟩

/-- Window `1` was created, then a snapshot shows window `2` alone. -/
def replacedRun : List Label :=
  [.handleEvent (.windowCreated 1 0 ⟨1⟩ none none none none), .pumpSection, .pumpBump,
    .resync (otherWindow 5)]

def replacedState : Run.State := finalState machine anyStep replacedRun (by decide +kernel)

theorem resync_adopts_replaced :
    ∃ t, step replacedState .pumpSection = some t ∧ t.service.watermark = 5 ∧
      (∀ windowId, Tracked t.service windowId ↔ windowId ∈ (otherWindow 5).windowIds) ∧
      t.service.journal.buf =
        (missedEvents replacedState.service.windows (otherWindow 5)).rtake
          defaultJournalCapacity := by
  have taken : (step replacedState .pumpSection).isSome = true := by decide +kernel
  obtain ⟨_, adopted⟩ := resync_adopts
    (final_state_reachable machine anyStep replacedRun (by decide +kernel))
    (show replacedState.pump = .resyncing (otherWindow 5) by decide +kernel)
    (by decide) (Option.some_get taken).symm
  obtain ⟨tracked, _, watermark, journal, _⟩ := adopted (by decide +kernel)
  exact ⟨_, (Option.some_get taken).symm, watermark, tracked, journal⟩

/-- A waiter without filters that samples until its timeout. -/
def samplingPlan : WaitPlan where
  windowId := none
  afterAction := none
  filters := ⟨none, 0, none⟩
  condition := .timeout
  timeoutMs := 5000
  anchorTs := 0
  startedAt := 0

/-- A waiter scans the creation of window `1`, and a snapshot of the same sequence is adopted
before it looks again. -/
def scannedRun : List Label :=
  [.handleEvent (.windowCreated 1 0 ⟨1⟩ none none none none), .pumpSection, .pumpBump,
    .runWait 0 samplingPlan] ++ List.replicate 8 (.waitStep 0) ++ [.resync (otherWindow 1)]

def scannedState : Run.State := finalState machine anyStep scannedRun (by decide +kernel)

def adoptedRun : List Label := [.pumpSection, .pumpBump, .wakeChanged 0, .waitStep 0, .waitStep 0]

def adoptedState : Run.State :=
  finalState machine anyStep (scannedRun ++ adoptedRun) (by decide +kernel)

private theorem scanned_adopts : (step scannedState .pumpSection).isSome = true := by
  decide +kernel

private theorem adopted_absorbing : (absorbingWait adoptedState 0).isSome = true := by
  decide +kernel

/-- More windows than the journal can hold. -/
def crowdedSnapshot : StateSnapshot where
  seq := 1
  tsMs := 0
  windows := (List.range (defaultJournalCapacity + 1)).map fun id => ⟨⟨id⟩, 0, unitGeometry, 0⟩

private theorem crowded_snapshot_missed :
    (missedEvents ∅ crowdedSnapshot).length = defaultJournalCapacity + 1 := by
  have all : ∀ window ∈ crowdedSnapshot.windows,
      coverEvent crowdedSnapshot ∅ window =
        some (syntheticEvent crowdedSnapshot window.windowId .created) := by
    intro window _
    simp [coverEvent, trackedCommit]
  have none : goneWindows ∅ crowdedSnapshot = [] := by
    simp [goneWindows]
  unfold missedEvents
  rw [none, List.filterMap_congr all, List.map_nil, List.append_nil]
  simp [crowdedSnapshot]

private theorem crowded_snapshot_distinct : crowdedSnapshot.windowIds.Nodup := by
  unfold StateSnapshot.windowIds crowdedSnapshot
  rw [List.map_map]
  refine List.Nodup.map (fun first second same => ?_) List.nodup_range
  exact congrArg WindowId.val same

/-- Neither does the journal hold every missed event, nor does every waiter below the snapshot
count those it holds. -/
theorem adoption_not_exact :
    (¬ ∀ (s t : Run.State) (snapshot : StateSnapshot), Reachable machine anyStep s →
      s.pump = .resyncing snapshot → snapshot.windowIds.Nodup →
      step s .pumpSection = some t → s.service.watermark ≤ snapshot.seq →
        t.service.journal.buf = missedEvents s.service.windows snapshot) ∧
    ¬ ∀ (s t u : Run.State) (snapshot : StateSnapshot) (wait moved : Wait),
      Reachable machine anyStep s → s.pump = .resyncing snapshot →
      snapshot.windowIds.Nodup → step s .pumpSection = some t →
      s.service.watermark ≤ snapshot.seq → Reachable machine anyStep u →
      u.sections = t.sections → absorbingWait u 0 = some wait →
      wait.plan.filters = ⟨none, wait.plan.filters.minSeq, none⟩ →
      wait.plan.filters.minSeq < snapshot.seq →
      step u (.waitStep 0) = some (u.setWait 0 (.running moved)) →
        ∀ event ∈ missedEvents s.service.windows snapshot,
          event ∈ moved.absorbed.map Prod.fst := by
  refine ⟨fun claimed => ?_, fun claimed => ?_⟩
  · have began : Reachable machine anyStep
        { State.new with
          clock := State.new.clock.observeTs State.new.instant crowdedSnapshot.tsMs
          pump := .resyncing crowdedSnapshot } :=
      .next .start trivial (show machine.step State.new (.resync crowdedSnapshot) = some _ from rfl)
    obtain ⟨t, taken⟩ : ∃ t, pumpSection
        { State.new with
          clock := State.new.clock.observeTs State.new.instant crowdedSnapshot.tsMs
          pump := .resyncing crowdedSnapshot } = some t := ⟨_, rfl⟩
    have journal := claimed _ t _ began rfl crowded_snapshot_distinct taken (Nat.zero_le _)
    have fits := t.service.journal.fits
    have capacity := (stored_of_reachable (.next began trivial
      (show machine.step _ .pumpSection = some t from taken))).capacity
    have crowded := crowded_snapshot_missed
    rw [journal, capacity] at fits
    change (missedEvents ∅ crowdedSnapshot).length ≤ _ at fits
    omega
  · have began := final_state_reachable machine anyStep scannedRun (by decide +kernel)
    have reached := final_state_reachable machine anyStep (scannedRun ++ adoptedRun)
      (by decide +kernel)
    obtain ⟨generation, now, stepping⟩ := absorbing_step (Option.some_get adopted_absorbing).symm
    have counted := claimed scannedState ((step scannedState .pumpSection).get scanned_adopts)
      adoptedState (otherWindow 1) ((absorbingWait adoptedState 0).get adopted_absorbing) _ began
      (by decide +kernel) (by decide) (Option.some_get scanned_adopts).symm (by decide +kernel) reached
      (by decide +kernel)
      (Option.some_get adopted_absorbing).symm (by decide +kernel) (by decide +kernel) stepping
      (syntheticEvent (otherWindow 1) ⟨1⟩ .destroyed) (by decide +kernel)
    change _ ∈ (absorbStep adoptedState ((absorbingWait adoptedState 0).get adopted_absorbing)
      0 0).absorbed.map Prod.fst at counted
    revert counted
    decide +kernel

end ADesk.Observer.Adoption
