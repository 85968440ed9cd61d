/- ADesk/Observer/Invariants
   digest: What holds of the observer in every run: the ledger of wakeups, the journal below the
   watermark, and accumulators that are folds of what was absorbed. -/

import ADesk.Observer.Resync
import ADesk.Observer.Steps

set_option autoImplicit false

namespace ADesk.Observer.Invariants

open scoped List
open ADesk.Core.Geometry (Rect)
open ADesk.Core.Event (RuntimeEvent Observation)
open ADesk.Foundation.Execution
open ADesk.Foundation.KeyedLog
open ADesk.Foundation.WatchChannel
open ADesk.Observer.Journal
open ADesk.Observer.Service
open ADesk.Observer.State
open ADesk.Observer.Waiter
open ADesk.Observer.Sections
open ADesk.Observer.Resync
open ADesk.Observer.Run
open ADesk.Observer.Steps

/-- The generation bumps the pump still owes to its recording sections. -/
def owed (s : Run.State) : ℕ := if s.pump = .bumping then 1 else 0

/-- The events pushed from the given recording section on. -/
def pushedFrom (s : Run.State) (start : ℕ) : List CountedEvent :=
  (s.sections.drop start).flatMap Section.pushed

/-- What holds of every running wait. -/
structure WaitSound (s : Run.State) (wait : Wait) : Prop where
  seen : wait.receiver.seen ≤ s.events.version
  examined : wait.examined ≤ s.sections.length
  settled : wait.phase.settled = true → wait.receiver.seen ≤ wait.examined
  folded : wait.accumulator = absorbAll (Accumulator.new wait.plan.filters) wait.absorbed
  counted : wait.absorbed.map Prod.fst = wait.scanned.filter wait.plan.filters.counts
  lower : wait.plan.filters.minSeq ≤ wait.cursor
  cut : wait.cut ≤ s.service.watermark
  unseen : newer CountedEvent.seq wait.cursor s.service.journal.buf <+
    pushedFrom s (max s.epoch wait.examined)
  resolved : ∀ observation, wait.phase.observation = some observation →
    ∃ service nowMs timedOut,
      observation = resolveSection service wait.plan wait.accumulator nowMs timedOut ∧
        wait.cut ≤ service.watermark

/-- What holds of the observer in every run. -/
structure Sound (s : Run.State) : Prop where
  ledger : Ledger s.sections.length s.events.version (owed s)
  epoch : s.epoch ≤ s.sections.length
  below : ∀ event ∈ s.service.journal.buf, event.seq ≤ s.service.watermark
  retained : s.service.journal.buf <+ pushedFrom s s.epoch
  pushed : ∀ entry ∈ s.sections, entry.before ≤ s.service.watermark ∧
    ∀ event ∈ entry.pushed, event.seq ≤ s.service.watermark
  waits : ∀ waiter wait, s.waits waiter = .running wait → WaitSound s wait

/-- What a step of the environment leaves in place for the waits. -/
structure Grows (s t : Run.State) : Prop where
  version : s.events.version ≤ t.events.version
  sections : s.sections.length ≤ t.sections.length
  watermark : s.service.watermark ≤ t.service.watermark
  unseen : ∀ (wanted : CountedEvent → Bool) (examined : ℕ), examined ≤ s.sections.length →
    s.service.journal.buf.filter wanted <+ pushedFrom s (max s.epoch examined) →
    t.service.journal.buf.filter wanted <+ pushedFrom t (max t.epoch examined)

theorem Grows.sound {s t : Run.State} (grows : Grows s t) {wait : Wait}
    (sound : WaitSound s wait) : WaitSound t wait where
  seen := sound.seen.trans grows.version
  examined := sound.examined.trans grows.sections
  settled := sound.settled
  folded := sound.folded
  counted := sound.counted
  lower := sound.lower
  cut := sound.cut.trans grows.watermark
  unseen := grows.unseen _ _ sound.examined sound.unseen
  resolved := sound.resolved

private theorem pushed_from_append {s t : Run.State} {entry : Section} {start : ℕ}
    (grown : t.sections = s.sections ++ [entry]) (inside : start ≤ s.sections.length) :
    pushedFrom t start = pushedFrom s start ++ entry.pushed := by
  unfold pushedFrom
  rw [grown, List.drop_append_of_le_length inside, List.flatMap_append]
  simp

/-- Handling an event extends the journal and the pushed events by the same counted event. -/
private theorem handled_grows {s : Run.State} (sound : Sound s) (event : RuntimeEvent)
    {t : Run.State} (service : t.service = handleEventSection s.service event)
    (events : t.events = s.events) (epoch : t.epoch = s.epoch)
    (sections : t.sections = s.sections ++
      [⟨s.service.watermark, .handled event, (CountedEvent.fromRuntimeEvent event).toList⟩]) :
    Grows s t where
  version := by rw [events]
  sections := by simp [sections]
  watermark := by
    rw [service, (handle_event_section_spec s.service event).1]
    exact Nat.le_max_left _ _
  unseen := by
    intro wanted examined inside unseen
    have spec := (handle_event_section_spec s.service event).2.1
    have suffix := push_all_suffix (List.suffix_refl s.service.journal.buf)
      (CountedEvent.fromRuntimeEvent event).toList
    have bound : max s.epoch examined ≤ s.sections.length := by
      have epochBound := sound.epoch
      omega
    rw [epoch, pushed_from_append sections bound, service, spec]
    refine (List.Sublist.filter _ suffix.sublist).trans ?_
    rw [List.filter_append]
    exact unseen.append List.filter_sublist

/-- Adopting a snapshot leaves nothing in the journal but its own synthetic events. -/
private theorem synced_grows {s : Run.State} (sound : Sound s) {snapshot : StateSnapshot}
    (fresh : ¬ staleSnapshot s.service snapshot) {t : Run.State}
    (service : t.service = (resyncSection s.service snapshot).1)
    (events : t.events = s.events) (epoch : t.epoch = s.sections.length)
    (sections : t.sections = s.sections ++
      [⟨s.service.watermark, .synced snapshot, syntheticEvents s.service snapshot⟩]) :
    Grows s t where
  version := by rw [events]
  sections := by simp [sections]
  watermark := by
    rw [service, resync_section_watermark fresh]
    exact Nat.le_of_not_lt fresh
  unseen := by
    intro wanted examined inside _
    have start : max t.epoch examined = s.sections.length := by
      rw [epoch]
      omega
    rw [start, pushed_from_append sections (Nat.le_refl _), service,
      resync_section_journal fresh sound.below]
    have nothing : pushedFrom s s.sections.length = [] := by simp [pushedFrom]
    rw [nothing, List.nil_append]
    exact List.filter_sublist.trans (List.drop_sublist _ _)

private theorem pending_only_grows {s : Run.State} {service : ServiceState}
    (pending : PendingOnly s.service service) (waiter : ℕ) (task : WaitTask) :
    Grows s ({ s with service := service }.setWait waiter task) where
  version := Nat.le_refl _
  sections := Nat.le_refl _
  watermark := Nat.le_of_eq pending.watermark.symm
  unseen := by
    intro wanted examined _ unseen
    change service.journal.buf.filter wanted <+ _
    rw [pending.journal]
    exact unseen

private theorem same_service_grows {s t : Run.State} (journal : t.service.journal = s.service.journal)
    (watermark : t.service.watermark = s.service.watermark)
    (version : s.events.version ≤ t.events.version) (sections : t.sections = s.sections)
    (epoch : t.epoch = s.epoch) : Grows s t where
  version := version
  sections := by rw [sections]
  watermark := by rw [watermark]
  unseen := by
    intro wanted examined _ unseen
    unfold pushedFrom at unseen ⊢
    rw [journal, sections, epoch]
    exact unseen

/-- Whatever the environment does, the journal holds events pushed since the last resync. -/
theorem Grows.retained {s t : Run.State} (grows : Grows s t)
    (retained : s.service.journal.buf <+ pushedFrom s s.epoch) :
    t.service.journal.buf <+ pushedFrom t t.epoch := by
  have all := grows.unseen (fun _ => true) 0 (Nat.zero_le _)
  simp only [List.filter_true, Nat.max_zero] at all
  exact all retained

theorem env_step_grows {s t : Run.State} {label : Label} (sound : Sound s)
    (moved : EnvStep s label t) : Grows s t := by
  cases moved with
  | handled event => exact handled_grows sound event rfl rfl rfl rfl
  | synced snapshot _ fresh => exact synced_grows sound fresh rfl rfl rfl rfl
  | ticked => exact same_service_grows rfl rfl (Nat.le_refl _) rfl rfl
  | handleBegan => exact same_service_grows rfl rfl (Nat.le_refl _) rfl rfl
  | resyncBegan => exact same_service_grows rfl rfl (Nat.le_refl _) rfl rfl
  | stale => exact same_service_grows rfl rfl (Nat.le_refl _) rfl rfl
  | bumped => exact same_service_grows rfl rfl (Nat.le_succ _) rfl rfl
  | stamped => exact same_service_grows rfl rfl (Nat.le_refl _) rfl rfl
  | marked => exact same_service_grows rfl rfl (Nat.le_refl _) rfl rfl
  | recorded => exact same_service_grows rfl rfl (Nat.le_refl _) rfl rfl
  | touched => exact same_service_grows rfl rfl (Nat.le_refl _) rfl rfl

theorem env_step_waits {s t : Run.State} {label : Label} (moved : EnvStep s label t) : t.waits = s.waits := by
  cases moved <;> rfl

private theorem handled_below {s : Run.State} (sound : Sound s) (event : RuntimeEvent) :
    ∀ counted ∈ (handleEventSection s.service event).journal.buf,
      counted.seq ≤ (handleEventSection s.service event).watermark := by
  intro counted member
  obtain ⟨watermark, journal, _⟩ := handle_event_section_spec s.service event
  rw [journal] at member
  rw [watermark]
  have either := (push_all_suffix (List.suffix_refl s.service.journal.buf)
    (CountedEvent.fromRuntimeEvent event).toList).subset member
  rcases List.mem_append.mp either with old | new
  · exact (sound.below counted old).trans (Nat.le_max_left _ _)
  · rw [Option.mem_toList] at new
    rw [from_runtime_event_seq new]
    exact Nat.le_max_right _ _

private theorem synced_below {s : Run.State} (sound : Sound s) {snapshot : StateSnapshot}
    (fresh : ¬ staleSnapshot s.service snapshot) :
    ∀ counted ∈ (resyncSection s.service snapshot).1.journal.buf,
      counted.seq ≤ (resyncSection s.service snapshot).1.watermark := by
  intro counted member
  rw [resync_section_journal fresh sound.below] at member
  rw [resync_section_watermark fresh,
    synthetic_events_seq s.service ((List.drop_sublist _ _).subset member)]

private theorem pushed_append {s t : Run.State} (sound : Sound s) {entry : Section}
    (sections : t.sections = s.sections ++ [entry])
    (watermark : s.service.watermark ≤ t.service.watermark)
    (before : entry.before = s.service.watermark)
    (events : ∀ event ∈ entry.pushed, event.seq ≤ t.service.watermark) :
    ∀ entry ∈ t.sections, entry.before ≤ t.service.watermark ∧
      ∀ event ∈ entry.pushed, event.seq ≤ t.service.watermark := by
  intro other member
  rw [sections, List.mem_append, List.mem_singleton] at member
  rcases member with old | rfl
  · obtain ⟨beforeOld, pushedOld⟩ := sound.pushed other old
    exact ⟨beforeOld.trans watermark, fun event inside => (pushedOld event inside).trans watermark⟩
  · exact ⟨before ▸ watermark, events⟩

/-- The environment keeps the shared part of the invariant. -/
private theorem env_step_sound {s t : Run.State} {label : Label} (sound : Sound s)
    (moved : EnvStep s label t) :
    Sound t := by
  have grows := env_step_grows sound moved
  have waits : ∀ waiter wait, t.waits waiter = .running wait → WaitSound t wait := by
    intro waiter wait running
    rw [env_step_waits moved] at running
    exact grows.sound (sound.waits waiter wait running)
  have balance := sound.ledger.balance
  cases moved with
  | handled event pumping =>
    refine ⟨⟨?_⟩, ?_, handled_below sound event, grows.retained sound.retained, ?_,
      waits⟩
    · simp only [owed, pumping] at balance ⊢
      simpa using balance
    · simpa using Nat.le_succ_of_le sound.epoch
    · refine pushed_append sound rfl grows.watermark rfl fun counted member => ?_
      rw [Option.mem_toList] at member
      rw [from_runtime_event_seq member, (handle_event_section_spec s.service event).1]
      exact Nat.le_max_right _ _
  | synced snapshot pumping fresh =>
    refine ⟨⟨?_⟩, ?_, synced_below sound fresh, grows.retained sound.retained, ?_,
      waits⟩
    · simp only [owed, pumping] at balance ⊢
      simpa using balance
    · simp
    · refine pushed_append sound rfl grows.watermark rfl fun counted member => ?_
      rw [synthetic_events_seq s.service member]
      exact (resync_section_watermark fresh).ge
  | bumped pumping =>
    refine ⟨⟨?_⟩, sound.epoch, sound.below, sound.retained, sound.pushed, waits⟩
    simp only [owed, pumping, bumpGeneration, send_modify_version] at balance ⊢
    simpa using balance
  | handleBegan event clock idle =>
    refine ⟨⟨?_⟩, sound.epoch, sound.below, sound.retained, sound.pushed, waits⟩
    simpa [owed, idle] using balance
  | resyncBegan snapshot clock idle =>
    refine ⟨⟨?_⟩, sound.epoch, sound.below, sound.retained, sound.pushed, waits⟩
    simpa [owed, idle] using balance
  | stale snapshot pumping =>
    refine ⟨⟨?_⟩, sound.epoch, sound.below, sound.retained, sound.pushed, waits⟩
    simpa [owed, pumping] using balance
  | ticked => exact ⟨⟨balance⟩, sound.epoch, sound.below, sound.retained, sound.pushed, waits⟩
  | stamped => exact ⟨⟨balance⟩, sound.epoch, sound.below, sound.retained, sound.pushed, waits⟩
  | marked => exact ⟨⟨balance⟩, sound.epoch, sound.below, sound.retained, sound.pushed, waits⟩
  | recorded => exact ⟨⟨balance⟩, sound.epoch, sound.below, sound.retained, sound.pushed, waits⟩
  | touched => exact ⟨⟨balance⟩, sound.epoch, sound.below, sound.retained, sound.pushed, waits⟩

private theorem start_sound {s : Run.State} (sound : Sound s) (plan : WaitPlan) :
    WaitSound s (Wait.start plan) where
  seen := Nat.zero_le _
  examined := Nat.zero_le _
  settled := fun settled => by cases settled
  folded := rfl
  counted := rfl
  lower := Nat.le_refl _
  cut := Nat.zero_le _
  unseen := by
    change newer _ _ _ <+ pushedFrom s (max s.epoch 0)
    rw [Nat.max_zero]
    exact (newer_sublist _ _).trans sound.retained
  resolved := fun _ resolved => by cases resolved

/-- One absorb section scans the journal above the cursor and leaves nothing above it. -/
private theorem absorbed_sound {s : Run.State} (sound : Sound s) {wait : Wait}
    (held : WaitSound s wait) (generation now : ℕ) :
    WaitSound s (absorbStep s wait generation now) := by
  have spec := absorb_section_spec s.service wait.plan.filters wait.cursor wait.accumulator
  have cursor : (absorbStep s wait generation now).cursor =
      advance CountedEvent.seq wait.cursor
        (newer CountedEvent.seq wait.cursor s.service.journal.buf) := congrArg Prod.fst spec
  have ledger := sound.ledger.balance
  have seen := held.seen
  refine ⟨held.seen, Nat.le_refl _, fun _ => ?_, ?_, ?_, ?_, Nat.le_refl _, ?_, ?_⟩
  · change wait.receiver.seen ≤ s.sections.length
    omega
  · change (absorbSection s.service wait.plan.filters wait.cursor wait.accumulator).2 =
      absorbAll _ (wait.absorbed ++ countedBatch s.service wait.plan.filters _)
    rw [spec, absorb_all_append]
    change absorbAll wait.accumulator _ =
      absorbAll (absorbAll (Accumulator.new wait.plan.filters) wait.absorbed) _
    rw [← held.folded]
  · change (wait.absorbed ++ countedBatch s.service wait.plan.filters _).map Prod.fst =
      (wait.scanned ++ _).filter wait.plan.filters.counts
    rw [List.map_append, List.filter_append, held.counted, counted_batch_events]
  · rw [cursor]
    exact held.lower.trans (cursor_le_advance _ _)
  · rw [cursor, newer_advance]
    exact List.nil_sublist _
  · intro observation resolved
    cases resolved

private theorem wait_move_sound {s : Run.State} {label : Label} (sound : Sound s) {old new : WaitTask}
    (moved : WaitMove s label old new) (held : ∀ wait, old = .running wait → WaitSound s wait) :
    ∀ wait, new = .running wait → WaitSound s wait := by
  intro wait running
  cases moved with
  | called => cases running
  | refused => cases running
  | planned request startedAt plan =>
    cases running
    exact start_sound sound plan
  | begun _ plan =>
    cases running
    exact start_sound sound plan
  | walked before phase settled unresolved =>
    cases running
    have kept := held before rfl
    exact ⟨kept.seen, kept.examined, fun now => kept.settled (settled now), kept.folded,
      kept.counted, kept.lower, kept.cut, kept.unseen, fun observation resolved => by
        change phase.observation = some observation at resolved
        rw [unresolved] at resolved
        cases resolved⟩
  | subscribed before =>
    cases running
    have kept := held before rfl
    exact ⟨Nat.le_refl _, kept.examined, (fun now => by cases now), kept.folded, kept.counted,
      kept.lower, kept.cut, kept.unseen, fun _ resolved => by cases resolved⟩
  | absorbed before generation now =>
    cases running
    exact absorbed_sound sound (held before rfl) generation now
  | woken before =>
    cases running
    have kept := held before rfl
    exact ⟨Nat.le_refl _, kept.examined, (fun now => by cases now), kept.folded, kept.counted,
      kept.lower, kept.cut, kept.unseen, fun _ resolved => by cases resolved⟩
  | resolved before timedOut nowMs settled =>
    cases running
    have kept := held before rfl
    refine ⟨kept.seen, kept.examined, fun _ => kept.settled settled, kept.folded, kept.counted,
      kept.lower, kept.cut, kept.unseen, fun observation resolved => ?_⟩
    cases resolved
    exact ⟨s.service, nowMs, timedOut, rfl, kept.cut⟩
  | released before observation resolved =>
    cases running
    have kept := held before rfl
    refine ⟨kept.seen, kept.examined, fun _ => kept.settled (by rw [resolved]; rfl), kept.folded,
      kept.counted, kept.lower, kept.cut, kept.unseen, fun other released => ?_⟩
    cases released
    exact kept.resolved observation (by rw [resolved]; rfl)

private theorem wait_step_sound {s t : Run.State} {label : Label} {waiter : ℕ} {task : WaitTask}
    (sound : Sound s) (moved : WaitStep s t label waiter task) : Sound t := by
  obtain ⟨⟨service, pending, rfl⟩, move⟩ := moved
  have grows := pending_only_grows pending waiter task
  refine ⟨⟨sound.ledger.balance⟩, sound.epoch, ?_, grows.retained sound.retained, ?_, ?_⟩
  · intro event member
    change event ∈ service.journal.buf at member
    change event.seq ≤ service.watermark
    rw [pending.journal] at member
    rw [pending.watermark]
    exact sound.below event member
  · intro entry member
    change _ ≤ service.watermark ∧ ∀ event ∈ entry.pushed, event.seq ≤ service.watermark
    rw [pending.watermark]
    exact sound.pushed entry member
  · intro other wait running
    change Function.update s.waits waiter task other = .running wait at running
    by_cases same : other = waiter
    · subst same
      rw [Function.update_self] at running
      exact grows.sound (wait_move_sound sound move
        (fun before old => sound.waits other before old) wait running)
    · rw [Function.update_of_ne same] at running
      exact grows.sound (sound.waits other wait running)

/-- One step keeps the invariant. -/
theorem step_sound {s t : Run.State} {label : Label} (sound : Sound s)
    (taken : step s label = some t) : Sound t := by
  rcases step_cases taken with moved | ⟨waiter, task, moved⟩
  · exact env_step_sound sound moved
  · exact wait_step_sound sound moved

private theorem initial_sound : Sound State.new where
  ledger := ⟨rfl⟩
  epoch := Nat.le_refl _
  below := fun event member => by cases member
  retained := List.Sublist.slnil
  pushed := fun entry member => by cases member
  waits := fun waiter wait running => by cases running

/-- The invariant holds of every state that any run reaches. -/
theorem sound_of_reachable {allowed : Run.State → Label → Prop} {s : Run.State}
    (reached : Reachable machine allowed s) : Sound s :=
  Inductive.holds (P := Sound)
    ⟨initial_sound, fun {_ _ _} sound _ taken => step_sound sound taken⟩ reached

end ADesk.Observer.Invariants
