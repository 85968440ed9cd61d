/- ADesk/Runtime/Horizon
   digest: The watermark of the observer cuts the event stream at the pump's horizon, whatever was
   skipped by a lag or replayed after it. -/

import ADesk.Foundation.LogCut
import ADesk.Observer.Resync
import ADesk.Runtime.Sequence

set_option autoImplicit false

namespace ADesk.Runtime.Horizon

open ADesk.Core.Ids (LaunchId)
open ADesk.Core.Event
open ADesk.Compositor.Events
open ADesk.Compositor.State
open ADesk.Foundation.Broadcast
open ADesk.Foundation.Execution
open ADesk.Foundation.LogCut
open ADesk.Observer.Resync (resync_section_watermark)
open ADesk.Observer.Sections
open ADesk.Observer.Service (staleSnapshot handleEventSection resyncSection)
open ADesk.Observer.Steps (EnvStep byWaiter env_step_cases waiter_step_cases)
open ADesk.Wm.Policy (PolicyConfig)
open ADesk.Runtime.Run
open ADesk.Runtime.Sequence
open ADesk.Runtime.Steps

/-! ## What observer steps do to watermark and pump -/

def watermark (s : State) : ℕ := s.observer.service.watermark

/-- Observer steps outside the pump. -/
structure Quiet (before after : Observer.Run.State) : Prop where
  watermark : after.service.watermark = before.service.watermark
  pump : after.pump = before.pump

theorem waiter_quiet {before after : Observer.Run.State} {label : Observer.Run.Label}
    (moving : byWaiter label = true) (stepped : Observer.Run.step before label = some after) :
    Quiet before after := by
  obtain ⟨waiter, task, moved⟩ := waiter_step_cases moving stepped
  obtain ⟨service, pending, rfl⟩ := moved.shared
  exact ⟨pending.watermark, rfl⟩

theorem by_waiter_of_label {label : Observer.Run.Label} (waiter : waiterLabel label = true) :
    byWaiter label = true := by
  cases label <;> first | rfl | cases waiter

theorem action_began_quiet {before after : Observer.Run.State} {id : ℕ}
    {kind : Observer.Actions.ActionKind} {windowId : Option Core.Ids.WindowId}
    {position : Option Position}
    (stepped : Observer.Run.step before (.recordAction id kind windowId position) = some after) :
    Quiet before after := by
  cases env_step_cases rfl stepped
  exact ⟨rfl, rfl⟩

theorem action_stepped_quiet {before after : Observer.Run.State} {id : ℕ}
    (stepped : Observer.Run.step before (.actorStep id) = some after) : Quiet before after := by
  cases env_step_cases rfl stepped with
  | marked => exact ⟨rfl, rfl⟩
  | recorded => exact ⟨rfl, rfl⟩
  | touched => exact ⟨rfl, rfl⟩

theorem pump_bumped {before after : Observer.Run.State}
    (stepped : Observer.Run.step before .pumpBump = some after) :
    before.pump = .bumping ∧ after.pump = .idle ∧ after.service = before.service := by
  cases env_step_cases rfl stepped with
  | bumped pumping => exact ⟨pumping, rfl, rfl⟩

theorem handle_began {before after : Observer.Run.State} {event : RuntimeEvent}
    (stepped : Observer.Run.step before (.handleEvent event) = some after) :
    after.pump = .handling event ∧ after.service = before.service := by
  cases env_step_cases rfl stepped
  exact ⟨rfl, rfl⟩

theorem resync_began {before after : Observer.Run.State}
    {snapshot : Observer.State.StateSnapshot}
    (stepped : Observer.Run.step before (.resync snapshot) = some after) :
    after.pump = .resyncing snapshot ∧ after.service = before.service := by
  cases env_step_cases rfl stepped
  exact ⟨rfl, rfl⟩

/-- The state section raises the watermark to its event or adopts that of its snapshot. -/
theorem pump_sectioned {before after : Observer.Run.State}
    (stepped : Observer.Run.step before .pumpSection = some after) :
    (∃ event, before.pump = .handling event ∧ after.pump = .bumping ∧
      after.service.watermark = max before.service.watermark event.seq) ∨
    ∃ snapshot, before.pump = .resyncing snapshot ∧
      ((after.pump = .idle ∧ after.service.watermark = before.service.watermark ∧
          snapshot.seq < before.service.watermark) ∨
        (after.pump = .bumping ∧ after.service.watermark = snapshot.seq)) := by
  cases env_step_cases rfl stepped with
  | handled event pumping =>
    exact Or.inl ⟨event, pumping, rfl, (handle_event_section_spec _ event).1⟩
  | stale snapshot pumping old => exact Or.inr ⟨snapshot, pumping, Or.inl ⟨rfl, rfl, old⟩⟩
  | synced snapshot pumping fresh =>
    exact Or.inr ⟨snapshot, pumping, Or.inr ⟨rfl, resync_section_watermark fresh⟩⟩

theorem correlate_window_seq (correlated : Option LaunchId) (event : RuntimeEvent) :
    (correlateWindow correlated event).seq = event.seq := by
  unfold correlateWindow
  split <;> rfl

theorem correlate_window_kind (correlated : Option LaunchId) (event : RuntimeEvent) :
    (correlateWindow correlated event).kind = event.kind := by
  unfold correlateWindow
  split <;> rfl

/-! ## The horizon -/

/-- Position and number that separate the stream; the server's own events may come late. -/
def StreamCut (log : List RuntimeEvent) (position bound : ℕ) : Prop :=
  Cut RuntimeEvent.seq (fun event => event.kind.synthesized) log position bound

/-- Sending appends at most one event, numbered above all allocated ones unless the server made
it. -/
inductive Grown (s t : State) : Prop
  | same (log : t.log = s.log)
  | sent (event : RuntimeEvent) (log : t.log = s.log ++ [event])
      (later : event.kind.synthesized = false → lastSeq s < event.seq)

theorem Grown.cut {s t : State} (grown : Grown s t) {position bound : ℕ}
    (cut : StreamCut s.log position bound) (allocated : bound ≤ lastSeq s) :
    StreamCut t.log position bound := by
  cases grown with
  | same log => exact log ▸ cut
  | sent event log later =>
    rw [log]
    exact Cut.append cut fun native => Nat.lt_of_le_of_lt allocated (later native)

theorem move_log {s t : State} {label : Label} (moved : Move s label t) :
    Grown s t ∧ lastSeq s ≤ lastSeq t := by
  cases moved with
  | emitted emission rest owed =>
    refine ⟨.sent _ rfl fun _ => ?_, Nat.le_succ _⟩
    rw [emission_seq]
    exact Nat.lt_succ_self _
  | published id handler synthesis seq tsMs found publishing =>
    refine ⟨.sent _ rfl fun native => ?_, Nat.le_refl _⟩
    rw [synthesis_synthesized] at native
    cases native
  | served requester command rest free queue =>
    exact ⟨.same rfl, handle_command_last_seq _ _ _⟩
  | ticked | client | answered | replied | lagged | received | sectioned | bumped | inboxed
  | inboxBumped | resyncBegan | resyncDone | synthesizing | actionBegan | actionStepped
  | actionRecorded | clockRead | issued | finished | refused | waited | inboxWaited =>
    exact ⟨.same rfl, Nat.le_refl _⟩

/-- A snapshot that the pump is about to adopt. -/
structure Covering (s : State) (position seq : ℕ) : Prop where
  cut : StreamCut s.log position seq
  reached : s.cursor.next ≤ position
  known : watermark s ≤ seq
  allocated : seq ≤ lastSeq s

/-- The observer's part of the pump is done, and nothing received is ahead of the horizon. -/
def Settled (s : State) : Prop :=
  (s.observer.pump = .bumping ∨ s.observer.pump = .idle) ∧ s.cursor.next ≤ s.horizon

/-- The pump's event is the last one received. -/
def Received (s : State) (event : RuntimeEvent) : Prop :=
  ∃ raw correlated, 0 < s.cursor.next ∧ s.log[s.cursor.next - 1]? = some raw ∧
    event = correlateWindow correlated raw

/-- What the pump's position means for the observer and the horizon. -/
def PumpSound (s : State) : Prop :=
  match s.pump with
  | .idle | .recording => s.observer.pump = .idle ∧ s.cursor.next ≤ s.horizon
  | .observing event =>
    Received s event ∧
      ((s.observer.pump = .handling event ∧ s.cursor.next ≤ s.horizon + 1) ∨ Settled s)
  | .querying => s.observer.pump = .idle
  | .answered snapshot position =>
    s.observer.pump = .idle ∧ Covering s position snapshot.seq
  | .resyncing position =>
    (∃ snapshot, s.observer.pump = .resyncing snapshot ∧ Covering s position snapshot.seq) ∨
      Settled s

structure Accounted (s : State) : Prop where
  cut : StreamCut s.log s.horizon (watermark s)
  received : s.cursor.next ≤ s.log.length
  allocated : watermark s ≤ lastSeq s
  serving : ∀ requester snapshot, s.serving = some (requester, .snapshot snapshot) →
    snapshot.seq = lastSeq s ∧ s.outbox = []
  pump : PumpSound s

/-- The pump, its observer section and its position are untouched. -/
private structure Aside (s t : State) : Prop where
  grown : Grown s t
  last : lastSeq s ≤ lastSeq t
  observer : Quiet s.observer t.observer
  cursor : t.cursor = s.cursor
  pump : t.pump = s.pump
  horizon : t.horizon = s.horizon

theorem Grown.length {s t : State} (grown : Grown s t) : s.log.length ≤ t.log.length := by
  cases grown with
  | same log => rw [log]
  | sent event log =>
    rw [log, List.length_append]
    exact Nat.le_add_right _ _

theorem Grown.indexed {s t : State} (grown : Grown s t) {position : ℕ} {event : RuntimeEvent}
    (found : s.log[position]? = some event) : t.log[position]? = some event := by
  cases grown with
  | same log => rw [log, found]
  | sent new log =>
    rw [log, List.getElem?_append_left (List.getElem?_eq_some_iff.mp found).1, found]

private theorem Aside.covering {s t : State} (aside : Aside s t) {position seq : ℕ}
    (covering : Covering s position seq) : Covering t position seq where
  cut := aside.grown.cut covering.cut covering.allocated
  reached := aside.cursor ▸ covering.reached
  known := (congrArg (· ≤ seq) aside.observer.watermark).mpr covering.known
  allocated := covering.allocated.trans aside.last

private theorem Aside.pumpSound {s t : State} (aside : Aside s t) (sound : PumpSound s) :
    PumpSound t := by
  have received : ∀ event, Received s event → Received t event := by
    rintro event ⟨raw, correlated, positive, found, same⟩
    unfold Received
    rw [aside.cursor]
    exact ⟨raw, correlated, positive, aside.grown.indexed found, same⟩
  unfold PumpSound Settled at sound ⊢
  rw [aside.pump, aside.observer.pump, aside.cursor, aside.horizon]
  split at sound
  · exact sound
  · exact sound
  · exact ⟨received _ sound.1, sound.2⟩
  · exact sound
  · exact ⟨sound.1, aside.covering sound.2⟩
  · rcases sound with ⟨snapshot, resyncing, covering⟩ | settled
    · exact Or.inl ⟨snapshot, resyncing, aside.covering covering⟩
    · exact Or.inr settled

private theorem Aside.accounted {s t : State} (aside : Aside s t) (accounted : Accounted s)
    (serving : ∀ requester snapshot, t.serving = some (requester, .snapshot snapshot) →
      snapshot.seq = lastSeq t ∧ t.outbox = []) : Accounted t where
  cut := by
    unfold watermark
    rw [aside.horizon, aside.observer.watermark]
    exact aside.grown.cut accounted.cut accounted.allocated
  received := by
    rw [aside.cursor]
    exact accounted.received.trans aside.grown.length
  allocated := by
    unfold watermark
    rw [aside.observer.watermark]
    exact accounted.allocated.trans aside.last
  serving := serving
  pump := aside.pumpSound accounted.pump

private theorem rising {s : State} (numbered : Numbered s) :
    Rising RuntimeEvent.seq (fun event => event.kind.synthesized) s.log := numbered.rising

/-- Handling the received event moves the horizon past it, unless it is replayed. -/
private theorem handled_cut {s : State} (numbered : Numbered s) (accounted : Accounted s)
    {event : RuntimeEvent} (received : Received s event) (near : s.cursor.next ≤ s.horizon + 1) :
    StreamCut s.log (max s.horizon s.cursor.next) (max (watermark s) event.seq) := by
  obtain ⟨raw, correlated, positive, found, rfl⟩ := received
  rw [correlate_window_seq]
  rcases Nat.lt_or_ge (s.cursor.next - 1) s.horizon with before | ahead
  · have same := accounted.cut.replayed before found
    rw [same, Nat.max_eq_left (by omega)]
    exact accounted.cut
  · have position : s.horizon = s.cursor.next - 1 := by omega
    have moved := accounted.cut.advance (rising numbered) (position ▸ found)
    rw [Nat.max_eq_right (by omega)]
    rwa [show s.horizon + 1 = s.cursor.next by omega] at moved

private theorem sectioned_accounted {s : State} (numbered : Numbered s) (accounted : Accounted s)
    {position : ℕ} {observer : Observer.Run.State}
    (accounts : (∃ event, s.pump = .observing event ∧ position = s.cursor.next) ∨
      s.pump = .resyncing position)
    (stepped : Observer.Run.step s.observer .pumpSection = some observer) :
    Accounted { s with observer := observer, horizon := max s.horizon position } := by
  have sound := accounted.pump
  rcases pump_sectioned stepped with ⟨event, handling, bumping, raised⟩ |
    ⟨snapshot, resyncing, outcome⟩
  · rcases accounts with ⟨observed, pumping, rfl⟩ | pumping
    · simp only [PumpSound, pumping] at sound
      obtain ⟨received, phase⟩ := sound
      rcases phase with ⟨current, near⟩ | ⟨busy, _⟩
      · rw [handling] at current
        cases current
        have cut := handled_cut numbered accounted received near
        obtain ⟨raw, correlated, positive, found, same⟩ := received
        refine ⟨?_, accounted.received, ?_, accounted.serving, ?_⟩
        · change StreamCut s.log _ observer.service.watermark
          rw [raised]
          exact cut
        · change observer.service.watermark ≤ lastSeq s
          rw [raised, same, correlate_window_seq]
          exact Nat.max_le.mpr ⟨accounted.allocated,
            numbered.below raw (List.mem_of_getElem? found)⟩
        · simp only [PumpSound, pumping]
          exact ⟨⟨raw, correlated, positive, found, same⟩,
            Or.inr ⟨Or.inl bumping, Nat.le_max_right _ _⟩⟩
      · rcases busy with other | other <;> rw [handling] at other <;> cases other
    · simp only [PumpSound, pumping] at sound
      rcases sound with ⟨other, resyncing, _⟩ | ⟨busy, _⟩
      · rw [handling] at resyncing
        cases resyncing
      · rcases busy with other | other <;> rw [handling] at other <;> cases other
  · rcases accounts with ⟨observed, pumping, rfl⟩ | pumping
    · simp only [PumpSound, pumping] at sound
      rcases sound.2 with ⟨other, _⟩ | ⟨busy, _⟩
      · rw [resyncing] at other
        cases other
      · rcases busy with other | other <;> rw [resyncing] at other <;> cases other
    · simp only [PumpSound, pumping] at sound
      rcases sound with ⟨adopted, current, covering⟩ | ⟨busy, _⟩
      · rw [resyncing] at current
        cases current
        rcases outcome with ⟨_, _, stale⟩ | ⟨bumping, adopting⟩
        · exact absurd covering.known (Nat.not_le_of_lt stale)
        · refine ⟨?_, accounted.received, ?_, accounted.serving, ?_⟩
          · change StreamCut s.log _ observer.service.watermark
            rw [adopting]
            exact accounted.cut.merge covering.cut covering.known
          · change observer.service.watermark ≤ lastSeq s
            rw [adopting]
            exact covering.allocated
          · simp only [PumpSound, pumping]
            exact Or.inr ⟨Or.inl bumping, covering.reached.trans (Nat.le_max_right _ _)⟩
      · rcases busy with other | other <;> rw [resyncing] at other <;> cases other

/-- One step keeps the horizon. -/
theorem move_accounted {s t : State} {label : Label} (numbered : Numbered s)
    (accounted : Accounted s) (moved : Move s label t) : Accounted t := by
  have sound := accounted.pump
  have quiet : Quiet s.observer s.observer := ⟨rfl, rfl⟩
  obtain ⟨grown, last⟩ := move_log moved
  cases moved with
  | ticked =>
    exact Aside.accounted (s := s) ⟨grown, last, ⟨rfl, rfl⟩, rfl, rfl, rfl⟩ accounted
      accounted.serving
  | client request free =>
    refine Aside.accounted (s := s) ⟨grown, last, quiet, rfl, rfl, rfl⟩ accounted
      fun _ _ serving => ?_
    have idle := free.2
    change s.serving = _ at serving
    rw [idle] at serving
    cases serving
  | served requester command rest free queue =>
    refine Aside.accounted (s := s) ⟨grown, last, quiet, rfl, rfl, rfl⟩ accounted fun _ taken replied => ?_
    simp only [Option.some.injEq, Prod.mk.injEq] at replied
    obtain ⟨same, current⟩ := handle_command_snapshot replied.2
    simp only [lastSeq, same, current]
    exact ⟨rfl, trivial⟩
  | emitted emission rest owed =>
    refine Aside.accounted (s := s) ⟨grown, last, quiet, rfl, rfl, rfl⟩ accounted
      fun _ _ serving => ?_
    have drained := (accounted.serving _ _ serving).2
    rw [owed] at drained
    cases drained
  | answered snapshot drained serving waiting =>
    simp only [PumpSound, waiting] at sound
    have current := (accounted.serving _ _ serving).1
    refine ⟨accounted.cut, accounted.received, accounted.allocated, fun _ _ other => (by cases other),
      ?_⟩
    refine ⟨sound, ?_, accounted.received, ?_, current.le⟩
    · exact Cut.full fun event member => (numbered.below event member).trans current.ge
    · exact accounted.allocated.trans current.ge
  | replied id handler after reply next drained serving found answer =>
    exact Aside.accounted (s := s) ⟨grown, last, quiet, rfl, rfl, rfl⟩ accounted
      fun _ _ other => (by cases other)
  | lagged correlated missed cursor idle recv =>
    simp only [PumpSound, idle] at sound
    exact ⟨accounted.cut, (recv_lagged recv).2, accounted.allocated, accounted.serving, sound.1⟩
  | received correlated event cursor observer idle recv began =>
    simp only [PumpSound, idle] at sound
    obtain ⟨found, next⟩ := recv_value recv
    obtain ⟨handling, service⟩ := handle_began began
    have inside := (List.getElem?_eq_some_iff.mp found).1
    refine ⟨?_, ?_, ?_, accounted.serving, ?_⟩
    · change StreamCut s.log s.horizon observer.service.watermark
      rw [service]
      exact accounted.cut
    · change cursor.next ≤ s.channel.sent.length
      omega
    · change observer.service.watermark ≤ lastSeq s
      rw [service]
      exact accounted.allocated
    · refine ⟨⟨event, correlated, ?_, ?_, rfl⟩, Or.inl ⟨handling, ?_⟩⟩
      · change 0 < cursor.next
        omega
      · change s.channel.sent[cursor.next - 1]? = some event
        rw [next, Nat.add_sub_cancel]
        exact found
      · change cursor.next ≤ s.horizon + 1
        omega
  | sectioned position observer accounts stepped =>
    exact sectioned_accounted numbered accounted accounts stepped
  | bumped observer busy stepped =>
    obtain ⟨bumping, idle, service⟩ := pump_bumped stepped
    have settled : Settled s := by
      rcases busy with ⟨event, pumping⟩ | ⟨position, pumping⟩
      · simp only [PumpSound, pumping] at sound
        rcases sound.2 with ⟨other, _⟩ | settled
        · rw [bumping] at other
          cases other
        · exact settled
      · simp only [PumpSound, pumping] at sound
        rcases sound with ⟨_, other, _⟩ | settled
        · rw [bumping] at other
          cases other
        · exact settled
    have after : Settled { s with observer := observer } := ⟨Or.inr idle, settled.2⟩
    refine ⟨?_, accounted.received, ?_, accounted.serving, ?_⟩
    · change StreamCut s.log s.horizon observer.service.watermark
      rw [service]
      exact accounted.cut
    · change observer.service.watermark ≤ lastSeq s
      rw [service]
      exact accounted.allocated
    · rcases busy with ⟨event, pumping⟩ | ⟨position, pumping⟩
      · simp only [PumpSound, pumping] at sound ⊢
        exact ⟨sound.1, Or.inr after⟩
      · simp only [PumpSound, pumping]
        exact Or.inr after
  | inboxed event inbox pumping idle stepped =>
    simp only [PumpSound, pumping] at sound
    refine ⟨accounted.cut, accounted.received, accounted.allocated, accounted.serving, idle, ?_⟩
    rcases sound.2 with ⟨other, _⟩ | settled
    · rw [idle] at other
      cases other
    · exact settled.2
  | inboxBumped inbox pumping stepped =>
    simp only [PumpSound, pumping] at sound
    exact ⟨accounted.cut, accounted.received, accounted.allocated, accounted.serving, sound⟩
  | resyncBegan snapshot position observer pumping stepped =>
    simp only [PumpSound, pumping] at sound
    obtain ⟨_, covering⟩ := sound
    obtain ⟨resyncing, service⟩ := resync_began stepped
    refine ⟨?_, accounted.received, ?_, accounted.serving,
      Or.inl ⟨observerSnapshot snapshot, resyncing, covering.cut, covering.reached, ?_,
        covering.allocated⟩⟩
    · change StreamCut s.log s.horizon observer.service.watermark
      rw [service]
      exact accounted.cut
    · change observer.service.watermark ≤ lastSeq s
      rw [service]
      exact accounted.allocated
    · change observer.service.watermark ≤ snapshot.seq
      rw [service]
      exact covering.known
  | resyncDone position pumping idle =>
    simp only [PumpSound, pumping] at sound
    refine ⟨accounted.cut, accounted.received, accounted.allocated, accounted.serving, idle, ?_⟩
    rcases sound with ⟨_, other, _⟩ | settled
    · rw [idle] at other
      cases other
    · exact settled.2
  | actionBegan id request kind windowId position observer unused action stepped =>
    exact Aside.accounted (s := s) ⟨grown, last, action_began_quiet stepped, rfl, rfl, rfl⟩ accounted
      accounted.serving
  | actionStepped id handler horizonAt observer found recording marks stepped =>
    exact Aside.accounted (s := s) ⟨grown, last, action_stepped_quiet stepped, rfl, rfl, rfl⟩ accounted
      accounted.serving
  | waited label observer waiter stepped =>
    have unmoved := waiter_quiet (by_waiter_of_label waiter) stepped
    exact Aside.accounted (s := s) ⟨grown, last, unmoved, rfl, rfl, rfl⟩ accounted
      accounted.serving
  | synthesizing | actionRecorded | clockRead | issued | finished | published | refused
  | inboxWaited =>
    exact Aside.accounted (s := s) ⟨grown, last, quiet, rfl, rfl, rfl⟩ accounted
      accounted.serving

theorem initial_accounted (config : PolicyConfig) (slots inboxCapacity : ℕ) :
    Accounted (State.new config slots inboxCapacity) where
  cut := Cut.start
  received := Nat.le_refl 0
  allocated := Nat.le_refl 0
  serving := fun _ _ other => by cases other
  pump := ⟨rfl, Nat.le_refl 0⟩

theorem accounted_of_reachable {config : PolicyConfig} {slots inboxCapacity : ℕ}
    {allowed : State → Label → Prop} {s : State}
    (reached : Reachable (machine config slots inboxCapacity) allowed s) : Accounted s :=
  invariant_relative (P := Accounted) (Q := Numbered) numbered_of_reachable
    (initial_accounted config slots inboxCapacity)
    (fun {_ _ _} numbered _ accounted _ taken =>
      move_accounted numbered accounted (step_move taken)) reached

end ADesk.Runtime.Horizon
