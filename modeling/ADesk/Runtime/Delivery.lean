/- ADesk/Runtime/Delivery
   digest: What a client's wait delivers of the events that reach the inbox while it is pending,
   when numbers are reserved before their events are published. -/

import ADesk.Notify.Invariants
import ADesk.Runtime.Horizon
import ADesk.Runtime.Views

set_option autoImplicit false

namespace ADesk.Runtime.Delivery

open scoped List
open ADesk.Core.Event
open ADesk.Core.Geometry (Region)
open ADesk.Foundation.Broadcast
open ADesk.Foundation.Execution
open ADesk.Foundation.KeyedLog
open ADesk.Notify.Inbox
open ADesk.Notify.Invariants (EnvStep OutcomeSound Read sound_of_reachable step_cases watermarkAt)
open ADesk.Notify.Run (Outcome)
open ADesk.Wm.Policy (PolicyConfig)
open ADesk.Runtime.Run
open ADesk.Runtime.Sequence
open ADesk.Runtime.Steps
open ADesk.Runtime.Horizon
open ADesk.Runtime.Views

/-! ## The inbox receives the stream -/

/-- What an event keeps on its way from the channel to the inbox. -/
def stamp (event : RuntimeEvent) : ℕ × Bool := (event.seq, event.kind.synthesized)

/-- How much of the stream the pump has offered to the inbox. -/
def offered (s : State) : ℕ :=
  match s.pump with
  | .observing _ => s.cursor.next - 1
  | _ => s.cursor.next

/-- The inbox records a part of the stream, in its order. -/
def Fed (s : State) : Prop :=
  s.inbox.recorded.map stamp <+ (s.log.take (offered s)).map stamp

/-- Only the pump adds to the recorded events. -/
theorem step_recorded {s t : Notify.Run.State} {label : Notify.Run.Label}
    (taken : Notify.Run.step s label = some t) :
    t.recorded = s.recorded ∨
      ∃ event, label = .handleEvent event ∧ t.recorded = s.recorded ++ [event] := by
  rcases step_cases taken with moved | ⟨id, moved, rfl, _⟩
  · cases moved with
    | recorded event => exact Or.inr ⟨event, rfl, rfl⟩
    | ticked => exact Or.inl rfl
    | bumped => exact Or.inl rfl
  · exact Or.inl rfl

private theorem Fed.later {s t : State} (fed : Fed s) (grown : Grown s t)
    (recorded : t.inbox.recorded = s.inbox.recorded) (inside : offered s ≤ s.log.length)
    (further : offered s ≤ offered t) : Fed t := by
  unfold Fed
  rw [recorded]
  refine fed.trans (List.Sublist.map _ ?_)
  cases grown with
  | same log =>
    rw [log]
    exact List.take_sublist_take_left further
  | sent event log =>
    rw [log]
    refine List.Sublist.trans ?_ (List.take_sublist_take_left further)
    rw [List.take_append_of_le_length inside]

theorem move_fed {s t : State} {label : Label} (accounted : Accounted s) (fed : Fed s)
    (moved : Move s label t) : Fed t := by
  have grown := (move_log moved).1
  have received := accounted.received
  have inside : offered s ≤ s.log.length := by
    unfold offered
    split <;> omega
  have sound := accounted.pump
  cases moved with
  | lagged correlated missed cursor idle recv =>
    have forward := (recv_lagged recv).1
    refine fed.later grown rfl inside ?_
    simp only [offered, idle]
    omega
  | received correlated event cursor observer idle recv began =>
    have next := (recv_value recv).2
    refine fed.later grown rfl inside ?_
    simp only [offered, idle]
    omega
  | answered snapshot drained serving waiting =>
    refine fed.later grown rfl inside ?_
    simp only [offered, waiting]
    exact Nat.le_refl _
  | resyncBegan snapshot position observer pumping stepped =>
    refine fed.later grown rfl inside ?_
    simp only [offered, pumping]
    exact Nat.le_refl _
  | resyncDone position pumping idle =>
    refine fed.later grown rfl inside ?_
    simp only [offered, pumping]
    exact Nat.le_refl _
  | inboxBumped inbox pumping stepped =>
    rcases step_recorded stepped with same | ⟨event, other, _⟩
    · refine fed.later grown same inside ?_
      simp only [offered, pumping]
      exact Nat.le_refl _
    · cases other
  | inboxed event inbox pumping idle stepped =>
    -- The event that the pump received last joins the recorded ones.
    rcases step_recorded stepped with same | ⟨recorded, label, grew⟩
    · refine fed.later grown same inside ?_
      simp only [offered, pumping]
      omega
    · cases label
      simp only [PumpSound, pumping] at sound
      obtain ⟨⟨raw, correlated, positive, found, rfl⟩, _⟩ := sound
      unfold Fed at fed ⊢
      simp only [offered, pumping] at fed ⊢
      change inbox.recorded.map stamp <+ (s.log.take s.cursor.next).map stamp
      have last : s.log.take s.cursor.next = s.log.take (s.cursor.next - 1) ++ [raw] := by
        conv_lhs => rw [show s.cursor.next = s.cursor.next - 1 + 1 by omega]
        rw [List.take_add_one, found, Option.toList_some]
      rw [grew, last, List.map_append, List.map_append]
      refine fed.append ?_
      simp only [List.map_cons, List.map_nil, stamp, correlate_window_seq, correlate_window_kind]
      exact List.Sublist.refl _
  | ticked => exact fed.later grown rfl inside (Nat.le_refl _)
  | inboxWaited label inbox client stepped =>
    rcases step_recorded stepped with same | ⟨event, rfl, _⟩
    · exact fed.later grown same inside (Nat.le_refl _)
    · cases client
  | client | served | emitted | replied | sectioned | bumped | synthesizing | actionBegan
  | actionStepped | actionRecorded | clockRead | issued | finished | published | refused | waited =>
    exact fed.later grown rfl inside (Nat.le_refl _)

variable {config : PolicyConfig} {slots inboxCapacity : ℕ} {allowed : State → Label → Prop}

theorem fed_of_reachable {s : State}
    (reached : Reachable (machine config slots inboxCapacity) allowed s) : Fed s := by
  refine invariant_relative (P := Fed) (Q := Accounted) accounted_of_reachable
    (List.Sublist.refl _) ?_ reached
  intro before after label accounted _ fed _ taken
  exact move_fed accounted fed (step_move taken)

/-- The compositor numbers its events from one. -/
theorem native_positive {s : State}
    (reached : Reachable (machine config slots inboxCapacity) allowed s) :
    ∀ event ∈ s.log, event.kind.synthesized = false → 0 < event.seq := by
  refine Inductive.holds
    (P := fun s => ∀ event ∈ s.log, event.kind.synthesized = false → 0 < event.seq)
    ⟨(fun event member => by cases member), ?_⟩ reached
  intro before after label positive _ taken event member native
  cases (move_log (step_move taken)).1 with
  | same log => exact positive event (log ▸ member) native
  | sent new log later =>
    rw [log, List.mem_append, List.mem_singleton] at member
    rcases member with old | rfl
    · exact positive event old native
    · exact Nat.zero_lt_of_lt (later native)

/-- What the inbox has recorded carries the order of the stream. -/
structure Recorded (s : State) : Prop where
  distinct : s.inbox.recorded.Nodup
  rising : s.inbox.recorded.Pairwise
    (fun earlier later => later.kind.synthesized = false → earlier.seq < later.seq)
  positive : ∀ event ∈ s.inbox.recorded, event.kind.synthesized = false → 0 < event.seq

theorem recorded_of_reachable {s : State}
    (reached : Reachable (machine config slots inboxCapacity) allowed s) : Recorded s := by
  have numbered := numbered_of_reachable reached
  have part : s.inbox.recorded.map stamp <+ s.log.map stamp :=
    (fed_of_reachable reached).trans ((List.take_sublist _ _).map stamp)
  refine ⟨?_, ?_, ?_⟩
  · have numbers : s.inbox.recorded.map RuntimeEvent.seq <+ s.log.map RuntimeEvent.seq := by
      simpa [List.map_map, Function.comp_def, stamp] using part.map Prod.fst
    exact List.Nodup.of_map _ (numbered.distinct.sublist numbers)
  · have pairs : (s.log.map stamp).Pairwise
        (fun earlier later => later.2 = false → earlier.1 < later.1) :=
      List.pairwise_map.mpr numbered.rising
    exact List.pairwise_map.mp (pairs.sublist part)
  · intro event member native
    obtain ⟨raw, inside, same⟩ := List.mem_map.mp
      (part.subset (List.mem_map_of_mem (f := stamp) member))
    have seq : raw.seq = event.seq := congrArg Prod.fst same
    have kind : raw.kind.synthesized = event.kind.synthesized := congrArg Prod.snd same
    rw [← seq]
    exact native_positive reached raw inside (kind.trans native)

/-! ## What a wait delivers -/

/-- The wait starts from the watermark or goes on from its client's previous result. -/
def Resumes (call : Notify.Run.Call) : Prop :=
  ∀ since, call.spec.sinceSeq = some since → call.previous = some since

/-- The matching events recorded from the capture of the filter point to the return of the wait,
as many as it may deliver. -/
def due (s : Notify.Run.State) (outcome : Outcome) : List RuntimeEvent :=
  (((s.recorded.take outcome.returned).drop outcome.call.captured).filter
    outcome.call.spec.matchesEvent).take outcome.call.spec.maxEvents

theorem filter_point_captured {s : Notify.Run.State} {outcome : Outcome}
    (sound : OutcomeSound s outcome) (resumes : Resumes outcome.call) :
    outcome.call.filterPoint = watermarkAt s outcome.call.captured := by
  cases given : outcome.call.spec.sinceSeq with
  | none => exact sound.read.pointed.fresh given
  | some since => exact sound.read.pointed.resumed since given (resumes since given)

/-- A compositor event that reaches the inbox lies above all that was recorded before it. -/
theorem native_above_watermark {s : State} (recorded : Recorded s) {count : ℕ}
    {event : RuntimeEvent} (member : event ∈ s.inbox.recorded.drop count)
    (native : event.kind.synthesized = false) : watermarkAt s.inbox count < event.seq := by
  have positive := recorded.positive event (List.mem_of_mem_drop member) native
  rcases @advance_attained _ RuntimeEvent.seq 0 (s.inbox.recorded.take count) with
    start | ⟨item, earlier, attained⟩
  · rw [watermarkAt, start]
    exact positive
  · rw [watermarkAt, ← attained]
    have split := recorded.rising
    rw [← List.take_append_drop count s.inbox.recorded] at split
    exact (List.pairwise_append.mp split).2.2 item earlier event member native

/-- A wait answers with what the journal still held, above the filter point. -/
theorem batch_events {s : State} (recorded : Recorded s) {outcome : Outcome}
    (sound : OutcomeSound s.inbox outcome) (resumes : Resumes outcome.call) :
    outcome.batch.events =
      ((((s.inbox.recorded.take outcome.returned).drop outcome.call.captured).filter
        outcome.call.spec.matchesEvent).filter fun event =>
          decide (outcome.call.filterPoint < event.seq) && decide (event ∈ outcome.call.held)).take
            outcome.call.spec.maxEvents := by
  have read := sound.read
  have point := filter_point_captured sound resumes
  have order : outcome.call.captured ≤ outcome.returned := read.order.trans sound.returned.1
  obtain ⟨evicted, held⟩ := read.held
  have head : (s.inbox.recorded.take outcome.returned).take outcome.call.examined =
      evicted ++ outcome.call.held := by
    rw [List.take_take, Nat.min_eq_left sound.returned.1, held]
  have whole : s.inbox.recorded.take outcome.returned = evicted ++ (outcome.call.held ++
      (s.inbox.recorded.take outcome.returned).drop outcome.call.examined) := by
    conv_lhs => rw [← List.take_append_drop outcome.call.examined
      (s.inbox.recorded.take outcome.returned), head, List.append_assoc]
  have split : s.inbox.recorded.take outcome.returned =
      s.inbox.recorded.take outcome.call.captured ++
        (s.inbox.recorded.take outcome.returned).drop outcome.call.captured := by
    conv_lhs => rw [← List.take_append_drop outcome.call.captured
      (s.inbox.recorded.take outcome.returned)]
    rw [List.take_take, Nat.min_eq_left order]
  let wanted : RuntimeEvent → Bool := fun event =>
    outcome.call.spec.matchesEvent event && decide (outcome.call.filterPoint < event.seq)
  have distinct : (s.inbox.recorded.take outcome.returned).Nodup :=
    recorded.distinct.sublist (List.take_sublist _ _)
  have segment := filter_segment (whole ▸ distinct) wanted
  rw [← whole, split, List.filter_append] at segment
  have old : (s.inbox.recorded.take outcome.call.captured).filter
      (fun event => wanted event && decide (event ∈ outcome.call.held)) = [] := by
    refine List.filter_eq_nil_iff.mpr fun event member kept => ?_
    have below : event.seq ≤ outcome.call.filterPoint := by
      rw [point]
      exact key_le_advance member
    simp only [wanted, Bool.and_eq_true, decide_eq_true_eq] at kept
    omega
  rw [old, List.nil_append] at segment
  have same : newer RuntimeEvent.seq outcome.call.filterPoint
      (outcome.call.held.filter outcome.call.spec.matchesEvent) =
        outcome.call.held.filter wanted := by
    unfold newer
    rw [List.filter_filter]
    exact List.filter_congr fun event _ => Bool.and_comm ..
  rw [read.events, oldestMatching, same, ← segment, List.filter_filter]
  congr 1
  refine List.filter_congr fun event _ => ?_
  simp only [wanted]
  cases outcome.call.spec.matchesEvent event <;> simp

/-- A wait that starts from the watermark, or goes on from the previous result, delivers every
matching event that arrives while it is pending exactly when the server's own events among them
carry numbers above the filter point, and the journal holds them when it is last read. -/
theorem delivers_due_iff {s : State}
    (reached : Reachable (machine config slots inboxCapacity) anyStep s) {client : ℕ}
    {outcome : Outcome} (member : outcome ∈ (s.inbox.clients client).outcomes)
    (resumes : Resumes outcome.call) :
    ((∀ event ∈ due s.inbox outcome, event ∈ outcome.batch.events) ↔
      ∀ event ∈ due s.inbox outcome,
        (event.kind.synthesized = true → outcome.call.filterPoint < event.seq) ∧
          event ∈ outcome.call.held) ∧
    ((∀ event ∈ due s.inbox outcome, event ∈ outcome.batch.events) →
      outcome.batch.events = due s.inbox outcome) := by
  have recorded := recorded_of_reachable reached
  have sound := (sound_of_reachable (inbox_reachable reached)).outcomes client outcome member
  have point := filter_point_captured sound resumes
  have events := batch_events recorded sound resumes
  have kept : (∀ event ∈ due s.inbox outcome, event ∈ outcome.batch.events) →
      ∀ event ∈ due s.inbox outcome,
        outcome.call.filterPoint < event.seq ∧ event ∈ outcome.call.held := by
    intro delivered event expected
    have inside := delivered event expected
    rw [events] at inside
    simpa using (List.mem_filter.mp (List.mem_of_mem_take inside)).2
  have complete : (∀ event ∈ due s.inbox outcome,
      outcome.call.filterPoint < event.seq ∧ event ∈ outcome.call.held) →
      outcome.batch.events = due s.inbox outcome := by
    intro all
    rw [events]
    refine (take_filter_eq_take_iff _ _ _).mpr fun event expected => ?_
    simpa using all event expected
  refine ⟨⟨fun delivered event expected => ?_, fun condition event expected => ?_⟩,
    fun delivered => complete (kept delivered)⟩
  · exact ⟨fun _ => (kept delivered event expected).1, (kept delivered event expected).2⟩
  · rw [complete fun other wanted => ⟨?_, (condition other wanted).2⟩]
    · exact expected
    · cases kind : other.kind.synthesized with
      | true => exact (condition other wanted).1 kind
      | false =>
        rw [point]
        have window := List.mem_of_mem_filter (List.mem_of_mem_take wanted)
        rw [List.drop_take] at window
        exact native_above_watermark recorded (List.mem_of_mem_take window) kind

/-- A message is posted by handler `0`, up to where its number is reserved and its clock read. -/
def reserved : List Label :=
  [.request 0 (.synthesize (.notification ⟨⟨1⟩, none, "build", "done", .normal, none, [], [], 0, 0,
      false, none, none, none⟩)), .serve, .reply, .handlerStep 0]

/-- A client shows a window, and its four events reach the inbox. -/
def announced : List Label := mapped 1 ++ pumped ++ pumped ++ pumped ++ pumped

/-- A wait for one notification captures its filter point. -/
def waiting : List Label :=
  .inboxWait (.waitForEvents 0 ⟨[.notification], none, 0, 1, none⟩) ::
    List.replicate 2 (.inboxWait (.callStep 0))

def resolving (steps : ℕ) : List Label := List.replicate steps (.inboxWait (.callStep 0))

/-- The number is reserved after the wait began. -/
def deliveredRun : List Label :=
  announced ++ waiting ++ reserved ++ .publish 0 true :: pumped ++ resolving 3

def deliveredState : State :=
  finalState (machine ⟨1280, 720⟩ 8 8) anyStep deliveredRun (by decide +kernel)

private def firstOutcome (s : State) : Option Outcome := (s.inbox.clients 0).outcomes.head?

private theorem delivered_outcome : (firstOutcome deliveredState).isSome = true := by
  decide +kernel

theorem delivers_due_iff_delivered :
    ∃ outcome, firstOutcome deliveredState = some outcome ∧
      outcome.batch.events = due deliveredState.inbox outcome := by
  have fresh : ((firstOutcome deliveredState).get delivered_outcome).call.spec.sinceSeq = none := by
    decide +kernel
  have result := delivers_due_iff
    (final_state_reachable (machine ⟨1280, 720⟩ 8 8) anyStep deliveredRun (by decide +kernel))
    (List.mem_of_head? (Option.some_get delivered_outcome).symm)
    (fun since given => by rw [fresh] at given; cases given)
  refine ⟨_, (Option.some_get delivered_outcome).symm, result.2 (result.1.mpr ?_)⟩
  decide +kernel

/-- The number is reserved before the window shows, and its event published after the wait
captured the watermark of the window. -/
def overtakenRun : List Label :=
  reserved ++ announced ++ waiting ++ .publish 0 true :: pumped ++ resolving 4

def overtakenState : State :=
  finalState (machine ⟨1280, 720⟩ 8 8) anyStep overtakenRun (by decide +kernel)

private theorem overtaken_outcome : (firstOutcome overtakenState).isSome = true := by
  decide +kernel

/-- A notification that a compositor event overtook is never delivered. -/
theorem overtaken_notification_skipped :
    ¬ ∀ (s : State) (outcome : Outcome), Reachable (machine ⟨1280, 720⟩ 8 8) anyStep s →
      outcome ∈ (s.inbox.clients 0).outcomes → outcome.call.spec.sinceSeq = none →
      ∀ event ∈ due s.inbox outcome, event ∈ outcome.batch.events := by
  intro claimed
  have all := claimed overtakenState _
    (final_state_reachable (machine ⟨1280, 720⟩ 8 8) anyStep overtakenRun (by decide +kernel))
    (List.mem_of_head? (Option.some_get overtaken_outcome).symm) (by decide +kernel)
  revert all
  decide +kernel

end ADesk.Runtime.Delivery
