/- ADesk/Notify/Chain
   digest: Waits that resume where the previous batch ended deliver every matching event once;
   resuming from the reported watermark after a full batch does not. -/

import ADesk.Notify.Invariants

set_option autoImplicit false

namespace ADesk.Notify.Chain

open ADesk.Core.Event (RuntimeEvent)
open ADesk.Foundation.Execution
open ADesk.Foundation.KeyedLog
open ADesk.Notify.Inbox
open ADesk.Notify.Run
open ADesk.Notify.Invariants

/-! ## Chains of waits -/

/-- Where to resume after a batch: a full one may hide more events, so resume from its last
event, otherwise from the reported watermark. -/
def resumeAfter (spec : EventWaitSpec) (events : List RuntimeEvent) (seq : ℕ) : ℕ :=
  if events.length = spec.maxEvents then (events.getLast?.map RuntimeEvent.seq).getD seq else seq

def resumePoint (outcome : Outcome) : ℕ :=
  resumeAfter outcome.call.spec outcome.batch.events outcome.batch.seq

def SameFilter (first second : EventWaitSpec) : Prop :=
  first.kinds = second.kinds ∧ first.windowId = second.windowId

instance (first second : EventWaitSpec) : Decidable (SameFilter first second) :=
  inferInstanceAs (Decidable (_ ∧ _))

/-- The call that is about to read the journal. -/
def collectingCall (s : Run.State) (id : ℕ) : Option Call :=
  (s.clients id).call.bind fun call => if call.phase = .collecting then some call else none

/-- The event that the label records. -/
def recordedEvent : Label → Option RuntimeEvent
  | .handleEvent event => some event
  | _ => none

/-- The wait that the label starts for the client. -/
def startedSpec (id : ℕ) : Label → Option EventWaitSpec
  | .waitForEvents client spec => if client = id then some spec else none
  | _ => none

/-- The runs in which events are recorded in increasing `seq` order, none is evicted unread, and
the client resumes each wait from its previous result with the same filter. -/
def Chained (resume : Outcome → ℕ) (id : ℕ) (s : Run.State) (label : Label) : Prop :=
  (∀ event ∈ recordedEvent label, ∀ earlier ∈ s.recorded, earlier.seq < event.seq) ∧
    (∀ call ∈ collectingCall s id, ∀ event ∈ evicted s.recorded s.inbox.journal,
      call.spec.matchesEvent event = true → event.seq ≤ call.filterPoint) ∧
    ∀ spec ∈ startedSpec id label, 1 ≤ spec.maxEvents ∧
      ∀ last ∈ lastOutcome (s.clients id),
        spec.sinceSeq = some (resume last) ∧ SameFilter spec last.call.spec

instance (resume : Outcome → ℕ) (id : ℕ) (s : Run.State) (label : Label) :
    Decidable (Chained resume id s label) :=
  inferInstanceAs (Decidable (_ ∧ _ ∧ _))

/-- Everything that the waits returned, in order. -/
def delivered (outcomes : List Outcome) : List RuntimeEvent :=
  outcomes.flatMap fun outcome => outcome.batch.events

/-! ## One batch is a window of the recorded events -/

private theorem matches_of_same_filter {first second : EventWaitSpec}
    (same : SameFilter first second) : first.matchesEvent = second.matchesEvent := by
  funext event
  unfold EventWaitSpec.matchesEvent
  rw [same.1, same.2]

/-- The matching events between two sequences. -/
def window (recorded : List RuntimeEvent) (spec : EventWaitSpec) (low high : ℕ) :
    List RuntimeEvent :=
  between RuntimeEvent.seq low high (recorded.filter spec.matchesEvent)

/-- A batch is the window from its filter point to its resume point. -/
structure Windowed (recorded : List RuntimeEvent) (watermark : ℕ) (call : Call)
    (events : List RuntimeEvent) (seq : ℕ) : Prop where
  batch : events = window recorded call.spec call.filterPoint (resumeAfter call.spec events seq)
  lower : min call.filterPoint seq ≤ resumeAfter call.spec events seq
  reach : resumeAfter call.spec events seq ≤ seq
  upper : seq ≤ watermark

private theorem bounded_by_watermark {s : Run.State} (sound : Sound s) {event : RuntimeEvent}
    (member : event ∈ s.recorded) : event.seq ≤ s.inbox.watermark := by
  rw [sound.watermark, watermarkAt, List.take_length]
  exact key_le_advance member

/-- What the inbox answers, when nothing unread was evicted. -/
private theorem collect_of_unread {s : Run.State} (sound : Sound s) {call : Call}
    (unread : ∀ event ∈ evicted s.recorded s.inbox.journal,
      call.spec.matchesEvent event = true → event.seq ≤ call.filterPoint) :
    s.inbox.collect call.spec call.filterPoint =
      (newer RuntimeEvent.seq call.filterPoint (s.recorded.filter call.spec.matchesEvent)).take
        call.spec.maxEvents := by
  have gone : newer RuntimeEvent.seq call.filterPoint
      ((evicted s.recorded s.inbox.journal).filter call.spec.matchesEvent) = [] := by
    refine newer_eq_nil.mpr fun event member => ?_
    obtain ⟨out, wanted⟩ := List.mem_filter.mp member
    exact unread event out wanted
  rw [collect_eq_oldest_matching, oldestMatching]
  conv_rhs => rw [← evicted_append sound.journal]
  rw [List.filter_append, newer_append, gone, List.nil_append]

/-- Taking the oldest matching events yields a window up to the resume point. -/
private theorem take_windowed {recorded : List RuntimeEvent} {watermark : ℕ} {call : Call}
    (ascending : Ascending RuntimeEvent.seq recorded)
    (below : ∀ event ∈ recorded, event.seq ≤ watermark) (room : 1 ≤ call.spec.maxEvents)
    {events : List RuntimeEvent}
    (taken : events = (newer RuntimeEvent.seq call.filterPoint
      (recorded.filter call.spec.matchesEvent)).take call.spec.maxEvents) :
    Windowed recorded watermark call events watermark := by
  have sorted : Ascending RuntimeEvent.seq (recorded.filter call.spec.matchesEvent) :=
    List.Pairwise.filter _ ascending
  by_cases full : events.length = call.spec.maxEvents
  · cases ends : events.getLast? with
    | none =>
      rw [List.getLast?_eq_none_iff.mp ends, List.length_nil] at full
      omega
    | some last =>
      have resume : resumeAfter call.spec events watermark = last.seq := by
        unfold resumeAfter
        rw [if_pos full, ends]
        rfl
      have member := List.mem_of_getLast? ends
      rw [taken] at member ends
      obtain ⟨inside, above⟩ := mem_newer.mp (List.mem_of_mem_take member)
      have bound := below last (List.mem_of_mem_filter inside)
      refine ⟨?_, ?_, ?_, Nat.le_refl _⟩
      · rw [resume]
        exact taken.trans (take_eq_between sorted ends)
      · rw [resume]
        omega
      · rw [resume]
        exact bound
  · have resume : resumeAfter call.spec events watermark = watermark := by
      unfold resumeAfter
      rw [if_neg full]
    have all : events = newer RuntimeEvent.seq call.filterPoint
        (recorded.filter call.spec.matchesEvent) := by
      rw [taken]
      refine List.take_of_length_le ?_
      rw [taken, List.length_take] at full
      omega
    refine ⟨?_, ?_, resume.le, Nat.le_refl _⟩
    · rw [resume]
      exact all.trans (between_of_bounded fun event member =>
        below event (List.mem_of_mem_filter member)).symm
    · rw [resume]
      exact Nat.min_le_right _ _

/-- Later events are above the watermark, so no window up to it changes. -/
private theorem window_append {s : Run.State} (sound : Sound s) {event : RuntimeEvent}
    (later : ∀ earlier ∈ s.recorded, earlier.seq < event.seq) (spec : EventWaitSpec) (low : ℕ)
    {high : ℕ} (bound : high ≤ s.inbox.watermark) :
    window (s.recorded ++ [event]) spec low high = window s.recorded spec low high := by
  unfold window
  rw [List.filter_append, between_append]
  have outside : between RuntimeEvent.seq low high ([event].filter spec.matchesEvent) = [] := by
    refine between_eq_nil fun item member => ?_
    rw [List.mem_singleton.mp (List.mem_of_mem_filter member)]
    have watermark := sound.watermark
    rw [watermarkAt, List.take_length] at watermark
    rcases @advance_attained _ RuntimeEvent.seq 0 s.recorded with zero | ⟨earlier, member, attained⟩
    · omega
    · have after := later earlier member
      omega
  rw [outside, List.append_nil]

private theorem Windowed.append {s : Run.State} (sound : Sound s) {call : Call}
    {events : List RuntimeEvent} {seq : ℕ}
    (windowed : Windowed s.recorded s.inbox.watermark call events seq) {event : RuntimeEvent}
    (later : ∀ earlier ∈ s.recorded, earlier.seq < event.seq) :
    Windowed (s.recorded ++ [event]) (s.inbox.record event).watermark call events seq := by
  refine ⟨?_, windowed.lower, windowed.reach, windowed.upper.trans (Nat.le_max_left _ _)⟩
  rw [window_append sound later _ _ (windowed.reach.trans windowed.upper)]
  exact windowed.batch

/-- A filter point ahead of the watermark selects nothing. -/
private theorem Windowed.ahead {recorded : List RuntimeEvent} {watermark : ℕ} {call : Call}
    {events : List RuntimeEvent} {seq : ℕ} (windowed : Windowed recorded watermark call events seq)
    (order : seq ≤ call.filterPoint) :
    events = [] ∧ resumeAfter call.spec events seq = seq := by
  have lower := windowed.lower
  have reach := windowed.reach
  refine ⟨?_, by omega⟩
  refine windowed.batch.trans (between_eq_nil fun event _ => ?_)
  rcases Nat.lt_or_ge call.filterPoint event.seq with above | below
  · exact Or.inr (by omega)
  · exact Or.inl below

/-! ## The chain -/

/-- A pending wait of the chain resumes from the last result, and any batch it is about to
return is a window. -/
structure Linked (recorded : List RuntimeEvent) (watermark : ℕ) (client : Client) (call : Call) :
    Prop where
  room : 1 ≤ call.spec.maxEvents
  resumes : ∀ last ∈ lastOutcome client,
    call.spec.sinceSeq = some (resumePoint last) ∧ SameFilter call.spec last.call.spec
  deciding : ∀ events seq, call.phase = .deciding events seq →
    Windowed recorded watermark call events seq ∧
      ∀ last ∈ lastOutcome client, call.filterPoint ≤ seq
  expiring : ∀ seq, call.phase = .expiring seq →
    Windowed recorded watermark call [] seq ∧ ∀ last ∈ lastOutcome client, call.filterPoint ≤ seq

/-- Where the chain started: its first filter point, or the watermark it was ahead of. -/
def startPoint (first : Outcome) : ℕ := min first.call.filterPoint first.batch.seq

/-- What the chain has delivered so far is one window of the recorded events. -/
structure Exact (recorded : List RuntimeEvent) (watermark : ℕ) (outcomes : List Outcome) :
    Prop where
  bound : ∀ last ∈ outcomes.getLast?, resumePoint last ≤ watermark
  exact : ∀ first ∈ outcomes.head?, ∀ last ∈ outcomes.getLast?,
    SameFilter last.call.spec first.call.spec ∧ startPoint first ≤ resumePoint last ∧
      delivered outcomes =
        window recorded first.call.spec (startPoint first) (resumePoint last)

structure ChainInv (id : ℕ) (s : Run.State) : Prop where
  ascending : Ascending RuntimeEvent.seq s.recorded
  linked : ∀ call, (s.clients id).call = some call →
    Linked s.recorded s.inbox.watermark (s.clients id) call
  exact : Exact s.recorded s.inbox.watermark (s.clients id).outcomes

private theorem env_step_chain {id : ℕ} {s t : Run.State} {label : Label} (sound : Sound s)
    (chain : ChainInv id s) (ok : Chained resumePoint id s label) (moved : EnvStep s label t) :
    ChainInv id t := by
  cases moved with
  | ticked => exact ⟨chain.ascending, chain.linked, chain.exact⟩
  | bumped => exact ⟨chain.ascending, chain.linked, chain.exact⟩
  | recorded event ready =>
    have later := ok.1 event rfl
    refine ⟨?_, ?_, ?_⟩
    · refine List.pairwise_append.mpr ⟨chain.ascending, List.pairwise_singleton _ _, ?_⟩
      intro earlier member last atEnd
      rw [List.mem_singleton.mp atEnd]
      exact later earlier member
    · intro call pending
      have kept := chain.linked call pending
      refine ⟨kept.room, kept.resumes, fun events seq now => ?_, fun seq now => ?_⟩
      · obtain ⟨windowed, point⟩ := kept.deciding events seq now
        exact ⟨windowed.append sound later, point⟩
      · obtain ⟨windowed, point⟩ := kept.expiring seq now
        exact ⟨windowed.append sound later, point⟩
    · refine ⟨fun last member => (chain.exact.bound last member).trans (Nat.le_max_left _ _), ?_⟩
      intro first head last member
      obtain ⟨filter, lower, window⟩ := chain.exact.exact first head last member
      refine ⟨filter, lower, ?_⟩
      rw [window_append sound later _ _ (chain.exact.bound last member)]
      exact window

/-- A returned batch extends the delivered window to its resume point. -/
private theorem resolved_exact {recorded : List RuntimeEvent} {watermark : ℕ} {client : Client}
    (ascending : Ascending RuntimeEvent.seq recorded) (known : Exact recorded watermark client.outcomes)
    {call : Call} (linked : Linked recorded watermark client call)
    (explicit : ∀ since, call.spec.sinceSeq = some since → call.filterPoint = since)
    {events : List RuntimeEvent} {seq : ℕ} (windowed : Windowed recorded watermark call events seq)
    (after : ∀ last ∈ lastOutcome client, call.filterPoint ≤ seq)
    (timedOut : Bool) (elapsed returned : ℕ) :
    Exact recorded watermark
      (client.resolve call ⟨events, timedOut, elapsed, seq⟩ returned).outcomes := by
  have ends : (client.resolve call ⟨events, timedOut, elapsed, seq⟩ returned).outcomes.getLast? =
      some ⟨call, ⟨events, timedOut, elapsed, seq⟩, returned⟩ := List.getLast?_concat
  have flat : delivered (client.resolve call ⟨events, timedOut, elapsed, seq⟩ returned).outcomes =
      delivered client.outcomes ++ events := by
    simp [delivered, Client.resolve]
  refine ⟨?_, ?_⟩
  · intro last member
    cases ends.symm.trans member
    exact windowed.reach.trans windowed.upper
  · intro first head last member
    cases ends.symm.trans member
    change SameFilter call.spec first.call.spec ∧
      startPoint first ≤ resumeAfter call.spec events seq ∧
      delivered _ = window recorded first.call.spec (startPoint first)
        (resumeAfter call.spec events seq)
    rw [flat]
    cases previous : lastOutcome client with
    | none =>
      have fresh : client.outcomes = [] := List.getLast?_eq_none_iff.mp previous
      have only : first = ⟨call, ⟨events, timedOut, elapsed, seq⟩, returned⟩ := by
        simpa [Client.resolve, fresh] using head.symm
      subst only
      refine ⟨⟨rfl, rfl⟩, windowed.lower, ?_⟩
      have nothing : delivered client.outcomes = [] := by simp [delivered, fresh]
      rw [nothing, List.nil_append]
      change events = window recorded call.spec (min call.filterPoint seq) _
      rcases Nat.le_total call.filterPoint seq with inside | ahead
      · rw [Nat.min_eq_left inside]
        exact windowed.batch
      · obtain ⟨empty, resume⟩ := windowed.ahead ahead
        rw [Nat.min_eq_right ahead, resume]
        exact empty.trans (between_self _ _).symm
    | some last =>
      have old : client.outcomes.head? = some first := by
        have some : client.outcomes ≠ [] := by
          intro none
          simp [lastOutcome, none] at previous
        rw [← head]
        exact (List.head?_append_of_ne_nil _ some).symm
      obtain ⟨since, filter⟩ := linked.resumes last previous
      obtain ⟨sameFirst, lower, window⟩ := known.exact first old last previous
      have point := explicit _ since
      have order := after last previous
      have resume := windowed.lower
      have filters : SameFilter call.spec first.call.spec :=
        ⟨filter.1.trans sameFirst.1, filter.2.trans sameFirst.2⟩
      refine ⟨filters, by omega, ?_⟩
      have batch := windowed.batch
      unfold Chain.window at batch window ⊢
      rw [matches_of_same_filter filters, point] at batch
      rw [window]
      conv_lhs => rw [batch]
      exact between_join (List.Pairwise.filter _ ascending) lower (by omega)

private theorem call_move_chain {id : ℕ} {s : Run.State} {label : Label} (sound : Sound s)
    (chain : ChainInv id s) (ok : Chained resumePoint id s label) {moved : Client}
    (move : CallMove s id label (s.clients id) moved) :
    (∀ call, moved.call = some call → Linked s.recorded s.inbox.watermark moved call) ∧
      Exact s.recorded s.inbox.watermark moved.outcomes := by
  have linked := chain.linked
  have exact := chain.exact
  have calls := sound.calls id
  have collecting := ok.2.1
  have starts := ok.2.2
  unfold collectingCall at collecting
  generalize s.clients id = client at move linked exact calls collecting starts
  cases move with
  | began spec starting =>
    refine ⟨fun call pending => ?_, exact⟩
    cases pending
    obtain ⟨room, resumes⟩ := starts spec (by simp [starting, startedSpec])
    exact ⟨room, resumes, (fun _ _ now => by cases now), fun _ now => by cases now⟩
  | subscribed call pending =>
    have kept := linked call pending
    refine ⟨fun other same => ?_, exact⟩
    cases same
    exact ⟨kept.room, kept.resumes, (fun _ _ now => by cases now), fun _ now => by cases now⟩
  | captured call pending =>
    have kept := linked call pending
    refine ⟨fun other same => ?_, exact⟩
    cases same
    exact ⟨kept.room, kept.resumes, (fun _ _ now => by cases now), fun _ now => by cases now⟩
  | marked call phase pending pointed next =>
    have kept := linked call pending
    refine ⟨fun other same => ?_, exact⟩
    cases same
    refine ⟨kept.room, kept.resumes, ?_, ?_⟩
    · rcases next with rfl | rfl <;> intro _ _ now <;> cases now
    · rcases next with rfl | rfl <;> intro _ now <;> cases now
  | timed call pending =>
    have kept := linked call pending
    refine ⟨fun other same => ?_, exact⟩
    cases same
    exact ⟨kept.room, kept.resumes, (fun _ _ now => by cases now), fun _ now => by cases now⟩
  | collected call pending phase =>
    have kept := linked call pending
    have pointed := (calls call pending).pointed (by simp [phase]) (by simp [phase])
    have unread := collecting call (by simp [pending, phase])
    have windowed := take_windowed chain.ascending
      (fun event member => bounded_by_watermark sound member) kept.room
      (collect_of_unread sound unread)
    refine ⟨fun other same => ?_, exact⟩
    cases same
    refine ⟨kept.room, kept.resumes, fun events seq now => ?_, fun _ now => by cases now⟩
    cases now
    refine ⟨⟨windowed.batch, windowed.lower, windowed.reach, windowed.upper⟩,
      fun last member => ?_⟩
    change call.filterPoint ≤ s.inbox.watermark
    rw [pointed.explicit _ (kept.resumes last member).1]
    exact exact.bound last member
  | expired call seq pending phase =>
    have kept := linked call pending
    obtain ⟨windowed, after⟩ := kept.deciding [] seq phase
    refine ⟨fun other same => ?_, exact⟩
    cases same
    refine ⟨kept.room, kept.resumes, (fun _ _ now => by cases now), fun other now => ?_⟩
    cases now
    exact ⟨⟨windowed.batch, windowed.lower, windowed.reach, windowed.upper⟩, after⟩
  | parked call seq pending =>
    have kept := linked call pending
    refine ⟨fun other same => ?_, exact⟩
    cases same
    exact ⟨kept.room, kept.resumes, (fun _ _ now => by cases now), fun _ now => by cases now⟩
  | resolved call events seq elapsed timedOut pending result =>
    have kept := linked call pending
    have explicit : ∀ since, call.spec.sinceSeq = some since → call.filterPoint = since := by
      rcases result with phase | ⟨_, phase⟩
      · exact ((calls call pending).deciding events seq phase).pointed.explicit
      · exact ((calls call pending).expiring seq phase).pointed.explicit
    have batch : Windowed s.recorded s.inbox.watermark call events seq ∧
        ∀ last ∈ lastOutcome client, call.filterPoint ≤ seq := by
      rcases result with phase | ⟨rfl, phase⟩
      · exact kept.deciding events seq phase
      · exact kept.expiring seq phase
    exact ⟨(fun other now => by cases now),
      resolved_exact chain.ascending exact kept explicit batch.1 batch.2 timedOut elapsed _⟩
  | cancelled => exact ⟨(fun other now => by cases now), ⟨exact.bound, exact.exact⟩⟩

private theorem initial_chain (id capacity : ℕ) : ChainInv id (State.new capacity) where
  ascending := List.Pairwise.nil
  linked := fun call pending => by cases pending
  exact := ⟨(fun last member => by cases member), fun first member => by cases member⟩

private theorem chain_of_reachable {id capacity : ℕ} {s : Run.State}
    (reached : Reachable (machine capacity) (Chained resumePoint id) s) : ChainInv id s := by
  refine invariant_relative sound_of_reachable (initial_chain id capacity) ?_ reached
  intro before after label sound _ chain ok taken
  rcases step_cases taken with moved | ⟨moving, moved, rfl, move⟩
  · exact env_step_chain sound chain ok moved
  · by_cases same : id = moving
    · subst same
      obtain ⟨linked, exact⟩ := call_move_chain sound chain ok move
      refine ⟨chain.ascending, ?_, ?_⟩
      · simpa only [State.setClient, Function.update_self] using linked
      · simpa only [State.setClient, Function.update_self] using exact
    · refine ⟨chain.ascending, ?_, ?_⟩
      · simpa only [State.setClient, Function.update_of_ne same] using chain.linked
      · simpa only [State.setClient, Function.update_of_ne same] using chain.exact

/-- Waits that resume after their last batch deliver exactly the matching events up to the last
resume point, in order and once each. -/
theorem chained_waits_deliver {id capacity : ℕ} {s : Run.State}
    (reached : Reachable (machine capacity) (Chained resumePoint id) s) {first last : Outcome}
    (head : (s.clients id).outcomes.head? = some first)
    (ends : (s.clients id).outcomes.getLast? = some last) :
    delivered (s.clients id).outcomes =
        (between RuntimeEvent.seq (startPoint first) (resumePoint last) s.recorded).filter
          first.call.spec.matchesEvent ∧
      (delivered (s.clients id).outcomes).Nodup := by
  have chain := chain_of_reachable reached
  have exact := (chain.exact.exact first head last ends).2.2
  have commuted : window s.recorded first.call.spec (startPoint first) (resumePoint last) =
      (between RuntimeEvent.seq (startPoint first) (resumePoint last) s.recorded).filter
        first.call.spec.matchesEvent := by
    unfold window between newer
    simp only [List.filter_filter]
    refine List.filter_congr fun event _ => ?_
    rw [Bool.and_comm, Bool.and_assoc, Bool.and_comm, Bool.and_assoc]
  refine ⟨exact.trans commuted, ?_⟩
  rw [exact]
  refine List.Nodup.filter _ (List.Nodup.filter _ (List.Nodup.filter _ ?_))
  exact chain.ascending.imp fun {a b} order same => absurd order (by rw [same]; exact lt_irrefl _)

/-- Events `1` to `count` are recorded. -/
def burst (count : ℕ) : List Label :=
  (List.range count).flatMap fun index =>
    [.handleEvent (.windowCreated (index + 1) 0 ⟨1⟩ none none none none), .bump]

/-- A wait of two events at most after the given `seq`, and the steps it takes. -/
def readPair (since steps : ℕ) : List Label :=
  .waitForEvents 0 ⟨[], none, 0, 2, some since⟩ :: List.replicate steps (.callStep 0)

def pairsRun : List Label := burst 3 ++ readPair 0 5 ++ readPair 2 5

def pairsState : Run.State :=
  finalState (machine 16) (Chained resumePoint 0) pairsRun (by decide +kernel)

theorem chained_waits_deliver_pairs :
    ∃ first last, (pairsState.clients 0).outcomes.head? = some first ∧
      (pairsState.clients 0).outcomes.getLast? = some last ∧
      delivered (pairsState.clients 0).outcomes =
        (between RuntimeEvent.seq (startPoint first) (resumePoint last) pairsState.recorded).filter
          first.call.spec.matchesEvent := by
  have head : (pairsState.clients 0).outcomes.head?.isSome = true := by decide +kernel
  have ends : (pairsState.clients 0).outcomes.getLast?.isSome = true := by decide +kernel
  exact ⟨_, _, (Option.some_get head).symm, (Option.some_get ends).symm,
    (chained_waits_deliver
      (final_state_reachable (machine 16) (Chained resumePoint 0) pairsRun (by decide +kernel))
      (Option.some_get head).symm (Option.some_get ends).symm).1⟩

/-- After a full batch of five events the client resumes from the reported watermark. -/
def skippingRun : List Label := burst 5 ++ readPair 0 5 ++ readPair 5 6

def skippingState : Run.State :=
  finalState (machine 16) (Chained (fun outcome => outcome.batch.seq) 0) skippingRun
    (by decide +kernel)

/-- Resuming from the reported watermark skips what a full batch left behind. -/
theorem resume_from_seq_skips :
    ¬ ∀ (s : Run.State) (since : ℕ) (first last : Outcome),
      Reachable (machine 16) (Chained (fun outcome => outcome.batch.seq) 0) s →
      (s.clients 0).outcomes.head? = some first → first.call.spec.sinceSeq = some since →
      (s.clients 0).outcomes.getLast? = some last →
        delivered (s.clients 0).outcomes =
          (newer RuntimeEvent.seq since (s.recorded.take last.call.examined)).filter
            first.call.spec.matchesEvent := by
  intro claimed
  have head : (skippingState.clients 0).outcomes.head?.isSome = true := by decide +kernel
  have ends : (skippingState.clients 0).outcomes.getLast?.isSome = true := by decide +kernel
  have exact := claimed skippingState 0 _ _
    (final_state_reachable (machine 16) (Chained (fun outcome => outcome.batch.seq) 0) skippingRun
      (by decide +kernel))
    (Option.some_get head).symm (by decide +kernel +revert) (Option.some_get ends).symm
  have counts := congrArg List.length exact
  revert counts head ends
  decide +kernel

end ADesk.Notify.Chain
