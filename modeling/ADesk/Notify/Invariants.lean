/- ADesk/Notify/Invariants
   digest: What one step of the inbox machine can do, and what holds of pending and returned waits
   in every run. -/

import ADesk.Notify.Run

set_option autoImplicit false

namespace ADesk.Notify.Invariants

open ADesk.Core.Event (RuntimeEvent)
open ADesk.Core.Time
open ADesk.Foundation.Execution
open ADesk.Foundation.KeyedLog
open ADesk.Foundation.WatchChannel
open ADesk.Notify.Inbox
open ADesk.Notify.Run

/-! ## Steps -/

/-- Steps of the pump and of time; no client moves. -/
inductive EnvStep (s : Run.State) : Label → Run.State → Prop
  | ticked (nanos : ℕ) : EnvStep s (.tick nanos) { s with instant := s.instant + nanos }
  | recorded (event : RuntimeEvent) (ready : s.unbumped = false) :
      EnvStep s (.handleEvent event)
        { s with
          inbox := s.inbox.record event
          unbumped := true
          recorded := s.recorded ++ [event] }
  | bumped (owing : s.unbumped = true) :
      EnvStep s .bump
        { s with
          events := s.events.sendModify (fun generation => wrappingAdd generation 1)
          unbumped := false }

/-- How one client changes. -/
inductive CallMove (s : Run.State) (id : ℕ) (label : Label) : Client → Client → Prop
  | began (client : Client) (spec : EventWaitSpec) (starting : label = .waitForEvents id spec) :
      CallMove s id label client (client.setCall (Call.start client spec s.instant))
  | subscribed (client : Client) (call : Call) (pending : client.call = some call) :
      CallMove s id label client
        (client.setCall { call with receiver := s.events.subscribe, phase := .capturing })
  | captured (client : Client) (call : Call) (pending : client.call = some call) :
      CallMove s id label client
        (client.setCall
          { call with
            filterPoint := call.spec.sinceSeq.getD s.inbox.watermark
            phase := .marking
            captured := captureIndex s client call.spec })
  | marked (client : Client) (call : Call) (phase : CallPhase) (pending : client.call = some call)
      (pointed : call.phase ≠ .subscribing ∧ call.phase ≠ .capturing)
      (next : phase = .collecting ∨ phase = .marking) :
      CallMove s id label client (client.setCall { call with receiver := s.events.markSeen, phase := phase })
  | collected (client : Client) (call : Call) (pending : client.call = some call)
      (collecting : call.phase = .collecting) :
      CallMove s id label client
        (client.setCall
          { call with
            phase := .deciding (s.inbox.collect call.spec call.filterPoint) s.inbox.watermark
            examined := s.recorded.length
            held := s.inbox.journal })
  | expired (client : Client) (call : Call) (seq : ℕ) (pending : client.call = some call)
      (deciding : call.phase = .deciding [] seq) :
      CallMove s id label client (client.setCall { call with phase := .expiring seq })
  | parked (client : Client) (call : Call) (seq : ℕ) (pending : client.call = some call)
      (deciding : call.phase = .deciding [] seq) :
      CallMove s id label client (client.setCall { call with phase := .parked })
  | resolved (client : Client) (call : Call) (events : List RuntimeEvent) (seq elapsed : ℕ)
      (timedOut : Bool) (pending : client.call = some call)
      (result : call.phase = .deciding events seq ∨ events = [] ∧ call.phase = .expiring seq) :
      CallMove s id label client (client.resolve call ⟨events, timedOut, elapsed, seq⟩ s.recorded.length)
  | timed (client : Client) (call : Call) (pending : client.call = some call)
      (parked : call.phase = .parked) :
      CallMove s id label client (client.setCall { call with phase := .marking })
  | cancelled (client : Client) : CallMove s id label client { client with call := none }

private theorem advance_call_cases {s : Run.State} {id : ℕ} {label : Label}
    {client moved : Client} {call : Call} (pending : client.call = some call)
    (taken : advanceCall s client call = some moved) : CallMove s id label client moved := by
  unfold advanceCall at taken
  cases phase : call.phase with
  | subscribing =>
    simp only [phase, Option.some.injEq] at taken
    subst taken
    exact .subscribed client call pending
  | capturing =>
    simp only [phase, Option.some.injEq] at taken
    subst taken
    exact .captured client call pending
  | marking =>
    simp only [phase, Option.some.injEq] at taken
    subst taken
    exact .marked client call .collecting pending (by simp [phase]) (.inl rfl)
  | collecting =>
    simp only [phase, Option.some.injEq] at taken
    subst taken
    exact .collected client call pending phase
  | deciding events seq =>
    simp only [phase] at taken
    split at taken
    · cases taken
      exact .resolved client call events seq _ false pending (.inl phase)
    · next empty =>
      have none : events = [] := Classical.not_not.mp empty
      rw [none] at phase
      split at taken
      · cases taken
        exact .expired client call seq pending phase
      · cases taken
        exact .parked client call seq pending phase
  | expiring seq =>
    simp only [phase, Option.some.injEq] at taken
    subst taken
    exact .resolved client call [] seq _ true pending (.inr ⟨rfl, phase⟩)
  | parked => simp [phase] at taken

/-- Every step moves the environment and no client, or exactly one client. -/
theorem step_cases {s t : Run.State} {label : Label} (taken : step s label = some t) :
    EnvStep s label t ∨
      ∃ id moved, t = s.setClient id moved ∧ CallMove s id label (s.clients id) moved := by
  cases label with
  | tick nanos =>
    cases taken
    exact .inl (.ticked nanos)
  | handleEvent event =>
    simp only [step] at taken
    split at taken
    · cases taken
    · next ready =>
      cases taken
      exact .inl (.recorded event (by simpa using ready))
  | bump =>
    simp only [step] at taken
    split at taken
    · next owing =>
      cases taken
      exact .inl (.bumped owing)
    · cases taken
  | waitForEvents id spec =>
    simp only [step] at taken
    split at taken
    · cases taken
      exact .inr ⟨id, _, rfl, .began _ spec rfl⟩
    · cases taken
  | callStep id =>
    simp only [step] at taken
    split at taken
    · next call pending =>
      obtain ⟨moved, advanced, rfl⟩ := Option.map_eq_some_iff.mp taken
      exact .inr ⟨id, moved, rfl, advance_call_cases pending advanced⟩
    · cases taken
  | wakeChanged id =>
    simp only [step] at taken
    split at taken
    · next call pending =>
      split at taken
      · next ready =>
        cases taken
        exact .inr ⟨id, _, rfl, .marked _ call .marking pending (by simp [ready.1]) (.inr rfl)⟩
      · cases taken
    · cases taken
  | wakeTimer id =>
    simp only [step] at taken
    split at taken
    · next call pending =>
      split at taken
      · next ready =>
        cases taken
        exact .inr ⟨id, _, rfl, .timed _ call pending ready.1⟩
      · cases taken
    · cases taken
  | cancel id =>
    simp only [step] at taken
    split at taken
    · next call pending =>
      split at taken
      · cases taken
        exact .inr ⟨id, _, rfl, .cancelled _⟩
      · cases taken
    · cases taken

/-! ## Invariants -/

/-- The watermark after the given number of recorded events. -/
def watermarkAt (s : Run.State) (count : ℕ) : ℕ :=
  advance RuntimeEvent.seq 0 (s.recorded.take count)

/-- The bumps that the pump still owes. -/
def owed (s : Run.State) : ℕ := if s.unbumped then 1 else 0

/-- The filter point of a call is the watermark it captured: the one at its start, or the one
its client's previous wait returned. -/
structure Pointed (s : Run.State) (call : Call) : Prop where
  inside : call.captured ≤ s.recorded.length
  explicit : ∀ since, call.spec.sinceSeq = some since → call.filterPoint = since
  fresh : call.spec.sinceSeq = none → call.filterPoint = watermarkAt s call.captured
  resumed : ∀ since, call.spec.sinceSeq = some since → call.previous = some since →
    call.filterPoint = watermarkAt s call.captured

/-- A batch is what the journal answered when it was last read. -/
structure Read (s : Run.State) (call : Call) (events : List RuntimeEvent) (seq : ℕ) : Prop where
  pointed : Pointed s call
  order : call.captured ≤ call.examined
  inside : call.examined ≤ s.recorded.length
  held : call.held <:+ s.recorded.take call.examined
  events : events = oldestMatching call.spec call.filterPoint call.held
  seq : seq = watermarkAt s call.examined

structure CallSound (s : Run.State) (client : Client) (call : Call) : Prop where
  seen : call.receiver.seen ≤ s.events.version
  settled : call.phase.settled = true → call.receiver.seen ≤ call.examined
  previous : call.previous = (lastOutcome client).map fun outcome => outcome.batch.seq
  pointed : call.phase ≠ .subscribing → call.phase ≠ .capturing → Pointed s call
  deciding : ∀ events seq, call.phase = .deciding events seq → Read s call events seq
  expiring : ∀ seq, call.phase = .expiring seq → Read s call [] seq

structure OutcomeSound (s : Run.State) (outcome : Outcome) : Prop where
  read : Read s outcome.call outcome.batch.events outcome.batch.seq
  returned : outcome.call.examined ≤ outcome.returned ∧ outcome.returned ≤ s.recorded.length

structure Sound (s : Run.State) : Prop where
  ledger : Ledger s.recorded.length s.events.version (owed s)
  journal : s.inbox.journal <:+ s.recorded
  watermark : s.inbox.watermark = watermarkAt s s.recorded.length
  calls : ∀ id call, (s.clients id).call = some call → CallSound s (s.clients id) call
  outcomes : ∀ id, ∀ outcome ∈ (s.clients id).outcomes, OutcomeSound s outcome

theorem watermark_at_extend {s t : Run.State} {count : ℕ} (later : s.recorded <+: t.recorded)
    (inside : count ≤ s.recorded.length) : watermarkAt t count = watermarkAt s count := by
  obtain ⟨rest, grown⟩ := later
  unfold watermarkAt
  rw [← grown, List.take_append_of_le_length inside]

private theorem Pointed.extend {s t : Run.State} {call : Call} (pointed : Pointed s call)
    (later : s.recorded <+: t.recorded) : Pointed t call where
  inside := pointed.inside.trans later.length_le
  explicit := pointed.explicit
  fresh := fun absent => by
    rw [watermark_at_extend later pointed.inside]
    exact pointed.fresh absent
  resumed := fun since given same => by
    rw [watermark_at_extend later pointed.inside]
    exact pointed.resumed since given same

private theorem Read.extend {s t : Run.State} {call : Call} {events : List RuntimeEvent} {seq : ℕ}
    (read : Read s call events seq) (later : s.recorded <+: t.recorded) :
    Read t call events seq := by
  refine ⟨read.pointed.extend later, read.order, read.inside.trans later.length_le, ?_,
    read.events, ?_⟩
  · obtain ⟨rest, grown⟩ := later
    rw [← grown, List.take_append_of_le_length read.inside]
    exact read.held
  · rw [watermark_at_extend later read.inside]
    exact read.seq

private theorem env_step_sound {s t : Run.State} {label : Label} (sound : Sound s)
    (moved : EnvStep s label t) : Sound t := by
  have clients : t.clients = s.clients := by cases moved <;> rfl
  have later : s.recorded <+: t.recorded := by
    cases moved with
    | recorded event => exact List.prefix_append _ _
    | ticked => exact List.prefix_refl _
    | bumped => exact List.prefix_refl _
  have version : s.events.version ≤ t.events.version := by
    cases moved with
    | bumped => exact Nat.le_succ _
    | ticked => exact Nat.le_refl _
    | recorded => exact Nat.le_refl _
  have balance := sound.ledger.balance
  refine ⟨⟨?_⟩, ?_, ?_, ?_, ?_⟩
  · cases moved with
    | ticked => exact balance
    | recorded event ready =>
      simp only [owed, ready, List.length_append] at balance ⊢
      simpa using balance
    | bumped owing =>
      simp only [owed, owing, send_modify_version] at balance ⊢
      simpa using balance
  · cases moved with
    | ticked => exact sound.journal
    | recorded event => exact record_journal_suffix sound.journal event
    | bumped => exact sound.journal
  · have before := sound.watermark
    cases moved with
    | ticked => exact before
    | recorded event =>
      simp only [watermarkAt, List.take_length] at before ⊢
      change max s.inbox.watermark event.seq = _
      rw [before, advance, advance, List.foldl_append]
      rfl
    | bumped => exact before
  · intro id call pending
    rw [clients] at pending ⊢
    have kept := sound.calls id call pending
    exact ⟨kept.seen.trans version, kept.settled, kept.previous,
      fun first second => (kept.pointed first second).extend later,
      fun events seq deciding => (kept.deciding events seq deciding).extend later,
      fun seq expiring => (kept.expiring seq expiring).extend later⟩
  · intro id outcome member
    rw [clients] at member
    have kept := sound.outcomes id outcome member
    exact ⟨kept.read.extend later, kept.returned.1, kept.returned.2.trans later.length_le⟩

/-- Reading the filter point captures a watermark. -/
private theorem captured_pointed {s : Run.State} (sound : Sound s) {client : Client}
    {call : Call} (outcomes : ∀ outcome ∈ client.outcomes, OutcomeSound s outcome)
    (previous : call.previous = (lastOutcome client).map fun outcome => outcome.batch.seq) :
    Pointed s
      { call with
        filterPoint := call.spec.sinceSeq.getD s.inbox.watermark
        phase := .marking
        captured := captureIndex s client call.spec } := by
  refine ⟨?_, ?_, ?_, ?_⟩
  · change captureIndex s client call.spec ≤ _
    unfold captureIndex
    split
    · next since outcome given last =>
      exact (outcomes outcome (List.mem_of_getLast? last)).read.inside
    · exact Nat.le_refl _
  · intro since given
    change call.spec.sinceSeq = some since at given
    simp [given]
  · intro absent
    change call.spec.sinceSeq = none at absent
    change call.spec.sinceSeq.getD s.inbox.watermark = watermarkAt s (captureIndex s client call.spec)
    rw [absent, Option.getD_none]
    unfold captureIndex
    rw [absent]
    exact sound.watermark
  · intro since given same
    change call.spec.sinceSeq = some since at given
    change call.previous = some since at same
    change call.spec.sinceSeq.getD s.inbox.watermark = watermarkAt s (captureIndex s client call.spec)
    rw [previous] at same
    obtain ⟨outcome, last, seq⟩ := Option.map_eq_some_iff.mp same
    have read := (outcomes outcome (List.mem_of_getLast? last)).read.seq
    unfold captureIndex
    rw [given, last, Option.getD_some, ← seq]
    exact read

private theorem collected_read {s : Run.State} (sound : Sound s) {call : Call}
    (pointed : Pointed s call) :
    Read s
      { call with
        phase := .deciding (s.inbox.collect call.spec call.filterPoint) s.inbox.watermark
        examined := s.recorded.length
        held := s.inbox.journal }
      (s.inbox.collect call.spec call.filterPoint) s.inbox.watermark := by
  refine ⟨⟨pointed.inside, pointed.explicit, pointed.fresh, pointed.resumed⟩, pointed.inside,
    Nat.le_refl _, ?_, collect_eq_oldest_matching _ _ _, sound.watermark⟩
  change s.inbox.journal <:+ s.recorded.take s.recorded.length
  rw [List.take_length]
  exact sound.journal

private theorem call_move_sound {s : Run.State} {label : Label} (sound : Sound s) {id : ℕ}
    {moved : Client}
    (move : CallMove s id label (s.clients id) moved) :
    (∀ call, moved.call = some call → CallSound s moved call) ∧
      ∀ outcome ∈ moved.outcomes, OutcomeSound s outcome := by
  have outcomes := sound.outcomes id
  have calls := sound.calls id
  have balance := sound.ledger.balance
  generalize s.clients id = client at move outcomes calls
  cases move with
  | began spec =>
    refine ⟨fun call pending => ?_, outcomes⟩
    cases pending
    exact ⟨Nat.zero_le _, (fun now => by cases now), rfl, fun now => absurd rfl now,
      (fun _ _ now => by cases now), fun _ now => by cases now⟩
  | subscribed call pending =>
    refine ⟨fun next same => ?_, outcomes⟩
    cases same
    exact ⟨Nat.le_refl _, (fun now => by cases now), (calls call pending).previous,
      fun _ now => absurd rfl now, (fun _ _ now => by cases now), fun _ now => by cases now⟩
  | captured call pending =>
    have kept := calls call pending
    refine ⟨fun next same => ?_, outcomes⟩
    cases same
    exact ⟨kept.seen, (fun now => by cases now), kept.previous,
      fun _ _ => captured_pointed sound outcomes kept.previous, (fun _ _ now => by cases now),
      fun _ now => by cases now⟩
  | marked call phase pending pointed next =>
    have kept := calls call pending
    have point := kept.pointed pointed.1 pointed.2
    refine ⟨fun other same => ?_, outcomes⟩
    cases same
    refine ⟨Nat.le_refl _, ?_, kept.previous,
      fun _ _ => ⟨point.inside, point.explicit, point.fresh, point.resumed⟩, ?_, ?_⟩
    · rcases next with rfl | rfl <;> intro now <;> cases now
    · rcases next with rfl | rfl <;> intro _ _ now <;> cases now
    · rcases next with rfl | rfl <;> intro _ now <;> cases now
  | collected call pending collecting =>
    have kept := calls call pending
    have pointed := kept.pointed (by simp [collecting]) (by simp [collecting])
    have read := collected_read sound pointed
    have seen := kept.seen
    refine ⟨fun other same => ?_, outcomes⟩
    cases same
    refine ⟨kept.seen, fun _ => ?_, kept.previous, fun _ _ => read.pointed, ?_,
      fun _ now => by cases now⟩
    · change call.receiver.seen ≤ s.recorded.length
      omega
    · intro events seq same
      cases same
      exact read
  | expired call seq pending deciding =>
    have kept := calls call pending
    have read := kept.deciding [] seq deciding
    refine ⟨fun other same => ?_, outcomes⟩
    cases same
    refine ⟨kept.seen, fun _ => kept.settled (by rw [deciding]; rfl), kept.previous,
      fun _ _ => ⟨read.pointed.inside, read.pointed.explicit, read.pointed.fresh,
        read.pointed.resumed⟩, (fun _ _ now => by cases now), fun other now => ?_⟩
    cases now
    exact ⟨⟨read.pointed.inside, read.pointed.explicit, read.pointed.fresh,
      read.pointed.resumed⟩, read.order, read.inside, read.held, read.events, read.seq⟩
  | parked call seq pending deciding =>
    have kept := calls call pending
    have point := (kept.deciding [] seq deciding).pointed
    refine ⟨fun other same => ?_, outcomes⟩
    cases same
    exact ⟨kept.seen, fun _ => kept.settled (by rw [deciding]; rfl), kept.previous,
      fun _ _ => ⟨point.inside, point.explicit, point.fresh, point.resumed⟩,
      (fun _ _ now => by cases now), fun _ now => by cases now⟩
  | resolved call events seq elapsed timedOut pending result =>
    have kept := calls call pending
    have read : Read s call events seq := by
      rcases result with deciding | ⟨rfl, expiring⟩
      · exact kept.deciding events seq deciding
      · exact kept.expiring seq expiring
    refine ⟨(fun other now => by cases now), fun outcome member => ?_⟩
    rcases List.mem_append.mp member with old | new
    · exact outcomes outcome old
    · rw [List.mem_singleton.mp new]
      exact ⟨read, read.inside, Nat.le_refl _⟩
  | timed call pending parked =>
    have kept := calls call pending
    have point := kept.pointed (by simp [parked]) (by simp [parked])
    refine ⟨fun other same => ?_, outcomes⟩
    cases same
    exact ⟨kept.seen, (fun now => by cases now), kept.previous,
      fun _ _ => ⟨point.inside, point.explicit, point.fresh, point.resumed⟩,
      (fun _ _ now => by cases now), fun _ now => by cases now⟩
  | cancelled => exact ⟨(fun other now => by cases now), outcomes⟩

private theorem client_step_sound {s : Run.State} {label : Label} (sound : Sound s) {id : ℕ}
    {moved : Client}
    (move : CallMove s id label (s.clients id) moved) : Sound (s.setClient id moved) := by
  obtain ⟨call, outcomes⟩ := call_move_sound sound move
  have transfer : ∀ {client : Client} {call : Call}, CallSound s client call →
      CallSound (s.setClient id moved) client call := fun kept =>
    ⟨kept.seen, kept.settled, kept.previous,
      fun first second => (kept.pointed first second).extend (List.prefix_refl _),
      fun events seq now => (kept.deciding events seq now).extend (List.prefix_refl _),
      fun seq now => (kept.expiring seq now).extend (List.prefix_refl _)⟩
  refine ⟨⟨sound.ledger.balance⟩, sound.journal, sound.watermark, ?_, ?_⟩
  · intro other pendingCall pending
    by_cases same : other = id
    · subst same
      simp only [State.setClient, Function.update_self] at pending ⊢
      exact transfer (call pendingCall pending)
    · simp only [State.setClient, Function.update_of_ne same] at pending ⊢
      exact transfer (sound.calls other pendingCall pending)
  · intro other outcome member
    have kept : OutcomeSound s outcome := by
      by_cases same : other = id
      · subst same
        simp only [State.setClient, Function.update_self] at member
        exact outcomes outcome member
      · simp only [State.setClient, Function.update_of_ne same] at member
        exact sound.outcomes other outcome member
    exact ⟨kept.read.extend (List.prefix_refl _), kept.returned⟩

theorem step_sound {s t : Run.State} {label : Label} (sound : Sound s)
    (taken : step s label = some t) : Sound t := by
  rcases step_cases taken with moved | ⟨id, moved, rfl, move⟩
  · exact env_step_sound sound moved
  · exact client_step_sound sound move

private theorem initial_sound (capacity : ℕ) : Sound (State.new capacity) where
  ledger := ⟨rfl⟩
  journal := List.suffix_refl _
  watermark := rfl
  calls := fun id call pending => by cases pending
  outcomes := fun id outcome member => by cases member

theorem sound_of_reachable {capacity : ℕ} {allowed : Run.State → Label → Prop} {s : Run.State}
    (reached : Reachable (machine capacity) allowed s) : Sound s :=
  Inductive.holds (P := Sound)
    ⟨initial_sound capacity, fun {_ _ _} sound _ taken => step_sound sound taken⟩ reached

end ADesk.Notify.Invariants
