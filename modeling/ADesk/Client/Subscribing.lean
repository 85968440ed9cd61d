/- ADesk/Client/Subscribing
   digest: The stream of a subscription misses nothing when no event is handled between its response
   and its registration. -/

import ADesk.Client.Settled

set_option autoImplicit false

namespace ADesk.Client.Subscribing

open ADesk.Client.Completion
open ADesk.Client.Fanout (Hub Channel EventFanout Sound Accounts Changed eventChannelCapacity)
open ADesk.Client.Settled
open ADesk.Client.Transport
open ADesk.Foundation.Entries
open ADesk.Foundation.Execution
open ADesk.Foundation.GapLog

universe u v

variable {ε : Type u} {Value : Type v}

/-! ## The fan-out while the connection lasts -/

variable {hub later : Hub ε} {channel : Channel ε} {index capacity : ℕ}

/-- An event is fanned out only while the connection lasts. -/
def SendsOpen (hub : Hub ε) : Fanout.Label ε → Prop
  | .send _ => hub.fanout.closed = false
  | _ => True

/-- Every live channel has been offered, or is due, all events since its registration. -/
structure Whole (hub : Hub ε) : Prop where
  served : hub.fanout.closed = false → ∀ (index : ℕ) (channel : Channel ε),
    hub.channels[index]? = some channel → channel.receiverAlive = true →
      index ∈ hub.fanout.subscribers
  idle : hub.fanout.closed = true → hub.sending = none
  ended : hub.fanout.closed = true → ∀ (index : ℕ) (channel : Channel ε),
    hub.channels[index]? = some channel → channel.receiverAlive = true →
      channel.offered = hub.sent.zipIdx.drop channel.since

theorem Whole.new : Whole (Hub.new : Hub ε) where
  served _ index channel present := by simp [Hub.new] at present
  idle closed := by cases closed
  ended closed := by cases closed

theorem Whole.complete (whole : Whole hub) (sound : Sound hub)
    (present : hub.channels[index]? = some channel) (alive : channel.receiverAlive = true) :
    channel.offered ++ hub.due index = hub.sent.zipIdx.drop channel.since := by
  cases closed : hub.fanout.closed with
  | false =>
    exact (sound.accounts index channel present).current alive
      (whole.served closed index channel present alive)
  | true =>
    rw [Fanout.due_idle (whole.idle closed), List.append_nil]
    exact whole.ended closed index channel present alive

/-- What a channel keeps through every step. -/
theorem changed_keeps {label : Fanout.Label ε} {before : Channel ε}
    (changed : Changed capacity hub label index (some before) channel) :
    channel.since = before.since ∧ (channel.receiverAlive = true → before.receiverAlive = true) ∧
      (hub.sending = none → channel.offered = before.offered) := by
  cases changed with
  | same => exact ⟨rfl, fun alive => alive, fun _ => rfl⟩
  | offered _ event due _ =>
    refine ⟨?_, ?_, fun idle => ?_⟩
    · unfold Channel.trySend
      split
      · split <;> rfl
      · rfl
    · unfold Channel.trySend
      split
      · next alive => exact fun _ => alive
      · exact fun alive => alive
    · rw [Fanout.due_idle idle] at due
      cases due
  | counted => exact ⟨rfl, fun alive => alive, fun _ => rfl⟩
  | skipTaken _ _ =>
    unfold Channel.takeSkipped
    split
    · exact ⟨rfl, fun alive => alive, fun _ => rfl⟩
    · exact ⟨rfl, fun alive => alive, fun _ => rfl⟩
  | received _ senderAlive _ =>
    unfold Channel.recv
    split
    · exact ⟨rfl, fun alive => alive, fun _ => rfl⟩
    · split
      · exact ⟨rfl, fun alive => alive, fun _ => rfl⟩
      · exact ⟨rfl, fun alive => alive, fun _ => rfl⟩
  | dropped => exact ⟨rfl, fun alive => (by cases alive), fun _ => rfl⟩

/-- Only a send changes what was sent, and no channel goes away. -/
theorem hub_grows {label : Fanout.Label ε} (taken : Fanout.step capacity hub label = some later) :
    hub.channels.length ≤ later.channels.length ∧
      ((∀ payload, label ≠ .send payload) → later.sent = hub.sent) := by
  cases label with
  | subscribe =>
    simp only [Fanout.step, Hub.subscribe] at taken
    split at taken
    · obtain rfl := (Option.some.inj taken).symm
      exact ⟨by simp, fun _ => rfl⟩
    · cases taken
  | send payload =>
    refine ⟨?_, fun other => absurd rfl (other payload)⟩
    simp only [Fanout.step, Hub.send] at taken
    split at taken
    · split at taken
      · exact Option.some.inj taken ▸ Nat.le_refl _
      · split at taken
        · exact Option.some.inj taken ▸ Nat.le_refl _
        · exact Option.some.inj taken ▸ Nat.le_refl _
    · cases taken
  | deliver =>
    simp only [Fanout.step, Hub.deliver] at taken
    split at taken
    · obtain rfl := (Option.some.inj taken).symm
      exact ⟨Nat.le_of_eq (Fanout.update_length _).symm, fun _ => rfl⟩
    · cases taken
  | count =>
    simp only [Fanout.step, Hub.count] at taken
    split at taken
    · obtain rfl := (Option.some.inj taken).symm
      exact ⟨Nat.le_of_eq (Fanout.update_length _).symm, fun _ => rfl⟩
    · cases taken
  | finish =>
    simp only [Fanout.step, Hub.finish] at taken
    split at taken
    · obtain rfl := (Option.some.inj taken).symm
      exact ⟨Nat.le_refl _, fun _ => rfl⟩
    · cases taken
  | close =>
    simp only [Fanout.step, Hub.close] at taken
    split at taken
    · obtain rfl := (Option.some.inj taken).symm
      exact ⟨Nat.le_refl _, fun _ => rfl⟩
    · cases taken
  | pollSkipped _ =>
    simp only [Fanout.step] at taken
    split at taken
    · obtain rfl := (Option.some.inj taken).symm
      exact ⟨Nat.le_of_eq (Fanout.update_length _).symm, fun _ => rfl⟩
    · cases taken
  | pollQueue _ =>
    simp only [Fanout.step] at taken
    split at taken
    · obtain rfl := (Option.some.inj taken).symm
      exact ⟨Nat.le_of_eq (Fanout.update_length _).symm, fun _ => rfl⟩
    · cases taken
  | dropStream _ =>
    simp only [Fanout.step] at taken
    split at taken
    · obtain rfl := (Option.some.inj taken).symm
      exact ⟨Nat.le_of_eq (Fanout.update_length _).symm, fun _ => rfl⟩
    · cases taken

theorem channel_stays {label : Fanout.Label ε} (sound : Sound hub)
    (taken : Fanout.step capacity hub label = some later)
    (present : hub.channels[index]? = some channel) :
    ∃ kept, later.channels[index]? = some kept ∧ kept.since = channel.since := by
  obtain ⟨inside, _⟩ := List.getElem?_eq_some_iff.mp present
  have found := List.getElem?_eq_getElem (Nat.lt_of_lt_of_le inside (hub_grows taken).1)
  refine ⟨_, found, ?_⟩
  have changed := Fanout.step_channel sound.registered taken found
  rw [present] at changed
  exact (changed_keeps changed).1

/-- Steps that leave the subscribers and what was sent alone, and open no channel. -/
theorem Whole.kept {label : Fanout.Label ε} (whole : Whole hub) (sound : Sound hub)
    (taken : Fanout.step capacity hub label = some later) (fanout : later.fanout = hub.fanout)
    (sent : later.sent = hub.sent) (length : later.channels.length = hub.channels.length)
    (sending : hub.sending = none → later.sending = none) : Whole later := by
  have before : ∀ (index : ℕ) (channel : Channel ε), later.channels[index]? = some channel →
      ∃ old, hub.channels[index]? = some old ∧
        Changed capacity hub label index (some old) channel := by
    intro index channel found
    obtain ⟨inside, _⟩ := List.getElem?_eq_some_iff.mp found
    have changed := Fanout.step_channel sound.registered taken found
    have there := List.getElem?_eq_getElem (length ▸ inside : index < hub.channels.length)
    rw [there] at changed
    exact ⟨_, there, changed⟩
  refine ⟨?_, ?_, ?_⟩
  · intro lasts index channel found alive
    obtain ⟨old, there, changed⟩ := before index channel found
    rw [fanout] at lasts ⊢
    exact whole.served lasts index old there ((changed_keeps changed).2.1 alive)
  · intro closed
    exact sending (whole.idle (fanout ▸ closed))
  · intro closed index channel found alive
    rw [fanout] at closed
    obtain ⟨old, there, changed⟩ := before index channel found
    obtain ⟨since, living, offered⟩ := changed_keeps changed
    rw [offered (whole.idle closed), since, sent]
    exact whole.ended closed index old there (living alive)

theorem Whole.subscribe (whole : Whole hub) (taken : hub.subscribe = some later) :
    Whole later := by
  unfold Hub.subscribe at taken
  split at taken
  · next free =>
    obtain rfl := (Option.some.inj taken).symm
    have idle : hub.sending = none := Option.isNone_iff_eq_none.mp free
    have same : (hub.fanout.register hub.channels.length).closed = hub.fanout.closed := by
      unfold EventFanout.register
      split <;> rfl
    refine ⟨?_, fun _ => idle, ?_⟩
    · intro lasts index channel found alive
      simp only [same] at lasts
      simp only [EventFanout.register, lasts, Bool.false_eq_true, if_false]
      rcases (append_entry _ _ index channel).mp found with old | ⟨rfl, _⟩
      · exact List.mem_append_left _ (whole.served lasts index channel old alive)
      · exact List.mem_append_right _ (List.mem_singleton_self _)
    · intro closed index channel found alive
      simp only [same] at closed
      rcases (append_entry _ _ index channel).mp found with old | ⟨rfl, rfl⟩
      · exact whole.ended closed index channel old alive
      · refine (List.drop_eq_nil_of_le ?_).symm
        rw [List.length_zipIdx]
        exact Nat.le_refl _
  · cases taken

theorem Whole.send (whole : Whole hub) (lasts : hub.fanout.closed = false) {payload : ε}
    (taken : hub.send payload = some later) : Whole later := by
  unfold Hub.send at taken
  split at taken
  · simp only [lasts, Bool.false_eq_true, if_false] at taken
    split at taken
    · next nobody =>
      obtain rfl := (Option.some.inj taken).symm
      refine ⟨?_, fun closed => ?_, fun closed => ?_⟩
      · -- The last live subscriber would have been served.
        intro _ index channel found alive
        have live : hub.isLive index = true := by
          rw [Hub.isLive, show hub.channels[index]? = some channel from found]
          exact alive
        have member := Fanout.live_served live (whole.served lasts index channel found alive)
        rw [nobody] at member
        cases member
      · cases closed
      · cases closed
    · obtain rfl := (Option.some.inj taken).symm
      refine ⟨whole.served, fun closed => ?_, fun closed => ?_⟩
      · rw [show hub.fanout.closed = true from closed] at lasts
        cases lasts
      · rw [show hub.fanout.closed = true from closed] at lasts
        cases lasts
  · cases taken

theorem whole_step {label : Fanout.Label ε} (whole : Whole hub) (sound : Sound hub)
    (allowed : SendsOpen hub label) (taken : Fanout.step capacity hub label = some later) :
    Whole later := by
  have under : ∀ {sending}, hub.sending = some sending → hub.sending = none →
      later.sending = none := by
    intro sending some' idle
    rw [some'] at idle
    cases idle
  have step := taken
  cases label with
  | subscribe => exact whole.subscribe taken
  | send payload => exact whole.send allowed taken
  | deliver =>
    simp only [Fanout.step, Hub.deliver] at taken
    split at taken
    · next sending =>
      obtain rfl := (Option.some.inj taken).symm
      exact whole.kept sound step rfl rfl (Fanout.update_length _) (under sending)
    · cases taken
  | count =>
    simp only [Fanout.step, Hub.count] at taken
    split at taken
    · next sending =>
      obtain rfl := (Option.some.inj taken).symm
      exact whole.kept sound step rfl rfl (Fanout.update_length _) (under sending)
    · cases taken
  | finish =>
    simp only [Fanout.step, Hub.finish] at taken
    split at taken
    · next sending =>
      obtain rfl := (Option.some.inj taken).symm
      refine ⟨?_, fun _ => rfl, ?_⟩
      · intro lasts index channel found alive
        refine List.mem_filter.mpr ⟨whole.served lasts index channel found alive, ?_⟩
        rw [Hub.isLive, show hub.channels[index]? = some channel from found]
        exact alive
      · intro closed index channel found alive
        exact whole.ended closed index channel found alive
    · cases taken
  | close =>
    simp only [Fanout.step, Hub.close] at taken
    split at taken
    · next free =>
      have idle : hub.sending = none := Option.isNone_iff_eq_none.mp free
      obtain rfl := (Option.some.inj taken).symm
      refine ⟨fun lasts => (by cases lasts), fun _ => idle, ?_⟩
      intro _ index channel found alive
      have complete := whole.complete sound found alive
      rw [Fanout.due_idle idle, List.append_nil] at complete
      exact complete
    · cases taken
  | pollSkipped _ =>
    simp only [Fanout.step] at taken
    split at taken
    · obtain rfl := (Option.some.inj taken).symm
      exact whole.kept sound step rfl rfl (Fanout.update_length _) fun idle => idle
    · cases taken
  | pollQueue _ =>
    simp only [Fanout.step] at taken
    split at taken
    · obtain rfl := (Option.some.inj taken).symm
      exact whole.kept sound step rfl rfl (Fanout.update_length _) fun idle => idle
    · cases taken
  | dropStream _ =>
    simp only [Fanout.step] at taken
    split at taken
    · obtain rfl := (Option.some.inj taken).symm
      exact whole.kept sound step rfl rfl (Fanout.update_length _) fun idle => idle
    · cases taken

theorem whole_of_reachable
    (reached : Reachable (Fanout.machine ε capacity) SendsOpen hub) : Whole hub := by
  refine invariant_relative (P := Whole) Fanout.sound_of_reachable Whole.new ?_ reached
  intro hub later label sound _ whole allowed taken
  exact whole_step whole sound allowed taken

/-! ## Answered subscriptions that have no stream yet -/

/-- A response that makes `subscribe_events` return a stream. -/
def accepted (fits : Value → Bool) : Except ServerError Value → Bool
  | .ok value => fits value
  | .error _ => false

def slotAccepted (fits : Value → Bool) : Slot Value → Bool
  | .sent _ result => accepted fits result
  | .unset => false
  | .dropped => false

def stageAccepted (fits : Value → Bool) : Stage Value → Bool
  | .completed (.answered _ result) => accepted fits result
  | _ => false

/-- The response was handled and its stream is still to be registered. -/
def waits (fits : Value → Bool) (request : Request Value) : Bool :=
  request.subscribes && request.stream.isNone &&
    (slotAccepted fits request.slot || stageAccepted fits request.stage)

/-- The reader handles an event only while the connection lasts and no answered subscription waits
for its registration. -/
def Prompt (fits : Value → Bool) (s : Connection Value ε) : Label Value ε → Prop
  | .handle => ∀ payload, s.reader = .holding (.event payload) →
    s.hub.fanout.closed = false ∧ ∀ request ∈ s.requests, waits fits request = false
  | _ => True

variable {fits : Value → Bool} {s after : Connection Value ε} {request : Request Value}
variable {label : Label Value ε}

/-- The step of the fan-out in a step of the connection. -/
theorem step_hub (taken : step capacity fits s label = some after) :
    after.hub = s.hub ∨ ∃ move, Fanout.step capacity s.hub move = some after.hub ∧
      ∀ payload, move = .send payload → label = .handle ∧ s.reader = .holding (.event payload) := by
  cases label with
  | advance index =>
    simp only [step] at taken
    split at taken
    · obtain ⟨changed, moved⟩ := advance_moves taken
      exact Or.inl moved.hub
    · cases taken
  | register index =>
    simp only [step, Connection.register] at taken
    split at taken
    · split at taken
      · split at taken
        · obtain ⟨hub, opened, rfl⟩ := Option.map_eq_some_iff.mp taken
          exact Or.inr ⟨.subscribe, opened, fun payload other => by cases other⟩
        · cases taken
      · cases taken
    · cases taken
  | advanceCloser closer =>
    simp only [step] at taken
    split at taken
    · next closing present =>
      unfold Connection.advanceCloser at taken
      split at taken
      · exact Or.inl (Option.some.inj taken ▸ rfl)
      · exact Or.inl (Option.some.inj taken ▸ rfl)
      · exact Or.inl (Option.some.inj taken ▸ rfl)
      · exact Or.inl (Option.some.inj taken ▸ rfl)
      · exact Or.inl (Option.some.inj taken ▸ rfl)
      · split at taken
        · next hub ended =>
          obtain rfl := (Option.some.inj taken).symm
          exact Or.inr ⟨.close, ended, fun payload other => by cases other⟩
        · cases taken
      · cases taken
    · cases taken
  | handle =>
    simp only [step] at taken
    split at taken
    · next frame holding =>
      cases frame with
      | response id result =>
        obtain rfl := (Option.some.inj taken).symm
        unfold Connection.resolve
        split
        · exact Or.inl rfl
        · exact Or.inl rfl
      | event payload =>
        obtain ⟨hub, sent, rfl⟩ := Option.map_eq_some_iff.mp taken
        refine Or.inr ⟨.send payload, sent, fun other same => ?_⟩
        obtain rfl := Fanout.Label.send.inj same
        exact ⟨rfl, holding⟩
      | malformed error => exact Or.inl (Option.some.inj taken ▸ rfl)
    · cases taken
  | fanout move =>
    simp only [step] at taken
    split at taken
    · next passing =>
      obtain ⟨hub, moved, rfl⟩ := Option.map_eq_some_iff.mp taken
      refine Or.inr ⟨move, moved, fun payload same => ?_⟩
      rw [same] at passing
      cases passing
    · cases taken
  | call encoding subscribes => exact Or.inl (Option.some.inj taken ▸ rfl)
  | fireAndForget => exact Or.inl (Option.some.inj taken ▸ rfl)
  | close => exact Or.inl (Option.some.inj taken ▸ rfl)
  | dropShutdown =>
    simp only [step] at taken
    split at taken
    · exact Or.inl (Option.some.inj taken ▸ rfl)
    · cases taken
  | readLine frame =>
    simp only [step] at taken
    split at taken
    · split at taken
      · exact Or.inl (Option.some.inj taken ▸ rfl)
      · cases taken
    · cases taken
  | readEnd error =>
    simp only [step] at taken
    split at taken
    · split at taken
      · exact Or.inl (Option.some.inj taken ▸ rfl)
      · cases taken
    · cases taken
  | fanned =>
    simp only [step] at taken
    split at taken
    · split at taken
      · exact Or.inl (Option.some.inj taken ▸ rfl)
      · cases taken
    · cases taken
  | seeShutdown =>
    simp only [step] at taken
    split at taken
    · split at taken
      · cases taken
      · exact Or.inl (Option.some.inj taken ▸ rfl)
    · cases taken
  | recvLine =>
    simp only [step] at taken
    split at taken
    · exact Or.inl (Option.some.inj taken ▸ rfl)
    · split at taken
      · cases taken
      · exact Or.inl (Option.some.inj taken ▸ rfl)
    · cases taken
  | writeOk =>
    simp only [step] at taken
    split at taken
    · exact Or.inl (Option.some.inj taken ▸ rfl)
    · cases taken
  | writeFails kind message =>
    simp only [step] at taken
    split at taken
    · exact Or.inl (Option.some.inj taken ▸ rfl)
    · cases taken
  | endWriter =>
    simp only [step] at taken
    split at taken
    · split at taken
      · exact Or.inl (Option.some.inj taken ▸ rfl)
      · cases taken
    · cases taken

theorem hub_reachable {allowed : Connection Value ε → Label Value ε → Prop}
    {allowedHub : Hub ε → Fanout.Label ε → Prop}
    (through : ∀ s label move, allowed s label → (∀ payload, move = .send payload →
      label = .handle ∧ s.reader = .holding (.event payload)) → allowedHub s.hub move)
    (reached : Reachable (machine ε capacity fits) allowed s) :
    Reachable (Fanout.machine ε capacity) allowedHub s.hub := by
  refine reachable_view (N := Fanout.machine ε capacity) Connection.hub .start ?_ reached
  intro s after label _ ok taken before
  have moved : step capacity fits s label = some after := taken
  rcases step_hub moved with same | ⟨move, stepped, sends⟩
  · exact same ▸ before
  · exact .next before (through s label move ok sends) stepped

theorem hub_of_prompt (reached : Reachable (machine ε capacity fits) (Prompt fits) s) :
    Reachable (Fanout.machine ε capacity) SendsOpen s.hub := by
  refine hub_reachable ?_ reached
  intro s label move prompt sends
  cases move with
  | send payload =>
    obtain ⟨rfl, holding⟩ := sends payload rfl
    exact (prompt payload holding).1
  | _ => trivial

/-! ## The response, the registration, and the events after them -/

/-- No event came between the response and the registration of its stream. -/
structure Linked (fits : Value → Bool) (hub : Hub ε) (request : Request Value) : Prop where
  waiting : waits fits request = true → request.answeredAt = some hub.sent.length
  registered : ∀ stream, request.stream = some stream →
    (∃ completion, request.stage = .completed completion) ∧
      ∃ channel : Channel ε, hub.channels[stream]? = some channel ∧
        request.answeredAt = some channel.since

/-- The fan-out moved on, without an event if the request waits. -/
theorem Linked.follows (linked : Linked fits hub request)
    (sent : waits fits request = true → later.sent = hub.sent)
    (channels : ∀ (stream : ℕ) (channel : Channel ε), hub.channels[stream]? = some channel →
      ∃ kept, later.channels[stream]? = some kept ∧ kept.since = channel.since) :
    Linked fits later request where
  waiting waiting := by rw [sent waiting, linked.waiting waiting]
  registered stream named := by
    obtain ⟨settled, channel, present, since⟩ := linked.registered stream named
    obtain ⟨kept, found, same⟩ := channels stream channel present
    exact ⟨settled, kept, found, same ▸ since⟩

/-- The request moved on, still without a stream or already completed. -/
theorem Linked.moves {changed : Request Value} (linked : Linked fits hub request)
    (waiting : waits fits changed = true → waits fits request = true)
    (stream : changed.stream = request.stream) (answeredAt : changed.answeredAt = request.answeredAt)
    (settled : request.stream ≠ none → changed.stage = request.stage) :
    Linked fits hub changed where
  waiting now := by rw [answeredAt, linked.waiting (waiting now)]
  registered index named := by
    rw [stream] at named
    obtain ⟨completed, channel, present, since⟩ := linked.registered index named
    rw [settled (by simp [named]), answeredAt]
    exact ⟨completed, channel, present, since⟩

theorem moved_waits {changed : Request Value} (moved : Moved s index request changed after)
    (waiting : waits fits changed = true) : waits fits request = true := by
  have comes := moved.comes
  unfold waits at waiting ⊢
  rw [moved.subscribes, moved.stream, moved.slot, Bool.and_eq_true, Bool.or_eq_true] at waiting
  rw [Bool.and_eq_true, Bool.or_eq_true]
  obtain ⟨first, slot | stage⟩ := waiting
  · exact ⟨first, Or.inl slot⟩
  · cases now : changed.stage with
    | completed completion =>
      rw [now] at stage
      cases completion with
      | answered id result =>
        -- A call completes with what its slot holds.
        have sent : request.slot = .sent id result := comes _ now
        refine ⟨first, Or.inl ?_⟩
        rw [sent]
        exact stage
      | failed error => cases stage
    | _ =>
      rw [now] at stage
      cases stage

theorem call_linked (encoding : Encoding) (subscribes : Bool) :
    Linked fits hub (.called encoding subscribes : Request Value) where
  waiting waiting := by simp [waits, Request.called, slotAccepted, stageAccepted] at waiting
  registered stream named := by cases named

/-- The stream is registered with the event count of its response. -/
theorem register_linked (linked : Linked fits s.hub request)
    (taken : s.register fits index request = some after) :
    ∃ changed, after.requests = s.requests.set index changed ∧ Linked fits after.hub changed := by
  unfold Connection.register at taken
  split at taken
  · next id value subscribes stream stage =>
    split at taken
    · next fit =>
      obtain ⟨hub, opened, rfl⟩ := Option.map_eq_some_iff.mp taken
      have waiting : waits fits request = true := by
        simp [waits, subscribes, stream, stage, stageAccepted, accepted, fit]
      refine ⟨_, rfl, fun now => ?_, fun named same => ?_⟩
      · simp [waits] at now
      · obtain rfl := (Option.some.inj same).symm
        refine ⟨⟨_, stage⟩, Channel.opened s.hub.sent.length, ?_, linked.waiting waiting⟩
        unfold Hub.subscribe at opened
        split at opened
        · obtain rfl := (Option.some.inj opened).symm
          exact List.getElem?_concat_length
        · cases opened
    · cases taken
  · cases taken

theorem resolve_linked (tracked : Tracked s)
    (linked : ∀ (index : ℕ) (request : Request Value), s.requests[index]? = some request →
      Linked fits s.hub request) (id : ℕ) (result : Except ServerError Value)
    (present : (s.resolve id result).requests[index]? = some request) :
    Linked fits (s.resolve id result).hub request := by
  unfold Connection.resolve at present ⊢
  split at present
  · next holder entry =>
    obtain ⟨awaiting, there, member, _⟩ := tracked.entry id holder entry
    simp only
    rcases (modify_entry _ there index request).mp present with ⟨_, rfl⟩ | ⟨_, kept⟩
    · refine ⟨fun _ => rfl, fun stream named => ?_⟩
      obtain ⟨⟨completion, settled⟩, _⟩ := (linked holder awaiting there).registered stream named
      rw [settled] at member
      cases member
    · exact linked index request kept
  · next absent =>
    simp only
    exact linked index request present

theorem linked_step (tracked : Tracked s) (sound : Sound s.hub)
    (linked : ∀ (index : ℕ) (request : Request Value), s.requests[index]? = some request →
      Linked fits s.hub request) (prompt : Prompt fits s label)
    (taken : step capacity fits s label = some after) :
    ∀ (index : ℕ) (request : Request Value), after.requests[index]? = some request →
      Linked fits after.hub request := by
  have channels : ∀ (stream : ℕ) (channel : Channel ε), s.hub.channels[stream]? = some channel →
      ∃ kept, after.hub.channels[stream]? = some kept ∧ kept.since = channel.since := by
    intro stream channel present
    rcases step_hub taken with same | ⟨move, stepped, _⟩
    · exact ⟨channel, same ▸ present, rfl⟩
    · exact channel_stays sound stepped present
  have sent : ∀ request ∈ s.requests, waits fits request = true →
      after.hub.sent = s.hub.sent := by
    intro request member waiting
    rcases step_hub taken with same | ⟨move, stepped, sends⟩
    · rw [same]
    · refine (hub_grows stepped).2 fun payload same => ?_
      obtain ⟨rfl, holding⟩ := sends payload same
      rw [(prompt payload holding).2 request member] at waiting
      cases waiting
  have keeps : ∀ (index : ℕ) (request : Request Value), s.requests[index]? = some request →
      Linked fits after.hub request := fun index request present =>
    (linked index request present).follows (sent request (List.mem_of_getElem? present)) channels
  -- A changed request that waits waited before.
  have changes : ∀ (index : ℕ) (before changed : Request Value),
      s.requests[index]? = some before → Linked fits s.hub changed →
      (waits fits changed = true → waits fits before = true) → Linked fits after.hub changed :=
    fun index before changed present now waiting => now.follows
      (fun waits => sent before (List.mem_of_getElem? present) (waiting waits)) channels
  intro index request found
  cases step_effect taken with
  | call encoding subscribes same =>
    subst same
    rcases (append_entry _ _ index request).mp found with kept | ⟨_, rfl⟩
    · exact keeps index request kept
    · exact call_linked encoding subscribes
  | advance mover moving there moved =>
    obtain ⟨changed, effect⟩ := advance_moves moved
    rw [effect.requests] at found
    rcases (set_entry there index request).mp found with ⟨_, rfl⟩ | ⟨_, kept⟩
    · refine changes mover moving request there ?_ (moved_waits effect)
      refine (linked mover moving there).moves (moved_waits effect) effect.stream
        effect.answeredAt fun named => ?_
      obtain ⟨stream, some'⟩ := Option.ne_none_iff_exists'.mp named
      obtain ⟨⟨completion, settled⟩, _⟩ := (linked mover moving there).registered stream some'
      have less := effect.shrinks
      rw [settled] at less
      exact absurd less (Nat.not_lt_zero _)
    · exact keeps index request kept
  | register registrant registering there moved =>
    obtain ⟨changed, requests, now⟩ := register_linked (linked registrant registering there) moved
    rw [requests] at found
    rcases (set_entry there index request).mp found with ⟨_, rfl⟩ | ⟨_, kept⟩
    · exact now
    · exact keeps index request kept
  | advanceCloser closer closing present moved =>
    rcases (closer_sets moved).2 with same | ⟨first, _, same⟩
    · exact keeps index request (same ▸ found)
    · rw [same, List.getElem?_modify] at found
      obtain ⟨before, there, rfl⟩ := Option.map_eq_some_iff.mp found
      split
      · have waiting : waits fits (dropSender before) = true → waits fits before = true := by
          intro waiting
          unfold waits at waiting ⊢
          rw [Bool.and_eq_true, Bool.or_eq_true] at waiting ⊢
          obtain ⟨first, slot | stage⟩ := waiting
          · cases slot
          · exact ⟨first, Or.inr stage⟩
        refine changes index before (dropSender before) there ?_ waiting
        exact (linked index before there).moves waiting rfl rfl fun _ => rfl
      · exact keeps index before there
  | respond id result _ same =>
    subst same
    exact resolve_linked tracked linked id result found
  | quiet _ quiet => exact keeps index request (quiet.requests ▸ found)

theorem linked_of_reachable (reached : Reachable (machine ε capacity fits) (Prompt fits) s)
    (present : s.requests[index]? = some request) : Linked fits s.hub request := by
  refine invariant_relative (Q := fun s => Tracked s ∧ Sound s.hub)
    (P := fun s => ∀ (index : ℕ) (request : Request Value), s.requests[index]? = some request →
      Linked fits s.hub request) ?_ ?_ ?_ reached index request present
  · intro s before
    exact ⟨tracked_of_reachable before, Fanout.sound_of_reachable (hub_of_prompt before)⟩
  · intro index request absent
    simp [machine, Connection.connect] at absent
  · intro s after label known _ linked prompt taken
    exact linked_step known.1 known.2 linked prompt taken

/-! ## What the stream of a subscription yields -/

/-- A stream passes the events its filter wants, and every other report. -/
def passes (wanted : ε → Bool) : Item ε → Bool
  | .event payload _ => wanted payload
  | .lagged _ => true
  | .closed => true

/-- What an event stream yields of what its receiver reports. -/
def yields (wanted : ε → Bool) (items : List (Item ε)) : List (Item ε) :=
  items.filter (passes wanted)

theorem delivered_yields (wanted : ε → Bool) (items : List (Item ε)) :
    delivered (yields wanted items) = (delivered items).filter fun event => wanted event.1 := by
  induction items with
  | nil => rfl
  | cons item rest ih =>
    unfold yields at ih ⊢
    cases item with
    | event payload number =>
      cases want : wanted payload with
      | true => simp [delivered, passes, want, ih]
      | false => simp [delivered, passes, want, ih]
    | lagged skipped => simp [List.filter_cons, delivered, passes, ih]
    | closed => simp [List.filter_cons, delivered, passes, ih]

theorem lag_sum_yields (wanted : ε → Bool) (items : List (Item ε)) :
    lagSum (yields wanted items) = lagSum items := by
  induction items with
  | nil => rfl
  | cons item rest ih =>
    unfold yields lagSum at ih ⊢
    cases item with
    | event payload number =>
      cases want : wanted payload with
      | true => simp [passes, want, Item.missed, ih]
      | false => simp [passes, want, Item.missed, ih]
    | lagged skipped => simp [List.filter_cons, passes, Item.missed, ih]
    | closed => simp [List.filter_cons, passes, Item.missed, ih]

/-- Every wanted event handled after the response of a subscription was yielded by its stream, is
buffered or due for it, or was refused; and the refused ones are those that were reported as lagged
or are counted to be. -/
def Covered (wanted : ε → Bool) (s : Connection Value ε) : Prop :=
  ∀ (index : ℕ) (request : Request Value) (stream : ℕ), s.requests[index]? = some request →
    request.stream = some stream → ∃ (channel : Channel ε) (answered : ℕ),
      s.hub.channels[stream]? = some channel ∧ request.answeredAt = some answered ∧
        (channel.receiverAlive = true →
          (delivered (yields wanted channel.items) ++
            (channel.queue ++ channel.refused ++ s.hub.due stream).filter
              fun event => wanted event.1).Perm
            ((s.hub.sent.zipIdx.drop answered).filter fun event => wanted event.1) ∧
          channel.refused.length =
            lagSum (yields wanted channel.items) + channel.skipped + s.hub.uncounted stream)

theorem covered_of_prompt (wanted : ε → Bool)
    (reached : Reachable (machine ε capacity fits) (Prompt fits) s) : Covered wanted s := by
  intro index request stream present named
  obtain ⟨_, channel, found, since⟩ := (linked_of_reachable reached present).registered stream named
  have hub := hub_of_prompt reached
  have sound := Fanout.sound_of_reachable hub
  have accounts := sound.accounts stream channel found
  refine ⟨channel, channel.since, found, since, fun alive => ⟨?_, ?_⟩⟩
  · have whole := (whole_of_reachable hub).complete sound found alive
    rw [delivered_yields, ← List.filter_append, ← whole, List.append_assoc, ← List.append_assoc,
      ← List.append_assoc]
    exact (accounts.split.append_right _).filter _
  · rw [lag_sum_yields]
    exact accounts.counted

/-- The events handled between the response and the registration are lost. -/
theorem lost_in_between {allowed : Connection Value ε → Label Value ε → Prop} {stream : ℕ}
    {answered : ℕ} (reached : Reachable (machine ε capacity fits) allowed s)
    (present : s.requests[index]? = some request) (named : request.stream = some stream)
    (found : s.hub.channels[stream]? = some channel) (alive : channel.receiverAlive = true)
    (response : request.answeredAt = some answered) (between : answered < channel.since) :
    ¬ Covered (fun _ => true) s := by
  intro covered
  have hub : Reachable (Fanout.machine ε capacity) anyStep s.hub :=
    hub_reachable (fun _ _ _ _ _ => trivial) reached
  have sound := Fanout.sound_of_reachable hub
  have accounts := sound.accounts stream channel found
  obtain ⟨other, at', same, answered', holds⟩ := covered index request stream present named
  obtain rfl : other = channel := Option.some.inj (same.symm.trans found)
  obtain rfl : at' = answered := Option.some.inj (answered'.symm.trans response)
  have counted := (holds alive).1.length_eq
  rw [delivered_yields, ← List.filter_append, List.filter_true, List.filter_true] at counted
  have split := accounts.split.length_eq
  have offered : other.offered.length + (s.hub.due stream).length ≤
      s.hub.sent.length - other.since := by
    by_cases subscribed : stream ∈ s.hub.fanout.subscribers
    · have whole := congrArg List.length (accounts.current alive subscribed)
      rw [List.length_append, List.length_drop, List.length_zipIdx] at whole
      omega
    · have nothing : s.hub.due stream = [] := by
        cases sending : s.hub.sending with
        | none => exact Fanout.due_idle sending stream
        | some under =>
          rw [Fanout.due_sending sending]
          refine if_neg fun waiting => subscribed ?_
          exact (sound.registered.waiting under sending).2 stream waiting
      have most := accounts.consecutive.length_le
      rw [List.length_drop, List.length_zipIdx] at most
      rw [nothing]
      simpa using most
  have since := accounts.since
  simp only [List.length_append, List.length_drop, List.length_zipIdx] at counted split since
  omega

/-- Every subscription of a run without such an event is covered, and in any run one with such an
event is not. -/
theorem subscriptions_covered (capacity : ℕ) (fits : Value → Bool) :
    (∀ (wanted : ε → Bool) (s : Connection Value ε),
      Reachable (machine ε capacity fits) (Prompt fits) s → Covered wanted s) ∧
    (∀ s : Connection Value ε, Reachable (machine ε capacity fits) anyStep s →
      ∀ (index : ℕ) (request : Request Value) (stream answered : ℕ) (channel : Channel ε),
        s.requests[index]? = some request → request.stream = some stream →
          s.hub.channels[stream]? = some channel → channel.receiverAlive = true →
            request.answeredAt = some answered → answered < channel.since →
              ¬ Covered (fun _ => true) s) :=
  ⟨fun wanted _ reached => covered_of_prompt wanted reached,
    fun _ reached _ _ _ _ _ present named found alive response between =>
      lost_in_between reached present named found alive response between⟩

instance (fits : Value → Bool) (s : Connection Value ε) (label : Label Value ε) :
    Decidable (Prompt fits s label) := by
  cases label with
  | handle =>
    cases holding : s.reader with
    | holding frame =>
      cases frame with
      | event payload =>
        refine decidable_of_iff (s.hub.fanout.closed = false ∧
          ∀ request ∈ s.requests, waits fits request = false) ?_
        simp [Prompt, holding]
      | response id result => exact isTrue (by simp [Prompt, holding])
      | malformed error => exact isTrue (by simp [Prompt, holding])
    | selecting => exact isTrue (by simp [Prompt, holding])
    | fanning => exact isTrue (by simp [Prompt, holding])
    | closing => exact isTrue (by simp [Prompt, holding])
  | _ => exact isTrue trivial

/-- A subscription, and the response to it. -/
def answeredSubscription : List (Label ℕ ℕ) :=
  [.call .encodes true, .advance 0, .advance 0, .advance 0, .advance 0, .advance 0,
    .readLine (.response 1 (.ok 0)), .handle]

/-- The next event, handled by the reader. -/
def nextEvent : List (Label ℕ ℕ) := [.readLine (.event 7), .handle]

theorem subscriptions_covered_registered :
    ∃ s : Connection ℕ ℕ,
      Reachable (machine ℕ eventChannelCapacity fun _ => true) (Prompt fun _ => true) s ∧
        s.hub.sent = [7] ∧ Covered (fun _ => true) s := by
  let labels : List (Label ℕ ℕ) := answeredSubscription ++ [.advance 0, .register 0] ++ nextEvent
  have reached := final_state_reachable (machine ℕ eventChannelCapacity fun _ : ℕ => true)
    (Prompt fun _ => true) labels (by decide)
  exact ⟨_, reached, rfl, (subscriptions_covered _ _).1 _ _ reached⟩

/-- The reader handles the first event of the subscription before its stream is registered. -/
theorem event_before_registration :
    ¬ ∀ s : Connection ℕ ℕ, Reachable (machine ℕ eventChannelCapacity fun _ => true) anyStep s →
      Covered (fun _ => true) s := by
  intro claimed
  let labels : List (Label ℕ ℕ) :=
    answeredSubscription ++ nextEvent ++ [.fanned, .advance 0, .register 0]
  let run := machine ℕ eventChannelCapacity fun _ : ℕ => true
  have reached := final_state_reachable run anyStep labels (by decide)
  have registered : ∃ (request : Request ℕ) (channel : Channel ℕ),
      (finalState run anyStep labels (by decide)).requests[0]? = some request ∧
        request.stream = some 0 ∧
          (finalState run anyStep labels (by decide)).hub.channels[0]? =
            some channel ∧ channel.receiverAlive = true ∧ request.answeredAt = some 0 ∧
              channel.since = 1 := ⟨_, _, rfl, rfl, rfl, rfl, rfl, rfl⟩
  obtain ⟨request, channel, present, named, found, alive, response, since⟩ := registered
  exact lost_in_between reached present named found alive response (since ▸ Nat.one_pos)
    (claimed _ reached)

end ADesk.Client.Subscribing
