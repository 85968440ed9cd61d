/- ADesk/Notify/Run
   digest: The event inbox as a machine: the recording pump and any number of clients that chain
   their waits, one shared access a step. -/

import ADesk.Foundation.Execution
import ADesk.Foundation.WatchChannel
import ADesk.Notify.Inbox

set_option autoImplicit false

namespace ADesk.Notify.Run

open ADesk.Core.Event (RuntimeEvent)
open ADesk.Core.Time
open ADesk.Foundation.Execution (Machine)
open ADesk.Foundation.WatchChannel
open ADesk.Notify.Inbox

def defaultInboxCapacity : ℕ := 4096

/-- Where a call stands inside `wait_for_events`; each constructor precedes one shared access. -/
inductive CallPhase
  | subscribing
  | capturing
  | marking
  | collecting
  | deciding (events : List RuntimeEvent) (seq : ℕ)
  | expiring (seq : ℕ)
  | parked
  deriving DecidableEq

/-- The phases between a read of the journal and the next `borrow_and_update`. -/
def CallPhase.settled : CallPhase → Bool
  | .deciding .. | .expiring _ | .parked => true
  | .subscribing | .capturing | .marking | .collecting => false

/-- A pending `wait_for_events`. The last four fields are history variables: the `seq` that the
client's previous wait returned, how many events were recorded when the filter point was read
and when the journal was last read, and what the journal held then. -/
structure Call where
  spec : EventWaitSpec
  started : Instant
  deadline : Instant
  receiver : Receiver
  filterPoint : ℕ
  phase : CallPhase
  previous : Option ℕ
  captured : ℕ
  examined : ℕ
  held : List RuntimeEvent
  deriving DecidableEq

/-- A wait that returned, and how many events were recorded by then. -/
structure Outcome where
  call : Call
  batch : EventBatch
  returned : ℕ
  deriving DecidableEq

/-- A client with its pending call and the waits that returned, oldest first. -/
structure Client where
  call : Option Call
  outcomes : List Outcome
  deriving DecidableEq

/-- `unbumped` is set between the recording of an event and its generation bump; `recorded` is
a history variable, every event recorded so far. -/
structure State where
  inbox : InboxState
  events : Sender ℕ
  instant : Instant
  unbumped : Bool
  clients : ℕ → Client
  recorded : List RuntimeEvent

def State.new (capacity : ℕ) : State where
  inbox := InboxState.new capacity
  events := channel 0
  instant := 0
  unbumped := false
  clients := fun _ => ⟨none, []⟩
  recorded := []

inductive Label
  | tick (nanos : ℕ)
  | handleEvent (event : RuntimeEvent)
  | bump
  | waitForEvents (client : ℕ) (spec : EventWaitSpec)
  | callStep (client : ℕ)
  | wakeChanged (client : ℕ)
  | wakeTimer (client : ℕ)
  | cancel (client : ℕ)
  deriving DecidableEq

def lastOutcome (client : Client) : Option Outcome := client.outcomes.getLast?

def Call.start (client : Client) (spec : EventWaitSpec) (now : Instant) : Call where
  spec := spec
  started := now
  deadline := now + spec.timeoutMs * nanosPerMilli
  receiver := ⟨0⟩
  filterPoint := 0
  phase := .subscribing
  previous := (lastOutcome client).map fun outcome => outcome.batch.seq
  captured := 0
  examined := 0
  held := []

def State.setClient (state : State) (id : ℕ) (client : Client) : State :=
  { state with clients := Function.update state.clients id client }

/-- When the filter point of a call was read: at the previous result for a resumed wait, else
with the watermark at its start. -/
def captureIndex (state : State) (client : Client) (spec : EventWaitSpec) : ℕ :=
  match spec.sinceSeq, lastOutcome client with
  | some _, some outcome => outcome.call.examined
  | _, _ => state.recorded.length

def Client.setCall (client : Client) (call : Call) : Client := { client with call := some call }

/-- Returns from the wait with the given batch. -/
def Client.resolve (client : Client) (call : Call) (batch : EventBatch) (returned : ℕ) : Client :=
  ⟨none, client.outcomes ++ [⟨call, batch, returned⟩]⟩

/-- The next access of `wait_for_events`; a parked call moves by its wakeups only. -/
def advanceCall (state : State) (client : Client) (call : Call) : Option Client :=
  match call.phase with
  | .subscribing =>
    some (client.setCall { call with receiver := state.events.subscribe, phase := .capturing })
  | .capturing =>
    some (client.setCall
      { call with
        filterPoint := call.spec.sinceSeq.getD state.inbox.watermark
        phase := .marking
        captured := captureIndex state client call.spec })
  | .marking =>
    some (client.setCall { call with receiver := state.events.markSeen, phase := .collecting })
  | .collecting =>
    some (client.setCall
      { call with
        phase := .deciding (state.inbox.collect call.spec call.filterPoint) state.inbox.watermark
        examined := state.recorded.length
        held := state.inbox.journal })
  | .deciding events seq =>
    if events ≠ [] then
      some (client.resolve call ⟨events, false, elapsedMs call.started state.instant, seq⟩
        state.recorded.length)
    else if state.instant ≥ call.deadline then
      some (client.setCall { call with phase := .expiring seq })
    else some (client.setCall { call with phase := .parked })
  | .expiring seq =>
    some (client.resolve call ⟨[], true, elapsedMs call.started state.instant, seq⟩
      state.recorded.length)
  | .parked => none

def step (state : State) : Label → Option State
  | .tick nanos => some { state with instant := state.instant + nanos }
  | .handleEvent event =>
    if state.unbumped then none
    else
      some
        { state with
          inbox := state.inbox.record event
          unbumped := true
          recorded := state.recorded ++ [event] }
  | .bump =>
    if state.unbumped then
      some
        { state with
          events := state.events.sendModify (fun generation => wrappingAdd generation 1)
          unbumped := false }
    else none
  | .waitForEvents id spec =>
    let client := state.clients id
    match client.call with
    | none =>
      some (state.setClient id (client.setCall (Call.start client spec state.instant)))
    | some _ => none
  | .callStep id =>
    let client := state.clients id
    match client.call with
    | some call => (advanceCall state client call).map (state.setClient id)
    | none => none
  | .wakeChanged id =>
    let client := state.clients id
    match client.call with
    | some call =>
      if call.phase = .parked ∧ call.receiver.Unseen state.events then
        some (state.setClient id
          (client.setCall { call with receiver := state.events.markSeen, phase := .marking }))
      else none
    | none => none
  | .wakeTimer id =>
    let client := state.clients id
    match client.call with
    | some call =>
      if call.phase = .parked ∧ call.deadline ≤ state.instant then
        some (state.setClient id (client.setCall { call with phase := .marking }))
      else none
    | none => none
  | .cancel id =>
    let client := state.clients id
    match client.call with
    | some call =>
      if call.phase = .parked then some (state.setClient id { client with call := none })
      else none
    | none => none

/-- The inbox with its pump and any number of waiting clients. -/
def machine (capacity : ℕ) : Machine State Label := ⟨State.new capacity, step⟩

end ADesk.Notify.Run
