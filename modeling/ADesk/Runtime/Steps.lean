/- ADesk/Runtime/Steps
   digest: What one step of the runtime can do, and what its observer steps leave alone. -/

import ADesk.Observer.Steps
import ADesk.Runtime.Run

set_option autoImplicit false

namespace ADesk.Runtime.Steps

open ADesk.Core.Ids (WindowId ActionId LaunchId)
open ADesk.Core.Event
open ADesk.Compositor.Events
open ADesk.Compositor.State
open ADesk.Foundation.Broadcast
open ADesk.Observer.Actions (ActionKind)
open ADesk.Runtime.Run

/-- The sequence number a handler has reserved and not published yet. -/
def held (handler : Handler) : Option ℕ :=
  match handler.phase with
  | .reserved _ seq _ | .publishing _ seq _ => some seq
  | _ => none

inductive Move (s : State) : Label → State → Prop
  | ticked (nanos : ℕ) :
      Move s (.tick nanos)
        { s with
          observer := { s.observer with instant := s.observer.instant + nanos }
          inbox := { s.inbox with instant := s.inbox.instant + nanos } }
  | client (request : ClientRequest) (free : s.compositorFree) :
      Move s (.client request)
        { s with
          compositor := { s.compositor with wm := (handleClient s.compositor request).1 }
          outbox := (handleClient s.compositor request).2 }
  | served (requester : Requester) (command : Command) (rest : List (Requester × Command))
      (free : s.compositorFree) (queue : s.commands = (requester, command) :: rest) :
      Move s .serve
        { s with
          compositor := (handleCommand s.compositor s.uptimeMs command).1
          outbox := (handleCommand s.compositor s.uptimeMs command).2.1
          serving := some (requester, (handleCommand s.compositor s.uptimeMs command).2.2)
          commands := rest
          handlers := s.noteServed requester }
  | emitted (emission : Emission) (rest : List Emission) (owed : s.outbox = emission :: rest) :
      Move s .emit
        { s with
          compositor := { s.compositor with events := ⟨s.compositor.events.lastSeq + 1⟩ }
          outbox := rest
          channel := s.channel.send
            (emission.event (s.compositor.events.lastSeq + 1) s.uptimeMs) }
  | answered (snapshot : StateSnapshot) (drained : s.outbox = [])
      (serving : s.serving = some (.pump, .snapshot snapshot)) (waiting : s.pump = .querying) :
      Move s .reply { s with serving := none, pump := .answered snapshot s.log.length }
  | replied (id : ℕ) (handler after : Handler) (reply : Reply) (next : Option Command)
      (drained : s.outbox = []) (serving : s.serving = some (.handler id, reply))
      (found : s.handlers id = some handler) (answer : handler.answer reply = some (after, next)) :
      Move s .reply
        (State.setHandler
          { s with
            serving := none
            commands := s.commands ++ (next.map fun command => (.handler id, command)).toList }
          id after)
  | lagged (correlated : Option LaunchId) (missed : ℕ) (cursor : Cursor) (idle : s.pump = .idle)
      (recv : s.channel.recv s.cursor = (.lagged missed, cursor)) :
      Move s (.pumpRecv correlated)
        { s with
          cursor := cursor
          commands := s.commands ++ [(.pump, .queryState)]
          pump := .querying }
  | received (correlated : Option LaunchId) (event : RuntimeEvent) (cursor : Cursor)
      (observer : Observer.Run.State) (idle : s.pump = .idle)
      (recv : s.channel.recv s.cursor = (.value event, cursor))
      (began : Observer.Run.step s.observer (.handleEvent (correlateWindow correlated event)) =
        some observer) :
      Move s (.pumpRecv correlated)
        { s with
          observer := observer
          cursor := cursor
          pump := .observing (correlateWindow correlated event) }
  | sectioned (position : ℕ) (observer : Observer.Run.State)
      (accounts : (∃ event, s.pump = .observing event ∧ position = s.cursor.next) ∨
        s.pump = .resyncing position)
      (stepped : Observer.Run.step s.observer .pumpSection = some observer) :
      Move s .pumpStep { s with observer := observer, horizon := max s.horizon position }
  | bumped (observer : Observer.Run.State)
      (busy : (∃ event, s.pump = .observing event) ∨ ∃ position, s.pump = .resyncing position)
      (stepped : Observer.Run.step s.observer .pumpBump = some observer) :
      Move s .pumpStep { s with observer := observer }
  | inboxed (event : RuntimeEvent) (inbox : Notify.Run.State) (pumping : s.pump = .observing event)
      (idle : s.observer.pump = .idle)
      (stepped : Notify.Run.step s.inbox (.handleEvent event) = some inbox) :
      Move s .pumpStep { s with inbox := inbox, pump := .recording }
  | inboxBumped (inbox : Notify.Run.State) (pumping : s.pump = .recording)
      (stepped : Notify.Run.step s.inbox .bump = some inbox) :
      Move s .pumpStep { s with inbox := inbox, pump := .idle }
  | resyncBegan (snapshot : StateSnapshot) (position : ℕ) (observer : Observer.Run.State)
      (pumping : s.pump = .answered snapshot position)
      (stepped : Observer.Run.step s.observer (.resync (observerSnapshot snapshot)) =
        some observer) :
      Move s .pumpStep { s with observer := observer, pump := .resyncing position }
  | resyncDone (position : ℕ) (pumping : s.pump = .resyncing position)
      (idle : s.observer.pump = .idle) : Move s .pumpStep { s with pump := .idle }
  | synthesizing (id : ℕ) (synthesis : Synthesis) (phase : HandlerPhase) (command : Command)
      (unused : s.handlers id = none)
      (begins : (phase = .reading synthesis ∧ command = .queryState) ∨
        (phase = .reserving synthesis none ∧ command = .reserveSeq)) :
      Move s (.request id (.synthesize synthesis))
        (State.setHandler { s with commands := s.commands ++ [(.handler id, command)] } id
          ⟨.synthesize synthesis, phase, none, s.log.length, s.horizon, []⟩)
  | actionBegan (id : ℕ) (request : Request) (kind : ActionKind) (windowId : Option WindowId)
      (position : Option Position) (observer : Observer.Run.State) (unused : s.handlers id = none)
      (action : request.action = some (kind, windowId, position))
      (stepped : Observer.Run.step s.observer (.recordAction id kind windowId position) =
        some observer) :
      Move s (.request id request)
        (State.setHandler { s with observer := observer } id
          ⟨request, .recording, none, s.log.length, s.horizon, []⟩)
  | actionStepped (id : ℕ) (handler : Handler) (horizonAt : ℕ) (observer : Observer.Run.State)
      (found : s.handlers id = some handler) (recording : handler.phase = .recording)
      (marks : (∃ kind windowId position nowMs,
          s.observer.actors id = .stamped kind windowId position nowMs ∧ horizonAt = s.horizon) ∨
        ((∀ kind windowId position nowMs,
          s.observer.actors id ≠ .stamped kind windowId position nowMs) ∧
          horizonAt = handler.horizonAt))
      (stepped : Observer.Run.step s.observer (.actorStep id) = some observer) :
      Move s (.handlerStep id)
        (State.setHandler { s with observer := observer } id
          { handler with horizonAt := horizonAt })
  | actionRecorded (id : ℕ) (handler : Handler) (actionId : ActionId)
      (found : s.handlers id = some handler) (recording : handler.phase = .recording)
      (recorded : s.observer.actors id = .recorded actionId) :
      Move s (.handlerStep id) (s.setHandler id { handler with phase := .acting actionId })
  | clockRead (id : ℕ) (handler : Handler) (synthesis : Synthesis) (seq : ℕ) (tsMs : Option ℕ)
      (found : s.handlers id = some handler)
      (reserved : handler.phase = .reserved synthesis seq tsMs) :
      Move s (.handlerStep id)
        (s.setHandler id
          { handler with phase := .publishing synthesis seq (tsMs.getD s.observer.nowMs) })
  | issued (id : ℕ) (handler : Handler) (actionId : ActionId) (command : Command)
      (found : s.handlers id = some handler) (acting : handler.phase = .acting actionId)
      (allowed : handler.request.issues command = true) :
      Move s (.issue id command)
        (State.setHandler { s with commands := s.commands ++ [(.handler id, command)] } id
          { handler with phase := .commanded actionId })
  | finished (id : ℕ) (handler : Handler) (actionId : ActionId)
      (found : s.handlers id = some handler) (acting : handler.phase = .acting actionId) :
      Move s (.finish id) (s.setHandler id { handler with phase := .done })
  | published (id : ℕ) (handler : Handler) (synthesis : Synthesis) (seq tsMs : ℕ)
      (found : s.handlers id = some handler)
      (publishing : handler.phase = .publishing synthesis seq tsMs) :
      Move s (.publish id true)
        (State.setHandler { s with channel := s.channel.send (synthesis.event seq tsMs) } id
          { handler with phase := .done })
  | refused (id : ℕ) (handler : Handler) (synthesis : Synthesis) (seq tsMs : ℕ)
      (found : s.handlers id = some handler)
      (publishing : handler.phase = .publishing synthesis seq tsMs) :
      Move s (.publish id false) (s.setHandler id { handler with phase := .done })
  | waited (label : Observer.Run.Label) (observer : Observer.Run.State)
      (waiter : waiterLabel label = true)
      (stepped : Observer.Run.step s.observer label = some observer) :
      Move s (.wait label) { s with observer := observer }
  | inboxWaited (label : Notify.Run.Label) (inbox : Notify.Run.State)
      (client : clientLabel label = true)
      (stepped : Notify.Run.step s.inbox label = some inbox) :
      Move s (.inboxWait label) { s with inbox := inbox }

theorem observe_some {s t : State} {label : Observer.Run.Label}
    (taken : s.observe label = some t) :
    ∃ observer, Observer.Run.step s.observer label = some observer ∧
      t = { s with observer := observer } := by
  obtain ⟨observer, stepped, rfl⟩ := Option.map_eq_some_iff.mp taken
  exact ⟨observer, stepped, rfl⟩

theorem notify_some {s t : State} {label : Notify.Run.Label} (taken : s.notify label = some t) :
    ∃ inbox, Notify.Run.step s.inbox label = some inbox ∧ t = { s with inbox := inbox } := by
  obtain ⟨inbox, stepped, rfl⟩ := Option.map_eq_some_iff.mp taken
  exact ⟨inbox, stepped, rfl⟩

private theorem serve_move {s t : State} (taken : serve s = some t) : Move s .serve t := by
  unfold serve at taken
  split at taken
  · next free =>
    split at taken
    · cases taken
    · next requester command rest queue =>
      cases taken
      exact .served requester command rest free queue
  · cases taken

private theorem emit_move {s t : State} (taken : emit s = some t) : Move s .emit t := by
  unfold emit at taken
  split at taken
  · cases taken
  · next emission rest owed =>
    cases taken
    exact .emitted emission rest owed

private theorem reply_move {s t : State} (taken : deliverReply s = some t) : Move s .reply t := by
  unfold deliverReply at taken
  split at taken
  · next snapshot drained serving =>
    split at taken
    · next waiting =>
      cases taken
      exact .answered snapshot drained serving waiting
    · cases taken
  · next id reply drained serving =>
    obtain ⟨⟨after, next⟩, answered, rfl⟩ := Option.map_eq_some_iff.mp taken
    obtain ⟨handler, found, answer⟩ := Option.bind_eq_some_iff.mp answered
    exact .replied id handler after reply next drained serving found answer
  · cases taken

private theorem recv_move {s t : State} {correlated : Option LaunchId}
    (taken : pumpRecv s correlated = some t) : Move s (.pumpRecv correlated) t := by
  unfold pumpRecv at taken
  split at taken
  · next idle =>
    split at taken
    · next missed cursor recv =>
      cases taken
      exact .lagged correlated missed cursor idle recv
    · next event cursor recv =>
      obtain ⟨observer, began, rfl⟩ := observe_some taken
      exact .received correlated event cursor observer idle recv began
    · cases taken
  · cases taken

private theorem pump_move {s t : State} (taken : pumpStep s = some t) : Move s .pumpStep t := by
  unfold pumpStep at taken
  split at taken
  · next event pumping =>
    split at taken
    · next idle =>
      obtain ⟨inbox, stepped, rfl⟩ := notify_some taken
      exact .inboxed event inbox pumping idle stepped
    · obtain ⟨observer, stepped, rfl⟩ := observe_some taken
      exact .bumped observer (Or.inl ⟨event, pumping⟩) stepped
    · obtain ⟨observer, stepped, rfl⟩ := observe_some taken
      exact .sectioned s.cursor.next observer (Or.inl ⟨event, pumping, rfl⟩) stepped
    · obtain ⟨observer, stepped, rfl⟩ := observe_some taken
      exact .sectioned s.cursor.next observer (Or.inl ⟨event, pumping, rfl⟩) stepped
  · next pumping =>
    obtain ⟨inbox, stepped, rfl⟩ := notify_some taken
    exact .inboxBumped inbox pumping stepped
  · next snapshot position pumping =>
    obtain ⟨observer, stepped, rfl⟩ := observe_some taken
    exact .resyncBegan snapshot position observer pumping stepped
  · next position pumping =>
    split at taken
    · next idle =>
      cases taken
      exact .resyncDone position pumping idle
    · obtain ⟨observer, stepped, rfl⟩ := observe_some taken
      exact .bumped observer (Or.inr ⟨position, pumping⟩) stepped
    · obtain ⟨observer, stepped, rfl⟩ := observe_some taken
      exact .sectioned position observer (Or.inr pumping) stepped
    · obtain ⟨observer, stepped, rfl⟩ := observe_some taken
      exact .sectioned position observer (Or.inr pumping) stepped
  · cases taken
  · cases taken

private theorem action_began_move {s t : State} {id : ℕ} {request : Request}
    (unused : s.handlers id = none)
    (taken : request.action.bind (fun (kind, windowId, position) =>
      (s.setHandler id ⟨request, .recording, none, s.log.length, s.horizon, []⟩).observe
        (.recordAction id kind windowId position)) = some t) :
    Move s (.request id request) t := by
  obtain ⟨⟨kind, windowId, position⟩, action, began⟩ := Option.bind_eq_some_iff.mp taken
  obtain ⟨observer, stepped, rfl⟩ := observe_some began
  exact .actionBegan id request kind windowId position observer unused action stepped

private theorem request_move {s t : State} {id : ℕ} {request : Request}
    (taken : startRequest s id request = some t) : Move s (.request id request) t := by
  unfold startRequest at taken
  split at taken
  · cases taken
  · next unused =>
    split at taken
    · next synthesis =>
      cases reads : synthesis.readsState with
      | true =>
        simp only [reads, if_true, Option.some.injEq] at taken
        subst taken
        exact .synthesizing id synthesis _ _ unused (Or.inl ⟨rfl, rfl⟩)
      | false =>
        simp only [reads, Bool.false_eq_true, if_false, Option.some.injEq] at taken
        subst taken
        exact .synthesizing id synthesis _ _ unused (Or.inr ⟨rfl, rfl⟩)
    · exact action_began_move unused taken
    · exact action_began_move unused taken
    · exact action_began_move unused taken

private theorem same_handler {s : State} {id : ℕ} {handler : Handler}
    (found : s.handlers id = some handler) : s.setHandler id handler = s := by
  unfold State.setHandler
  rw [← found, Function.update_eq_self]

private theorem handler_move {s t : State} {id : ℕ} (taken : handlerStep s id = some t) :
    Move s (.handlerStep id) t := by
  obtain ⟨handler, found, stepped⟩ := Option.bind_eq_some_iff.mp taken
  -- A step that keeps the horizon still writes the handler back, unchanged.
  have kept : ∀ {t}, s.observe (.actorStep id) = some t →
      (∀ kind windowId position nowMs,
        s.observer.actors id ≠ .stamped kind windowId position nowMs) →
      handler.phase = .recording → Move s (.handlerStep id) t := by
    intro t observed marked recording
    obtain ⟨observer, step, rfl⟩ := observe_some observed
    have moved := Move.actionStepped id handler handler.horizonAt observer found recording
      (Or.inr ⟨marked, rfl⟩) step
    have same := congrArg (fun state : State => { state with observer := observer })
      (same_handler found)
    exact (show State.setHandler { s with observer := observer } id handler = _ from same) ▸ moved
  split at stepped
  · next recording =>
    split at stepped
    · next actionId recorded =>
      cases stepped
      exact .actionRecorded id handler actionId found recording recorded
    · next kind windowId position nowMs marked =>
      obtain ⟨observer, step, rfl⟩ := observe_some stepped
      exact .actionStepped id handler s.horizon observer found recording
        (Or.inl ⟨kind, windowId, position, nowMs, marked, rfl⟩) step
    · next acting => exact kept stepped (fun _ _ _ _ other => by simp [acting] at other) recording
    · next acting => exact kept stepped (fun _ _ _ _ other => by simp [acting] at other) recording
    · next acting => exact kept stepped (fun _ _ _ _ other => by simp [acting] at other) recording
  · next synthesis seq tsMs reserved =>
    cases stepped
    exact .clockRead id handler synthesis seq tsMs found reserved
  · cases stepped

private theorem issue_move {s t : State} {id : ℕ} {command : Command}
    (taken : issueCommand s id command = some t) : Move s (.issue id command) t := by
  obtain ⟨handler, found, stepped⟩ := Option.bind_eq_some_iff.mp taken
  split at stepped
  · next actionId acting =>
    split at stepped
    · next allowed =>
      cases stepped
      exact .issued id handler actionId command found acting allowed
    · cases stepped
  · cases stepped

private theorem finish_move {s t : State} {id : ℕ} (taken : finishRequest s id = some t) :
    Move s (.finish id) t := by
  obtain ⟨handler, found, stepped⟩ := Option.bind_eq_some_iff.mp taken
  split at stepped
  · next actionId acting =>
    cases stepped
    exact .finished id handler actionId found acting
  · cases stepped

private theorem publish_move {s t : State} {id : ℕ} {stored : Bool}
    (taken : publish s id stored = some t) : Move s (.publish id stored) t := by
  obtain ⟨handler, found, stepped⟩ := Option.bind_eq_some_iff.mp taken
  split at stepped
  · next synthesis seq tsMs publishing =>
    cases stepped
    cases stored with
    | true => exact .published id handler synthesis seq tsMs found publishing
    | false => exact .refused id handler synthesis seq tsMs found publishing
  · cases stepped

/-- Every step of the runtime is one of the moves. -/
theorem step_move {s t : State} {label : Label} (taken : step s label = some t) :
    Move s label t := by
  cases label with
  | tick nanos =>
    cases taken
    exact .ticked nanos
  | client request =>
    simp only [step] at taken
    split at taken
    · next free =>
      cases taken
      exact .client request free
    · cases taken
  | serve => exact serve_move taken
  | emit => exact emit_move taken
  | reply => exact reply_move taken
  | pumpRecv correlated => exact recv_move taken
  | pumpStep => exact pump_move taken
  | request id request => exact request_move taken
  | handlerStep id => exact handler_move taken
  | issue id command => exact issue_move taken
  | finish id => exact finish_move taken
  | publish id stored => exact publish_move taken
  | wait label =>
    simp only [step] at taken
    split at taken
    · next waiter =>
      obtain ⟨observer, stepped, rfl⟩ := observe_some taken
      exact .waited label observer waiter stepped
    · cases taken
  | inboxWait label =>
    simp only [step] at taken
    split at taken
    · next client =>
      obtain ⟨inbox, stepped, rfl⟩ := notify_some taken
      exact .inboxWaited label inbox client stepped
    · cases taken

end ADesk.Runtime.Steps
