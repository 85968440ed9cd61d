/- ADesk/Wakeup
   digest: A parked waiter of the observer or of the inbox that has not examined everything recorded
   is ready to wake, or will be with the bump that the pump owes. -/

import ADesk.Notify.Invariants
import ADesk.Observer.Invariants

set_option autoImplicit false

namespace ADesk.Wakeup

open ADesk.Core.Time (wrappingAdd Instant)
open ADesk.Foundation.Execution
open ADesk.Foundation.WatchChannel

/-! ## `run_wait` -/

namespace ObserverSide

open ADesk.Observer.Run
open ADesk.Observer.Invariants

/-- The journal holds an event that a section after the wait's last check pushed. -/
def Unexamined (s : State) (wait : Wait) : Prop :=
  ∃ event ∈ s.service.journal.buf, event ∈ pushedFrom s wait.examined

/-- The wait that is parked, with the instant its timer fires. -/
def parkedWait (s : State) (waiter : ℕ) : Option (Wait × Instant) :=
  match s.waits waiter with
  | .running wait =>
    match wait.phase with
    | .parked sleepUntil => some (wait, sleepUntil)
    | _ => none
  | _ => none

/-- The next bump of the generation is owed and makes the receiver ready. -/
def BumpWakes (s : State) (receiver : Receiver) : Prop :=
  ∃ t, step s .pumpBump = some t ∧ receiver.Unseen t.events

private theorem parked_wait_running {s : State} {waiter : ℕ} {wait : Wait} {sleepUntil : Instant}
    (parked : parkedWait s waiter = some (wait, sleepUntil)) :
    s.waits waiter = .running wait ∧ wait.phase = .parked sleepUntil := by
  unfold parkedWait at parked
  split at parked
  · next running task =>
    split at parked
    · next until' phase =>
      cases parked
      exact ⟨task, phase⟩
    · cases parked
  · cases parked

private theorem wait_wakes {s : State} (reached : Reachable machine anyStep s) {waiter : ℕ}
    {wait : Wait} {sleepUntil : Instant} (parked : parkedWait s waiter = some (wait, sleepUntil))
    (unexamined : Unexamined s wait) :
    wait.receiver.Unseen s.events ∨ BumpWakes s wait.receiver := by
  obtain ⟨running, phase⟩ := parked_wait_running parked
  have sound := sound_of_reachable reached
  have held := sound.waits waiter wait running
  have order := held.settled (by rw [phase]; rfl)
  have behind : wait.examined < s.sections.length := by
    obtain ⟨event, _, pushed⟩ := unexamined
    by_contra done
    rw [pushedFrom, List.drop_eq_nil_of_le (Nat.le_of_not_lt done)] at pushed
    cases pushed
  rcases sound.ledger.unseen_or_owed order behind with unseen | owing
  · exact Or.inl unseen
  · have bumping : s.pump = .bumping := by
      by_contra other
      simp [owed, other] at owing
    have taken : step s .pumpBump =
        some { s with events := bumpGeneration s.events, pump := .idle } := by
      simp only [step, bumping]
    exact Or.inr ⟨_, taken, unseen_after_bump _ held.seen⟩

end ObserverSide

/-! ## `wait_for_events` -/

namespace InboxSide

open ADesk.Notify.Run
open ADesk.Notify.Invariants

/-- The journal holds an event recorded after the call last read it. -/
def Unexamined (s : State) (call : Call) : Prop :=
  ∃ event ∈ s.inbox.journal, event ∈ s.recorded.drop call.examined

def parkedCall (s : State) (id : ℕ) : Option Call :=
  (s.clients id).call.bind fun call => if call.phase = .parked then some call else none

def BumpWakes (s : State) (receiver : Receiver) : Prop :=
  ∃ t, step s .bump = some t ∧ receiver.Unseen t.events

private theorem call_wakes {capacity : ℕ} {s : State}
    (reached : Reachable (machine capacity) anyStep s) {id : ℕ} {call : Call}
    (parked : parkedCall s id = some call) (unexamined : Unexamined s call) :
    call.receiver.Unseen s.events ∨ BumpWakes s call.receiver := by
  obtain ⟨found, pending, phase⟩ := Option.bind_eq_some_iff.mp parked
  have settled : found = call ∧ call.phase = .parked := by
    split at phase
    · next isParked =>
      cases phase
      exact ⟨rfl, isParked⟩
    · cases phase
  obtain ⟨rfl, isParked⟩ := settled
  have sound := sound_of_reachable reached
  have held := sound.calls id found pending
  have order := held.settled (by rw [isParked]; rfl)
  have behind : found.examined < s.recorded.length := by
    obtain ⟨event, _, late⟩ := unexamined
    by_contra done
    rw [List.drop_eq_nil_of_le (Nat.le_of_not_lt done)] at late
    cases late
  rcases sound.ledger.unseen_or_owed order behind with unseen | owing
  · exact Or.inl unseen
  · have unbumped : s.unbumped = true := by
      by_contra other
      simp [owed, other] at owing
    have taken : step s .bump = some
        { s with
          events := s.events.sendModify (fun generation => wrappingAdd generation 1)
          unbumped := false } := by
      simp only [step, if_pos unbumped]
    exact Or.inr ⟨_, taken, unseen_after_bump _ held.seen⟩

end InboxSide

/-- No lost wakeup: a parked waiter with an unexamined event has an unseen generation, or the
pump stands between recording the event and the bump that makes it so. -/
theorem unexamined_event_wakes :
    (∀ (s : Observer.Run.State) (waiter : ℕ) (wait : Observer.Run.Wait) (sleepUntil : Instant),
      Reachable Observer.Run.machine anyStep s →
      ObserverSide.parkedWait s waiter = some (wait, sleepUntil) →
      ObserverSide.Unexamined s wait →
        wait.receiver.Unseen s.events ∨ ObserverSide.BumpWakes s wait.receiver) ∧
    ∀ (capacity : ℕ) (s : Notify.Run.State) (client : ℕ) (call : Notify.Run.Call),
      Reachable (Notify.Run.machine capacity) anyStep s →
      InboxSide.parkedCall s client = some call → InboxSide.Unexamined s call →
        call.receiver.Unseen s.events ∨ InboxSide.BumpWakes s call.receiver :=
  ⟨fun _ _ _ _ reached parked unexamined => ObserverSide.wait_wakes reached parked unexamined,
    fun _ _ _ _ reached parked unexamined => InboxSide.call_wakes reached parked unexamined⟩

/-- A waiter parks, and an event is recorded but not announced yet. -/
def recordedRun : List Observer.Run.Label :=
  .callWait 0 (.waitForChange {}) :: List.replicate 9 (.waitStep 0) ++
    [.handleEvent (.windowDestroyed 1 0 ⟨1⟩), .pumpSection]

def recordedState : Observer.Run.State :=
  finalState Observer.Run.machine anyStep recordedRun (by decide +kernel)

/-- The same for a waiting client of the inbox. -/
def inboxRun : List Notify.Run.Label :=
  .waitForEvents 0 {} :: List.replicate 5 (.callStep 0) ++
    [.handleEvent (.windowDestroyed 1 0 ⟨1⟩)]

def inboxState : Notify.Run.State :=
  finalState (Notify.Run.machine 16) anyStep inboxRun (by decide +kernel)

instance (s : Observer.Run.State) (wait : Observer.Run.Wait) :
    Decidable (ObserverSide.Unexamined s wait) :=
  inferInstanceAs (Decidable (∃ event ∈ s.service.journal.buf, _))

instance (s : Notify.Run.State) (call : Notify.Run.Call) :
    Decidable (InboxSide.Unexamined s call) :=
  inferInstanceAs (Decidable (∃ event ∈ s.inbox.journal, _))

private theorem recorded_parked :
    (ObserverSide.parkedWait recordedState 0).isSome = true := by decide +kernel

private theorem recorded_unexamined :
    ObserverSide.Unexamined recordedState
      ((ObserverSide.parkedWait recordedState 0).get recorded_parked).1 := by decide +kernel

private theorem inbox_parked : (InboxSide.parkedCall inboxState 0).isSome = true := by
  decide +kernel

private theorem inbox_unexamined :
    InboxSide.Unexamined inboxState ((InboxSide.parkedCall inboxState 0).get inbox_parked) := by
  decide +kernel

theorem unexamined_event_wakes_recorded :
    (∃ receiver : Receiver,
      receiver.Unseen recordedState.events ∨ ObserverSide.BumpWakes recordedState receiver) ∧
    ∃ receiver : Receiver,
      receiver.Unseen inboxState.events ∨ InboxSide.BumpWakes inboxState receiver :=
  ⟨⟨_, unexamined_event_wakes.1 recordedState 0 _ _
      (final_state_reachable Observer.Run.machine anyStep recordedRun (by decide +kernel))
      (Option.some_get recorded_parked).symm recorded_unexamined⟩,
    ⟨_, unexamined_event_wakes.2 16 inboxState 0 _
      (final_state_reachable (Notify.Run.machine 16) anyStep inboxRun (by decide +kernel))
      (Option.some_get inbox_parked).symm inbox_unexamined⟩⟩

/-- Between recording and bumping, a parked waiter has an unexamined event and nothing unseen. -/
theorem recorded_before_bump :
    ¬ ((∀ (s : Observer.Run.State) (waiter : ℕ) (wait : Observer.Run.Wait)
        (sleepUntil : Instant), Reachable Observer.Run.machine anyStep s →
        ObserverSide.parkedWait s waiter = some (wait, sleepUntil) →
        ObserverSide.Unexamined s wait → wait.receiver.Unseen s.events) ∧
      ∀ (capacity : ℕ) (s : Notify.Run.State) (client : ℕ) (call : Notify.Run.Call),
        Reachable (Notify.Run.machine capacity) anyStep s →
        InboxSide.parkedCall s client = some call → InboxSide.Unexamined s call →
          call.receiver.Unseen s.events) := by
  rintro ⟨observed, _⟩
  have unseen := observed recordedState 0 _ _
    (final_state_reachable Observer.Run.machine anyStep recordedRun (by decide +kernel))
    (Option.some_get recorded_parked).symm recorded_unexamined
  revert unseen
  decide +kernel

end ADesk.Wakeup
