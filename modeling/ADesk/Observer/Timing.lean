/- ADesk/Observer/Timing
   digest: How a wait moves from one clock reading to the next, and the clock under every step. -/

import ADesk.Observer.Steps

set_option autoImplicit false

namespace ADesk.Observer.Timing

open ADesk.Core.Event (Observation)
open ADesk.Core.Time (Instant)
open ADesk.Foundation.Execution
open ADesk.Observer.ClockDomain
open ADesk.Observer.Run
open ADesk.Observer.Service
open ADesk.Observer.Steps
open ADesk.Observer.Waiter

/-- The phases in which a wait holds no clock reading and nothing derived from one. -/
def WaitPhase.timeless : WaitPhase → Bool
  | .checking | .subscribing | .registering | .looping | .reading _ | .failed _ | .cancelled => true
  | .absorbing .. | .deciding .. | .scheduling _ | .parked _ | .stamping _ | .resolving ..
  | .releasing _ | .done _ => false

/-- What a step of a wait does to its phase; plan and accumulator stay unless it absorbs. -/
inductive Timed (s : Run.State) (wait : Wait) : Wait → Prop
  | timeless (moved : Wait) (plan : moved.plan = wait.plan)
      (idle : WaitPhase.timeless moved.phase = true) : Timed s wait moved
  | read (generation : ℕ) (phase : wait.phase = .reading generation) :
      Timed s wait { wait with phase := .absorbing generation s.nowMs }
  | absorbed (generation now : ℕ) (phase : wait.phase = .absorbing generation now) :
      Timed s wait (absorbStep s wait generation now)
  | decided (generation now anchor : ℕ) (met : Bool)
      (phase : wait.phase = .deciding generation now anchor met) :
      Timed s wait { wait with phase := decideWait s wait.plan generation now anchor met }
  | scheduled (horizon : ℕ) (phase : wait.phase = .scheduling horizon) :
      Timed s wait { wait with phase := .parked (s.clock.deadline s.instant horizon) }
  | stamped (timedOut : Bool) (phase : wait.phase = .stamping timedOut) :
      Timed s wait { wait with phase := .resolving timedOut s.nowMs }
  | resolved (timedOut : Bool) (nowMs : ℕ) (phase : wait.phase = .resolving timedOut nowMs) :
      Timed s wait { wait with
        phase := .releasing (resolveSection s.service wait.plan wait.accumulator nowMs timedOut) }
  | released (observation : Observation) (phase : wait.phase = .releasing observation) :
      Timed s wait { wait with phase := .done observation }

theorem advance_timed {s : Run.State} {wait moved : Wait} {service : ServiceState}
    (taken : advanceWait s wait = some (service, moved)) : Timed s wait moved := by
  unfold advanceWait at taken
  cases phase : wait.phase with
  | checking =>
    simp only [phase] at taken
    cases window : wait.plan.windowId with
    | none =>
      simp only [window] at taken
      cases taken
      exact .timeless _ rfl rfl
    | some windowId =>
      simp only [window] at taken
      split at taken
      · cases taken
        exact .timeless _ rfl rfl
      · cases taken
        exact .timeless _ rfl rfl
  | subscribing | registering | looping =>
    simp only [phase] at taken
    cases taken
    exact .timeless _ rfl rfl
  | reading generation =>
    simp only [phase] at taken
    cases taken
    exact .read generation phase
  | absorbing generation now =>
    simp only [phase] at taken
    cases taken
    exact .absorbed generation now phase
  | deciding generation now anchor met =>
    simp only [phase] at taken
    cases taken
    exact .decided generation now anchor met phase
  | scheduling horizon =>
    simp only [phase] at taken
    cases taken
    exact .scheduled horizon phase
  | stamping timedOut =>
    simp only [phase] at taken
    cases taken
    exact .stamped timedOut phase
  | resolving timedOut nowMs =>
    simp only [phase] at taken
    cases taken
    exact .resolved timedOut nowMs phase
  | releasing observation =>
    simp only [phase] at taken
    cases taken
    exact .released observation phase
  | parked | done | failed | cancelled => simp [phase] at taken

/-- What a step does to the wait in one slot. -/
inductive SlotMove (s : Run.State) (label : Label) (waiter : ℕ) (moved : Wait) : Prop
  | kept (same : s.waits waiter = .running moved) : SlotMove s label waiter moved
  | begun (plan : WaitPlan) (fresh : moved = Wait.start plan)
      (idle : ∀ wait, s.waits waiter ≠ .running wait) : SlotMove s label waiter moved
  | moved (wait : Wait) (running : s.waits waiter = .running wait) (timed : Timed s wait moved)
      (step : label = .waitStep waiter ∨ WaitPhase.timeless moved.phase = true) :
      SlotMove s label waiter moved

/-- A task that one waiter's step puts into its slot, seen from any slot. -/
theorem slot_of_set {s : Run.State} {label : Label} {waiter mover : ℕ} {service : ServiceState}
    {task : WaitTask} {moved : Wait}
    (running : ({ s with service := service }.setWait mover task).waits waiter = .running moved)
    (own : waiter = mover → task = .running moved → SlotMove s label waiter moved) :
    SlotMove s label waiter moved := by
  by_cases same : waiter = mover
  · subst same
    have found : task = .running moved := by
      rw [← running]
      exact (Function.update_self waiter task s.waits).symm
    exact own rfl found
  · refine .kept ?_
    rw [← running]
    exact (Function.update_of_ne same task s.waits).symm

theorem slot_step {s t : Run.State} {label : Label} {waiter : ℕ} {moved : Wait}
    (taken : step s label = some t) (running : t.waits waiter = .running moved) :
    SlotMove s label waiter moved := by
  cases label with
  | tick nanos =>
    cases taken
    exact .kept running
  | handleEvent event =>
    simp only [step] at taken
    split at taken
    · cases taken
      exact .kept running
    · cases taken
  | resync snapshot =>
    simp only [step] at taken
    split at taken
    · cases taken
      exact .kept running
    · cases taken
  | pumpSection | pumpBump | recordAction | actorStep =>
    have still : t.waits = s.waits := by
      have moves := env_step_cases rfl taken
      cases moves <;> rfl
    rw [still] at running
    exact .kept running
  | callWait mover request =>
    simp only [step] at taken
    split at taken
    · cases taken
      refine slot_of_set running fun _ found => ?_
      cases found
    · cases taken
  | runWait mover plan =>
    simp only [step] at taken
    split at taken
    · next idle =>
      cases taken
      refine slot_of_set running fun own found => ?_
      cases found
      refine .begun plan rfl fun wait busy => ?_
      rw [own, idle] at busy
      cases busy
    · cases taken
  | waitStep mover =>
    simp only [step, waitStep] at taken
    split at taken
    · next request startedAt calling =>
      cases taken
      refine slot_of_set running fun own found => ?_
      split at found
      · next plan planned =>
        cases found
        refine .begun plan rfl fun wait busy => ?_
        rw [own, calling] at busy
        cases busy
      · cases found
    · next wait task =>
      split at taken
      · next service after advanced =>
        cases taken
        refine slot_of_set running fun own found => ?_
        cases found
        exact .moved wait (own ▸ task) (advance_timed advanced) (Or.inl (own ▸ rfl))
      · cases taken
    · cases taken
    · cases taken
  | wakeChanged mover =>
    simp only [step] at taken
    split at taken
    · next wait task =>
      split at taken
      · split at taken
        · cases taken
          refine slot_of_set running fun own found => ?_
          cases found
          exact .moved wait (own ▸ task) (.timeless _ rfl rfl) (Or.inr rfl)
        · cases taken
      · cases taken
    · cases taken
  | wakeTimer mover =>
    simp only [step] at taken
    split at taken
    · next wait task =>
      split at taken
      · split at taken
        · cases taken
          refine slot_of_set running fun own found => ?_
          cases found
          exact .moved wait (own ▸ task) (.timeless _ rfl rfl) (Or.inr rfl)
        · cases taken
      · cases taken
    · cases taken
  | cancelWait mover =>
    simp only [step] at taken
    split at taken
    · next wait task =>
      split at taken
      · cases taken
        refine slot_of_set running fun own found => ?_
        cases found
        exact .moved wait (own ▸ task) (.timeless _ rfl rfl) (Or.inr rfl)
      · cases taken
    · cases taken

/-- No step moves the estimate of an instant from now on backwards. -/
theorem step_now {s t : Run.State} {label : Label} (taken : step s label = some t) :
    s.instant ≤ t.instant ∧ ∀ instant, s.clock.nowMs instant ≤ t.clock.nowMs instant := by
  have still : ∀ {service : ServiceState} {mover : ℕ} {task : WaitTask},
      t = { s with service := service }.setWait mover task →
      s.instant ≤ t.instant ∧ ∀ instant, s.clock.nowMs instant ≤ t.clock.nowMs instant := by
    intro service mover task same
    subst same
    exact ⟨Nat.le_refl _, fun _ => Nat.le_refl _⟩
  cases label with
  | tick nanos =>
    cases taken
    exact ⟨Nat.le_add_right _ _, fun _ => Nat.le_refl _⟩
  | handleEvent event =>
    simp only [step] at taken
    split at taken
    · cases taken
      exact ⟨Nat.le_refl _, fun instant => observe_ts_ahead s.clock s.instant instant event.tsMs⟩
    · cases taken
  | resync snapshot =>
    simp only [step] at taken
    split at taken
    · cases taken
      exact ⟨Nat.le_refl _, fun instant => observe_ts_ahead s.clock s.instant instant snapshot.tsMs⟩
    · cases taken
  | pumpSection | pumpBump | recordAction | actorStep =>
    have moves := env_step_cases rfl taken
    cases moves <;> exact ⟨Nat.le_refl _, fun _ => Nat.le_refl _⟩
  | callWait | runWait | waitStep | wakeChanged | wakeTimer | cancelWait =>
    obtain ⟨mover, task, moves⟩ := waiter_step_cases rfl taken
    obtain ⟨service, _, same⟩ := moves.shared
    exact still same

theorem step_now_ms {s t : Run.State} {label : Label} (taken : step s label = some t) :
    s.nowMs ≤ t.nowMs := by
  obtain ⟨later, ahead⟩ := step_now taken
  exact Nat.le_trans (now_ms_later s.clock later) (ahead t.instant)

/-- A waiter's step reads no other clock than its own state's. -/
theorem wait_step_clock {s t : Run.State} {label : Label} (moving : byWaiter label = true)
    (taken : step s label = some t) : t.clock = s.clock ∧ t.instant = s.instant := by
  obtain ⟨mover, task, moves⟩ := waiter_step_cases moving taken
  obtain ⟨service, _, same⟩ := moves.shared
  subst same
  exact ⟨rfl, rfl⟩

end ADesk.Observer.Timing
